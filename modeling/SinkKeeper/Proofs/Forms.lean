import Mathlib.Tactic.SplitIfs
import SinkKeeper.Text.Form

/-!
# Forms are read as they are written

Characters come back from their UTF-8 bytes, bytes from their escapes, and pairs from the line they are written on.
No name and no value can end its pair or begin another one.
-/

namespace SinkKeeper.Text

/-! ## Characters from bytes -/

namespace Utf8

variable {n owed low high seen code : Nat} {b : UInt8} {rest : List UInt8}

theorem toNat_toUInt8 (h : n < 256) : n.toUInt8.toNat = n := by
  rw [Nat.toUInt8_eq, UInt8.toNat_ofNat', Nat.mod_eq_of_lt h]

/-- The bits that a first byte holds of a character, by the number of bytes that follow. -/
def leadBits (owed n : Nat) : Nat := if owed = 1 then n % 0x20 else if owed = 2 then n % 0x10 else n % 0x08

theorem front_lead (hlow : 0x80 ≤ b.toNat) (hlead : lead? b.toNat = some (owed, low, high)) :
    front b rest = continued 1 (leadBits owed b.toNat) owed low high rest := by
  unfold front
  simp only [hlead]
  rw [if_neg (by omega)]
  rfl

theorem continued_cons (hlow : low ≤ b.toNat) (hhigh : b.toNat ≤ high) :
    continued seen code (owed + 1) low high (b :: rest) =
      continued (seen + 1) (code * 0x40 + b.toNat % 0x40) owed 0x80 0xBF rest := by
  rw [continued, if_pos ⟨hlow, hhigh⟩]

theorem continued_bits (n : Nat) :
    continued seen code (owed + 1) 0x80 0xBF ((0x80 + n % 0x40).toUInt8 :: rest) =
      continued (seen + 1) (code * 0x40 + n % 0x40) owed 0x80 0xBF rest := by
  have hb : (0x80 + n % 0x40).toUInt8.toNat = 0x80 + n % 0x40 := toNat_toUInt8 (by omega)
  have hbits : (0x80 + n % 0x40) % 0x40 = n % 0x40 := by omega
  rw [continued_cons (by omega) (by omega), hb, hbits]

/-- The range that a first byte leaves to the second keeps out longer spellings and halves of pairs. -/
theorem lead?_three (hlow : 0x800 ≤ n) (hhigh : n < 0x10000) (hvalid : n < 0xD800 ∨ 0xDFFF < n) :
    ∃ low high, lead? (0xE0 + n / 0x1000) = some (2, low, high) ∧
      low ≤ 0x80 + n / 0x40 % 0x40 ∧ 0x80 + n / 0x40 % 0x40 ≤ high := by
  rw [lead?, if_neg (by omega)]
  by_cases hzero : n / 0x1000 = 0
  · exact ⟨_, _, if_pos (by omega), by omega, by omega⟩
  rw [if_neg (by omega)]
  by_cases hpairs : n / 0x1000 = 13
  · exact ⟨_, _, if_pos (by omega), by omega, by omega⟩
  · rw [if_neg (by omega)]
    exact ⟨_, _, if_pos (by omega), by omega, by omega⟩

theorem lead?_four (hlow : 0x10000 ≤ n) (hhigh : n < 0x110000) :
    ∃ low high, lead? (0xF0 + n / 0x40000) = some (3, low, high) ∧
      low ≤ 0x80 + n / 0x1000 % 0x40 ∧ 0x80 + n / 0x1000 % 0x40 ≤ high := by
  rw [lead?, if_neg (by omega), if_neg (by omega), if_neg (by omega), if_neg (by omega)]
  by_cases hzero : n / 0x40000 = 0
  · exact ⟨_, _, if_pos (by omega), by omega, by omega⟩
  rw [if_neg (by omega)]
  by_cases hlast : n / 0x40000 = 4
  · rw [if_neg (by omega)]
    exact ⟨_, _, if_pos (by omega), by omega, by omega⟩
  · exact ⟨_, _, if_pos (by omega), by omega, by omega⟩

theorem front_one (h : n < 0x80) : front n.toUInt8 rest = .char (Char.ofNat n) 1 := by
  have hb : n.toUInt8.toNat = n := toNat_toUInt8 (by omega)
  rw [front, hb, if_pos h]

theorem front_two (hlow : 0x80 ≤ n) (hhigh : n < 0x800) :
    front (0xC0 + n / 0x40).toUInt8 ((0x80 + n % 0x40).toUInt8 :: rest) = .char (Char.ofNat n) 2 := by
  have hb : (0xC0 + n / 0x40).toUInt8.toNat = 0xC0 + n / 0x40 := toNat_toUInt8 (by omega)
  have hlead : lead? (0xC0 + n / 0x40).toUInt8.toNat = some (1, 0x80, 0xBF) := by
    rw [hb, lead?, if_pos (by omega)]
  have hcode : leadBits 1 (0xC0 + n / 0x40) * 0x40 + n % 0x40 = n := by
    change (0xC0 + n / 0x40) % 0x20 * 0x40 + n % 0x40 = n
    omega
  rw [front_lead (by omega) hlead, continued_bits, hb, hcode, continued]

theorem front_three (hlow : 0x800 ≤ n) (hhigh : n < 0x10000) (hvalid : n < 0xD800 ∨ 0xDFFF < n) :
    front (0xE0 + n / 0x1000).toUInt8 ((0x80 + n / 0x40 % 0x40).toUInt8 :: (0x80 + n % 0x40).toUInt8 :: rest) =
      .char (Char.ofNat n) 3 := by
  have hb : (0xE0 + n / 0x1000).toUInt8.toNat = 0xE0 + n / 0x1000 := toNat_toUInt8 (by omega)
  have hc : (0x80 + n / 0x40 % 0x40).toUInt8.toNat = 0x80 + n / 0x40 % 0x40 := toNat_toUInt8 (by omega)
  have hcode : (leadBits 2 (0xE0 + n / 0x1000) * 0x40 + (0x80 + n / 0x40 % 0x40) % 0x40) * 0x40 + n % 0x40 = n := by
    change ((0xE0 + n / 0x1000) % 0x10 * 0x40 + (0x80 + n / 0x40 % 0x40) % 0x40) * 0x40 + n % 0x40 = n
    omega
  obtain ⟨low, high, hlead, hleast, hmost⟩ := lead?_three hlow hhigh hvalid
  rw [← hb] at hlead
  rw [front_lead (by omega) hlead, continued_cons (by omega) (by omega), continued_bits, hb, hc, hcode, continued]

theorem front_four (hlow : 0x10000 ≤ n) (hhigh : n < 0x110000) :
    front (0xF0 + n / 0x40000).toUInt8 ((0x80 + n / 0x1000 % 0x40).toUInt8 ::
      (0x80 + n / 0x40 % 0x40).toUInt8 :: (0x80 + n % 0x40).toUInt8 :: rest) = .char (Char.ofNat n) 4 := by
  have hb : (0xF0 + n / 0x40000).toUInt8.toNat = 0xF0 + n / 0x40000 := toNat_toUInt8 (by omega)
  have hc : (0x80 + n / 0x1000 % 0x40).toUInt8.toNat = 0x80 + n / 0x1000 % 0x40 := toNat_toUInt8 (by omega)
  have hcode : ((leadBits 3 (0xF0 + n / 0x40000) * 0x40 + (0x80 + n / 0x1000 % 0x40) % 0x40) * 0x40 +
      n / 0x40 % 0x40) * 0x40 + n % 0x40 = n := by
    change (((0xF0 + n / 0x40000) % 0x08 * 0x40 + (0x80 + n / 0x1000 % 0x40) % 0x40) * 0x40 +
      n / 0x40 % 0x40) * 0x40 + n % 0x40 = n
    omega
  obtain ⟨low, high, hlead, hleast, hmost⟩ := lead?_four hlow hhigh
  rw [← hb] at hlead
  rw [front_lead (by omega) hlead, continued_cons (by omega) (by omega), continued_bits, continued_bits, hb, hc,
    hcode, continued]

/-- The bytes of a character are read as that character, whatever comes after them. -/
theorem front_encodeCode (c : Char) (rest : List UInt8) :
    ∃ b tail, encodeCode c.toNat = b :: tail ∧ front b (tail ++ rest) = .char c (tail.length + 1) := by
  have hvalid : c.toNat < 0xD800 ∨ 0xDFFF < c.toNat ∧ c.toNat < 0x110000 := c.valid
  suffices h : ∃ b tail, encodeCode c.toNat = b :: tail ∧
      front b (tail ++ rest) = .char (Char.ofNat c.toNat) (tail.length + 1) by
    rwa [Char.ofNat_toNat] at h
  generalize c.toNat = n at hvalid
  unfold encodeCode
  split_ifs with h1 h2 h3
  · exact ⟨_, _, rfl, front_one h1⟩
  · exact ⟨_, _, rfl, front_two (by omega) h2⟩
  · exact ⟨_, _, rfl, front_three (by omega) h3 (by omega)⟩
  · exact ⟨_, _, rfl, front_four (by omega) (by omega)⟩

theorem replacingFrom_skip (tail rest : List UInt8) :
    replacingFrom tail.length (tail ++ rest) = replacingFrom 0 rest := by
  induction tail with
  | nil => rfl
  | cons b tail ih => exact ih

theorem replacingFrom_encodeCode (c : Char) (rest : List UInt8) :
    replacingFrom 0 (encodeCode c.toNat ++ rest) = c :: replacingFrom 0 rest := by
  obtain ⟨b, tail, hcode, hfront⟩ := front_encodeCode c rest
  rw [hcode, List.cons_append, replacingFrom, hfront]
  exact congrArg (c :: ·) (replacingFrom_skip tail rest)

theorem decodeReplacing_encode (cs : List Char) : decodeReplacing (encode cs) = cs := by
  unfold decodeReplacing encode
  induction cs with
  | nil => rfl
  | cons c cs ih => rw [List.flatMap_cons, replacingFrom_encodeCode, ih]

end Utf8

/-! ## Pieces of a joined text -/

section Pieces

variable {separator : Char} {cs : List Char}

theorem pieces_of_none (h : ∀ c ∈ cs, c ≠ separator) : pieces separator cs = [cs] := by
  induction cs with
  | nil => rfl
  | cons c cs ih =>
      rw [pieces, if_neg (h c List.mem_cons_self), ih fun d hd => h d (List.mem_cons_of_mem c hd)]

theorem pieces_append (h : ∀ c ∈ cs, c ≠ separator) (rest : List Char) :
    pieces separator (cs ++ separator :: rest) = cs :: pieces separator rest := by
  induction cs with
  | nil => rw [List.nil_append, pieces, if_pos rfl]
  | cons c cs ih =>
      rw [List.cons_append, pieces, if_neg (h c List.mem_cons_self), ih fun d hd => h d (List.mem_cons_of_mem c hd)]

theorem pieces_eq_pair_iff {first last : List Char} :
    pieces separator cs = [first, last] ↔ cs = first ++ separator :: last ∧ separator ∉ first ∧ separator ∉ last := by
  have hne : ∀ {ds : List Char}, separator ∉ ds → ∀ d ∈ ds, d ≠ separator := by
    rintro ds h _ hd rfl
    exact h hd
  constructor
  · intro h
    by_cases hcs : separator ∈ cs
    · obtain ⟨front, rest, rfl, hfront⟩ := List.eq_append_cons_of_mem hcs
      rw [pieces_append (hne hfront)] at h
      obtain ⟨rfl, hrest⟩ := List.cons_eq_cons.mp h
      by_cases hmore : separator ∈ rest
      · obtain ⟨middle, more, rfl, hmiddle⟩ := List.eq_append_cons_of_mem hmore
        rw [pieces_append (hne hmiddle)] at hrest
        exact absurd (List.cons_eq_cons.mp hrest).2 (pieces_ne_nil separator more)
      · rw [pieces_of_none (hne hmore)] at hrest
        obtain ⟨rfl, -⟩ := List.cons_eq_cons.mp hrest
        exact ⟨rfl, hfront, hmore⟩
    · rw [pieces_of_none (hne hcs)] at h
      simp at h
  · rintro ⟨rfl, hfirst, hlast⟩
    rw [pieces_append (hne hfirst), pieces_of_none (hne hlast)]

theorem pieces_join {texts : List String} (hne : texts ≠ [])
    (h : ∀ s ∈ texts, ∀ c ∈ s.toList, c ≠ separator) :
    pieces separator (join (String.singleton separator) texts).toList = texts.map String.toList := by
  induction texts with
  | nil => exact absurd rfl hne
  | cons s texts ih =>
      have hs : ∀ c ∈ s.toList, c ≠ separator := h s List.mem_cons_self
      cases texts with
      | nil => exact pieces_of_none hs
      | cons t more =>
          have hmore := ih (List.cons_ne_nil t more) fun u hu => h u (List.mem_cons_of_mem s hu)
          rw [join, String.toList_append, String.toList_append, List.append_assoc, String.toList_singleton,
            List.singleton_append, pieces_append hs, hmore]
          rfl

end Pieces

/-! ## Pairs from a line -/

namespace Form

variable {b : UInt8} {c : Char}

theorem hexValue?_upperHexDigit : ∀ n < 16, hexValue? (upperHexDigit n) = some n := by decide

theorem upperHexDigit_ne : ∀ n < 16, upperHexDigit n ≠ '+' ∧ upperHexDigit n ≠ '&' ∧ upperHexDigit n ≠ '=' := by
  decide

theorem hexByte?_upperHexDigit (b : UInt8) :
    hexByte? (upperHexDigit (b.toNat / 16)) (upperHexDigit (b.toNat % 16)) = some b := by
  have hb : b.toNat < 256 := b.toNat_lt
  have hsum : b.toNat / 16 * 16 + b.toNat % 16 = b.toNat := by omega
  rw [hexByte?, hexValue?_upperHexDigit _ (by omega), hexValue?_upperHexDigit _ (by omega)]
  change some (b.toNat / 16 * 16 + b.toNat % 16).toUInt8 = some b
  rw [hsum, Nat.toUInt8_eq, UInt8.ofNat_toNat]

theorem toNat_of_isPlain (h : isPlain b = true) : b.toNat < 128 ∧ (Char.ofNat b.toNat).toNat = b.toNat := by
  have hb : b.toNat < 128 := by
    simp only [isPlain, Bool.and_eq_true, decide_eq_true_eq] at h
    exact h.1
  have hvalid : b.toNat.isValidChar := Or.inl (by omega)
  refine ⟨hb, ?_⟩
  rw [Char.ofNat, dif_pos hvalid]
  rfl

theorem ne_of_isPlain (h : isPlain b = true) (hc : isPlain c.toNat.toUInt8 = false) : Char.ofNat b.toNat ≠ c := by
  rintro rfl
  rw [(toNat_of_isPlain h).2, Nat.toUInt8_eq, UInt8.ofNat_toNat, h] at hc
  cases hc

theorem encodeByte_ne (b : UInt8) : ∀ c ∈ encodeByte b, c ≠ '&' ∧ c ≠ '=' := by
  have hb : b.toNat < 256 := b.toNat_lt
  intro c hc
  unfold encodeByte at hc
  split_ifs at hc with hplain hspace
  · cases List.mem_singleton.mp hc
    exact ⟨ne_of_isPlain hplain rfl, ne_of_isPlain hplain rfl⟩
  · cases List.mem_singleton.mp hc
    decide
  · simp only [List.mem_cons, List.not_mem_nil, or_false] at hc
    rcases hc with rfl | rfl | rfl
    · decide
    · exact (upperHexDigit_ne _ (by omega)).2
    · exact (upperHexDigit_ne _ (by omega)).2

theorem encode_ne (s : String) : ∀ c ∈ (encode s).toList, c ≠ '&' ∧ c ≠ '=' := by
  intro c hc
  rw [encode, String.toList_ofList] at hc
  obtain ⟨b, -, hb⟩ := List.mem_flatMap.mp hc
  exact encodeByte_ne b c hb

theorem spaced_of_ne (h : c ≠ '+') : spaced c = c := if_neg h

theorem unescape_of_ne (h : c ≠ '%') (rest : List Char) :
    unescape (c :: rest) = Utf8.encodeCode c.toNat ++ unescape rest := by
  rw [unescape]
  rintro high low more rfl
  exact absurd rfl h

/-- The escape of a byte stands for that byte, whatever comes after it. -/
theorem unescape_encodeByte (b : UInt8) (rest : List Char) :
    unescape ((encodeByte b).map spaced ++ rest) = b :: unescape rest := by
  have hb : b.toNat < 256 := b.toNat_lt
  unfold encodeByte
  split_ifs with hplain hspace
  · obtain ⟨hascii, htoNat⟩ := toNat_of_isPlain hplain
    rw [List.map_singleton, spaced_of_ne (ne_of_isPlain hplain rfl), List.singleton_append,
      unescape_of_ne (ne_of_isPlain hplain rfl), htoNat, Utf8.encodeCode, if_pos hascii, Nat.toUInt8_eq,
      UInt8.ofNat_toNat, List.singleton_append]
  · subst hspace
    exact unescape_of_ne (c := ' ') (by decide) rest
  · have hhigh : upperHexDigit (b.toNat / 16) ≠ '+' := (upperHexDigit_ne _ (by omega)).1
    have hlow : upperHexDigit (b.toNat % 16) ≠ '+' := (upperHexDigit_ne _ (by omega)).1
    simp only [List.map_cons, List.map_nil, List.cons_append, List.nil_append, spaced_of_ne hhigh, spaced_of_ne hlow,
      spaced_of_ne (show '%' ≠ '+' by decide)]
    rw [unescape, hexByte?_upperHexDigit]

theorem decode_encode (s : String) : decode (encode s) = s := by
  have hbytes : ∀ bytes : List UInt8, unescape ((bytes.flatMap encodeByte).map spaced) = bytes := by
    intro bytes
    induction bytes with
    | nil => rfl
    | cons b bytes ih => rw [List.flatMap_cons, List.map_append, unescape_encodeByte, ih]
  rw [decode, unescaped, encode, String.toList_ofList, String.toList_ofList, hbytes, Utf8.decodeReplacing_encode,
    String.ofList_toList]

theorem pairOf_encode (name value : String) : pairOf (encode name ++ "=" ++ encode value).toList = (name, value) := by
  have hname : ∀ c ∈ (encode name).toList, (!decide (c = '=')) = true := fun c hc => by
    simpa using (encode_ne name c hc).2
  have htext : (encode name ++ "=" ++ encode value).toList = (encode name).toList ++ '=' :: (encode value).toList := by
    rw [String.toList_append, String.toList_append, List.append_assoc]
    rfl
  have hcut : cut (· = '=') ((encode name).toList ++ '=' :: (encode value).toList) =
      ((encode name).toList, '=' :: (encode value).toList) := by
    rw [cut, List.takeWhile_append_of_pos hname, List.dropWhile_append_of_pos hname]
    simp
  rw [htext, pairOf, hcut]
  simp only [List.drop_one, List.tail_cons, String.ofList_toList, decode_encode]

/-- A line is read as the pairs that were written, whatever their names and values are. -/
theorem read_write (pairs : List (String × String)) : read (write pairs) = pairs := by
  by_cases hpairs : pairs = []
  · subst hpairs
    rfl
  have hne : ∀ s ∈ pairs.map (fun p => encode p.1 ++ "=" ++ encode p.2), ∀ c ∈ s.toList, c ≠ '&' := by
    intro s hs c hc
    obtain ⟨p, -, rfl⟩ := List.mem_map.mp hs
    rw [String.toList_append, String.toList_append, List.mem_append, List.mem_append] at hc
    rcases hc with (hc | hc) | hc
    · exact (encode_ne p.1 c hc).1
    · cases List.mem_singleton.mp hc
      decide
    · exact (encode_ne p.2 c hc).1
  have hpieces : pieces '&' (write pairs).toList =
      (pairs.map fun p => encode p.1 ++ "=" ++ encode p.2).map String.toList :=
    pieces_join (by simpa using hpairs) hne
  rw [read, hpieces, List.filter_eq_self.mpr, List.map_map, List.map_map]
  · refine (List.map_congr_left (g := id) fun p _ => ?_).trans (List.map_id pairs)
    change pairOf (encode p.1 ++ "=" ++ encode p.2).toList = p
    rw [pairOf_encode]
  · intro cs hcs
    obtain ⟨s, hs, rfl⟩ := List.mem_map.mp hcs
    obtain ⟨p, -, rfl⟩ := List.mem_map.mp hs
    simp

end Form

end SinkKeeper.Text
