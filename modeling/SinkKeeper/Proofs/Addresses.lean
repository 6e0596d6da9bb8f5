import SinkKeeper.Proofs.Forms
import SinkKeeper.Proofs.Refusals

/-!
# How connection strings are read

A connection string is the scheme, `://`, a host, a colon and a port, perhaps with a path. It is read from left to
right, and what is told of it is about the first part that is not as it should be. A string that is not read is
rejected, with one exception: a port of digits that are too many for a whole number is a complaint about the number.
-/

namespace SinkKeeper

open SinkKeeper.Text SinkKeeper.Number

/-! ## Whole numbers of digits -/

section Digits

variable {c x : Char} {cs : List Char}

theorem isAsciiDigit_iff : isAsciiDigit c = true ↔ 48 ≤ c.toNat ∧ c.toNat ≤ 57 := by
  rw [isAsciiDigit, Bool.and_eq_true, decide_eq_true_eq, decide_eq_true_eq]
  rfl

theorem digitValue?_of_isAsciiDigit (h : isAsciiDigit c = true) : digitValue? c = some (c.toNat - 48) := by
  obtain ⟨hl, hu⟩ := isAsciiDigit_iff.mp h
  have hfound : decimalZeros.find? (fun z => z ≤ c.toNat && c.toNat < z + 10) = some 48 := by
    refine List.find?_cons_of_pos ?_
    simp only [Bool.and_eq_true, decide_eq_true_eq]
    omega
  rw [digitValue?, hfound]
  rfl

theorem ne_of_isAsciiDigit (h : isAsciiDigit c = true) (hx : isAsciiDigit x = false) : c ≠ x := by
  rintro rfl
  exact Bool.false_ne_true (hx.symm.trans h)

theorem not_isNumeralBlank_of_isAsciiDigit (h : isAsciiDigit c = true) : isNumeralBlank c = false := by
  obtain ⟨hl, hu⟩ := isAsciiDigit_iff.mp h
  simp only [isNumeralBlank, isBlank, Bool.and_eq_false_iff, Bool.or_eq_false_iff, beq_eq_false_iff_ne,
    decide_eq_false_iff_not]
  omega

theorem underscoresSeparate_of_digits (h : ∀ c ∈ cs, isAsciiDigit c = true) : underscoresSeparate cs = true := by
  have hne : '_' ∉ cs := fun hm => nomatch h '_' hm
  fun_induction underscoresSeparate cs with
  | case1 => rfl
  | case2 | case3 | case4 | case5 => simp at hne
  | case6 c rest _ _ _ ih =>
      exact ih (fun c hc => h c (List.mem_cons_of_mem _ hc)) fun hm => hne (List.mem_cons_of_mem _ hm)

theorem cutSign_of_digits (h : ∀ c ∈ cs, isAsciiDigit c = true) : cutSign cs = (false, cs) := by
  unfold cutSign
  split
  · exact nomatch h '-' List.mem_cons_self
  · exact nomatch h '+' List.mem_cons_self
  · rfl

theorem filterMap_digits (h : ∀ c ∈ cs, isAsciiDigit c = true) :
    cs.filterMap digitValue? = cs.map fun c => c.toNat - 48 := by
  rw [← List.filterMap_eq_map]
  exact List.filterMap_congr fun c hc => digitValue?_of_isAsciiDigit (h c hc)

/-- Digits alone are read as the number they spell, unless they are too many. -/
theorem readInteger_digits (hne : cs ≠ []) (h : ∀ c ∈ cs, isAsciiDigit c = true) :
    readInteger (String.ofList cs) =
      if digitLimit < cs.length then .error (.tooLong cs.length)
      else .ok (ofDigits (cs.map fun c => c.toNat - 48)) := by
  have hblank : cs.dropWhile isNumeralBlank = cs := by
    cases cs with
    | nil => rfl
    | cons c cs => exact List.dropWhile_cons_of_neg (by simp [not_isNumeralBlank_of_isAsciiDigit (h c List.mem_cons_self)])
  have hrun : ∀ c ∈ cs, (decide (c = '_') || isDecimalDigit c) = true := by
    intro c hc
    rw [isDecimalDigit, digitValue?_of_isAsciiDigit (h c hc)]
    exact Bool.or_true _
  have htake : (cs ++ []).takeWhile (fun c => decide (c = '_') || isDecimalDigit c) = cs := by
    rw [List.takeWhile_append_of_pos hrun, List.takeWhile_nil, List.append_nil]
  rw [List.append_nil] at htake
  have hdrop : cs.dropWhile (fun c => decide (c = '_') || isDecimalDigit c) = [] := dropWhile_of_all hrun
  simp only [readInteger, String.toList_ofList, hblank, cutSign_of_digits h, htake, hdrop, filterMap_digits h,
    underscoresSeparate_of_digits h, List.isEmpty_map, List.length_map]
  simp [hne]

end Digits

namespace Address

/-! ## Ports -/

/-- Digits and nothing else, and at least one. -/
def IsDigits (cs : List Char) : Prop := cs ≠ [] ∧ ∀ c ∈ cs, isAsciiDigit c = true

/-- The number that the digits of a port spell. -/
def portValue (port : List Char) : Nat := ofDigits (port.map fun c => c.toNat - 48)

/-- What a port should be. -/
def IsPort (port : List Char) : Prop := IsDigits port ∧ 1 ≤ portValue port ∧ portValue port ≤ 65535

theorem readPort_of_not_digits {port : List Char} (h : ¬IsDigits port) :
    readPort port = .error (.sink (wrongPortText (String.ofList port))) := by
  have hchars : (port.isEmpty || !port.all isAsciiDigit) = true := by
    rw [← Bool.not_eq_false]
    refine mt (fun hchars => ?_) h
    simpa [IsDigits] using hchars
  rw [readPort, hchars, if_pos rfl]

theorem readPort_of_digits {port : List Char} (h : IsDigits port) :
    readPort port =
      if 4300 < port.length then .error (.shape (.numeralTooLong port.length))
      else if 1 ≤ portValue port ∧ portValue port ≤ 65535 then .ok (portValue port)
      else .error (.sink (wrongPort (portValue port))) := by
  have hleast : leastPort = 1 := rfl
  have hgreatest : greatestPort = 65535 := rfl
  have hlimit : digitLimit = 4300 := rfl
  have hchars : (port.isEmpty || !port.all isAsciiDigit) = false := by
    simpa [IsDigits] using h
  rw [readPort, hchars, if_neg (by decide), Json.wholeOfText, readInteger_digits h.1 h.2, ← portValue]
  by_cases hlong : 4300 < port.length
  · rw [if_pos hlong, if_pos (by omega)]
  · rw [if_neg hlong, if_neg (by omega)]
    dsimp only
    by_cases hrange : 1 ≤ portValue port ∧ portValue port ≤ 65535
    · rw [if_pos hrange, if_neg (by omega)]
      rfl
    · rw [if_neg hrange, if_pos (by omega)]

/-! ## The parts of a connection string -/

/-- A path with the slash before it. -/
def pathText : Option (List Char) → List Char
  | none => []
  | some path => '/' :: path

/-- A connection string with an authority that is not empty, and perhaps a path. -/
structure Located (scheme : String) (url authority : List Char) (path : Option (List Char)) : Prop where
  text : url = scheme.toList ++ (schemeMark ++ (authority ++ pathText path))
  nonempty : authority ≠ []
  whole : '/' ∉ authority

/-- An authority of a host and one more part. -/
structure Split (authority host port : List Char) : Prop where
  text : authority = host ++ ':' :: port
  named : host ≠ []
  first : ':' ∉ host
  last : ':' ∉ port

variable {scheme : String} {allowed : Option (List Char → Bool)} {url : String}
  {authority authority' host port : List Char} {path path' : Option (List Char)}

theorem exists_path (cs : List Char) : ∃ authority path, cs = authority ++ pathText path ∧ '/' ∉ authority := by
  by_cases h : '/' ∈ cs
  · obtain ⟨authority, path, rfl, ha⟩ := List.eq_append_cons_of_mem h
    exact ⟨authority, some path, rfl, ha⟩
  · exact ⟨cs, none, (List.append_nil cs).symm, h⟩

theorem takeWhile_path (h : '/' ∉ authority) : (authority ++ pathText path).takeWhile (· ≠ '/') = authority ∧
    ((authority ++ pathText path).dropWhile (· ≠ '/')).drop 1 = path.getD [] := by
  have hall : ∀ c ∈ authority, decide (c ≠ '/') = true := by
    intro c hc
    rw [decide_eq_true_eq]
    rintro rfl
    exact h hc
  rw [List.takeWhile_append_of_pos hall, List.dropWhile_append_of_pos hall]
  cases path with
  | none => exact ⟨List.append_nil _, rfl⟩
  | some path => exact ⟨List.append_nil _, rfl⟩

theorem path_unique (h : authority ++ pathText path = authority' ++ pathText path') (ha : '/' ∉ authority)
    (ha' : '/' ∉ authority') : authority = authority' ∧ path = path' := by
  have hauthority : (authority ++ pathText path).takeWhile (· ≠ '/') = authority := (takeWhile_path ha).1
  rw [h, (takeWhile_path ha').1] at hauthority
  subst hauthority
  refine ⟨rfl, ?_⟩
  have hpath := List.append_cancel_left h
  cases path <;> cases path' <;> simp_all [pathText]

theorem Located.ne_nil {url : List Char} (h : Located scheme url authority path) : url ≠ [] := by
  rw [h.text]
  simp [schemeMark]

/-! ## Reading from left to right -/

theorem parse_of_unschemed (h : scheme.toList <+: url.toList → url.toList = []) :
    parse scheme allowed url = .error (.sink (wrongScheme scheme)) := by
  unfold parse
  cases hrest : after? scheme.toList url.toList with
  | none => split <;> first | rfl | contradiction
  | some rest =>
      rw [h ⟨rest, (after?_eq_some_iff.mp hrest).symm⟩]
      rfl

theorem parse_of_unmarked {rest : List Char} (htext : url.toList = scheme.toList ++ rest) (hne : url.toList ≠ [])
    (h : after? schemeMark rest = none) : parse scheme allowed url = .error (.sink (noMark scheme)) := by
  obtain ⟨c, cs, hcs⟩ := List.exists_cons_of_ne_nil hne
  unfold parse
  rw [after?_eq_some_iff.mpr htext, hcs]
  simp only [pure_bind]
  rw [h]
  rfl

theorem parse_of_no_authority (htext : url.toList = scheme.toList ++ (schemeMark ++ pathText path)) :
    parse scheme allowed url = .error (.sink (noAuthority scheme)) := by
  have hmark : after? schemeMark (schemeMark ++ pathText path) = some ([] ++ pathText path) :=
    after?_eq_some_iff.mpr rfl
  have hne : url.toList ≠ [] := by
    rw [htext]
    simp [schemeMark]
  obtain ⟨c, cs, hcs⟩ := List.exists_cons_of_ne_nil hne
  unfold parse
  rw [after?_eq_some_iff.mpr htext, hcs]
  simp only [pure_bind]
  rw [hmark]
  have htake : ([] ++ pathText path).takeWhile (· ≠ '/') = [] := (takeWhile_path List.not_mem_nil).1
  simp only [htake]
  rfl

theorem parse_of_unlocated (hs : scheme.toList <+: url.toList) (hne : url.toList ≠ [])
    (h : ∀ authority path, ¬Located scheme url.toList authority path) :
    ∃ text, parse scheme allowed url = .error (.sink (.rejected .authority text)) := by
  obtain ⟨rest, hurl⟩ := hs
  cases hmark : after? schemeMark rest with
  | none => exact ⟨_, parse_of_unmarked hurl.symm hne hmark⟩
  | some located =>
      rw [after?_eq_some_iff.mp hmark] at hurl
      obtain ⟨authority, path, rfl, hwhole⟩ := exists_path located
      have hempty : authority = [] := by
        by_contra hfull
        exact h authority path ⟨hurl.symm, hfull, hwhole⟩
      subst hempty
      exact ⟨_, parse_of_no_authority hurl.symm⟩

/-- What is read of an authority and of the path after it. -/
def readLocated (scheme : String) (allowed : Option (List Char → Bool)) (authority path : List Char) :
    Except Failure Address :=
  match pieces ':' authority with
  | [c :: host, port] => do
    let n ← readPort port
    if allowed.any fun accepts => !accepts (c :: host) then .error (.sink (wrongHost (String.ofList (c :: host))))
    else .ok ⟨scheme, String.ofList (c :: host), n, databaseOf path, none, none⟩
  | _ => .error (.sink (wrongHostPort (String.ofList authority)))

theorem parse_of_located (h : Located scheme url.toList authority path) :
    parse scheme allowed url = readLocated scheme allowed authority (path.getD []) := by
  have hmark : after? schemeMark (schemeMark ++ (authority ++ pathText path)) = some (authority ++ pathText path) :=
    after?_eq_some_iff.mpr rfl
  obtain ⟨c, cs, hc⟩ := List.exists_cons_of_ne_nil h.ne_nil
  have hne : authority.isEmpty = false := by
    rw [← Bool.not_eq_true, List.isEmpty_iff]
    exact h.nonempty
  unfold parse readLocated
  rw [after?_eq_some_iff.mpr h.text, hc]
  simp only [pure_bind]
  rw [hmark]
  simp only [(takeWhile_path h.whole).1, (takeWhile_path h.whole).2, hne]
  rw [if_neg (by decide)]
  rcases pieces ':' authority with _ | ⟨_ | ⟨c, host⟩, _ | ⟨port, _ | _⟩⟩
  case cons.cons.cons.nil =>
    refine bind_congr fun n => ?_
    split <;> rfl
  all_goals rfl

theorem parse_of_unsplit (hl : Located scheme url.toList authority path) (h : ∀ host port, ¬Split authority host port) :
    parse scheme allowed url = .error (.sink (wrongHostPort (String.ofList authority))) := by
  rw [parse_of_located hl, readLocated]
  split
  · rename_i c host port hpieces
    obtain ⟨htext, hfirst, hlast⟩ := pieces_eq_pair_iff.mp hpieces
    exact absurd ⟨htext, List.cons_ne_nil c host, hfirst, hlast⟩ (h (c :: host) port)
  · rfl

theorem parse_of_split (hl : Located scheme url.toList authority path) (hs : Split authority host port) :
    parse scheme allowed url = (do
      let n ← readPort port
      if allowed.any fun accepts => !accepts host then .error (.sink (wrongHost (String.ofList host)))
      else .ok ⟨scheme, String.ofList host, n, databaseOf (path.getD []), none, none⟩) := by
  obtain ⟨c, host, rfl⟩ := List.exists_cons_of_ne_nil hs.named
  rw [parse_of_located hl, readLocated, pieces_eq_pair_iff.mpr ⟨hs.text, hs.first, hs.last⟩]

theorem any_refuses_iff :
    (allowed.any fun accepts => !accepts host) = true ↔ ∃ accepts ∈ allowed, accepts host = false := by
  cases allowed <;> simp

theorem none_refuses_iff :
    (allowed.any fun accepts => !accepts host) = false ↔ ∀ accepts ∈ allowed, accepts host = true := by
  cases allowed <;> simp

/-- What is read of a connection string, by the first part of it that is not as it should be. -/
inductive Reading (scheme : String) (allowed : Option (List Char → Bool)) (url : List Char) :
    Except Failure Address → Prop
  | unschemed (h : scheme.toList <+: url → url = []) : Reading scheme allowed url (.error (.sink (wrongScheme scheme)))
  | unlocated {text : String} (hs : scheme.toList <+: url) (h : ∀ authority path, ¬Located scheme url authority path) :
      Reading scheme allowed url (.error (.sink (.rejected .authority text)))
  | unsplit {authority : List Char} {path : Option (List Char)} (hl : Located scheme url authority path)
      (h : ∀ host port, ¬Split authority host port) :
      Reading scheme allowed url (.error (.sink (wrongHostPort (String.ofList authority))))
  | wordy {authority host port : List Char} {path : Option (List Char)} (hl : Located scheme url authority path)
      (hs : Split authority host port) (h : ¬IsDigits port) :
      Reading scheme allowed url (.error (.sink (wrongPortText (String.ofList port))))
  | overlong {authority host port : List Char} {path : Option (List Char)} (hl : Located scheme url authority path)
      (hs : Split authority host port) (hd : IsDigits port) (h : 4300 < port.length) :
      Reading scheme allowed url (.error (.shape (.numeralTooLong port.length)))
  | outside {authority host port : List Char} {path : Option (List Char)} (hl : Located scheme url authority path)
      (hs : Split authority host port) (h : ¬IsPort port) :
      Reading scheme allowed url (.error (.sink (wrongPort (portValue port))))
  | unadmitted {authority host port : List Char} {path : Option (List Char)} (hl : Located scheme url authority path)
      (hs : Split authority host port) (hp : IsPort port) (h : ∃ accepts ∈ allowed, accepts host = false) :
      Reading scheme allowed url (.error (.sink (wrongHost (String.ofList host))))
  | read {authority host port : List Char} {path : Option (List Char)} (hl : Located scheme url authority path)
      (hs : Split authority host port) (hp : IsPort port) (hshort : port.length ≤ 4300)
      (h : ∀ accepts ∈ allowed, accepts host = true) :
      Reading scheme allowed url
        (.ok ⟨scheme, String.ofList host, portValue port, databaseOf (path.getD []), none, none⟩)

theorem split_reading (hl : Located scheme url.toList authority path) (hs : Split authority host port) :
    Reading scheme allowed url.toList (parse scheme allowed url) := by
  rw [parse_of_split hl hs]
  by_cases hd : IsDigits port
  · rw [readPort_of_digits hd]
    split
    · rename_i hlong
      exact .overlong hl hs hd hlong
    · rename_i hshort
      split
      · rename_i hrange
        cases hany : allowed.any fun accepts => !accepts host with
        | true => exact .unadmitted hl hs ⟨hd, hrange⟩ (any_refuses_iff.mp hany)
        | false => exact .read hl hs ⟨hd, hrange⟩ (Nat.le_of_not_lt hshort) (none_refuses_iff.mp hany)
      · rename_i hrange
        exact .outside hl hs fun hp => hrange hp.2
  · rw [readPort_of_not_digits hd]
    exact .wordy hl hs hd

theorem parse_reading (scheme : String) (allowed : Option (List Char → Bool)) (url : String) :
    Reading scheme allowed url.toList (parse scheme allowed url) := by
  by_cases hscheme : scheme.toList <+: url.toList → url.toList = []
  · rw [parse_of_unschemed hscheme]
    exact .unschemed hscheme
  obtain ⟨hbegins, hne⟩ := Classical.not_imp.mp hscheme
  by_cases hlocated : ∃ authority path, Located scheme url.toList authority path
  · obtain ⟨authority, path, hl⟩ := hlocated
    by_cases hsplit : ∃ host port, Split authority host port
    · obtain ⟨host, port, hs⟩ := hsplit
      exact split_reading hl hs
    · have h : ∀ host port, ¬Split authority host port := fun host port hs => hsplit ⟨host, port, hs⟩
      rw [parse_of_unsplit hl h]
      exact .unsplit hl h
  · have h : ∀ authority path, ¬Located scheme url.toList authority path :=
      fun authority path hl => hlocated ⟨authority, path, hl⟩
    obtain ⟨text, htext⟩ : ∃ text, parse scheme allowed url = .error (.sink (.rejected .authority text)) :=
      parse_of_unlocated hbegins hne h
    rw [htext]
    exact .unlocated hbegins h

/-! ## The grammar -/

/-- The parts of a connection string after its scheme. -/
structure Parts where
  host : List Char
  port : List Char
  path : Option (List Char)

namespace Parts

def text (scheme : String) (p : Parts) : List Char :=
  scheme.toList ++ (schemeMark ++ (p.host ++ ':' :: p.port ++ pathText p.path))

/-- A host that ends nothing, and a port of digits. -/
structure Plain (p : Parts) : Prop where
  named : p.host ≠ []
  whole : '/' ∉ p.host ∧ ':' ∉ p.host
  digits : IsDigits p.port

structure Valid (allowed : Option (List Char → Bool)) (p : Parts) : Prop extends Plain p where
  short : p.port.length ≤ 4300
  ranged : 1 ≤ portValue p.port ∧ portValue p.port ≤ 65535
  admitted : ∀ accepts ∈ allowed, accepts p.host = true

/-- What stands in the path before parameters begin, if anything does. -/
def database (p : Parts) : Option String :=
  let name := (p.path.getD []).takeWhile fun c => c ≠ '?' ∧ c ≠ ';'
  if name = [] then none else some (String.ofList name)

def address (scheme : String) (p : Parts) : Address :=
  ⟨scheme, String.ofList p.host, portValue p.port, p.database, none, none⟩

variable {p p' : Parts}

theorem Plain.not_mem_port (h : p.Plain) {c : Char} (hc : isAsciiDigit c = false) : c ∉ p.port := fun hm =>
  ne_of_isAsciiDigit (h.digits.2 c hm) hc rfl

theorem Plain.split (h : p.Plain) : Split (p.host ++ ':' :: p.port) p.host p.port :=
  ⟨rfl, h.named, h.whole.2, h.not_mem_port (by decide)⟩

theorem Plain.slash (h : p.Plain) : '/' ∉ p.host ++ ':' :: p.port := by
  have hport : '/' ∉ p.port := h.not_mem_port (by decide)
  simp [h.whole.1, hport]

theorem Plain.located (h : p.Plain) : Located scheme (p.text scheme) (p.host ++ ':' :: p.port) p.path :=
  ⟨rfl, by simp, h.slash⟩

/-- A text is made of such parts in one way only. -/
theorem Plain.unique (h : p.Plain) (h' : p'.Plain) (heq : p.text scheme = p'.text scheme) : p = p' := by
  have htext := List.append_cancel_left (List.append_cancel_left heq)
  obtain ⟨hauthority, hpath⟩ := path_unique htext h.slash h'.slash
  have hcolon : ':' ∉ p'.port := h'.not_mem_port (by decide)
  obtain ⟨hhost, -, hport⟩ := (List.append_cons_inj_of_notMem h'.whole.2 hcolon).mp hauthority.symm
  cases p
  cases p'
  cases hhost
  cases hport
  cases hpath
  rfl

theorem databaseOf_path (p : Parts) : databaseOf (p.path.getD []) = p.database := by
  have hmark : (fun c => !isParameterMark c) = fun c => decide (c ≠ '?' ∧ c ≠ ';') := by
    funext c
    simp [isParameterMark]
  rw [databaseOf, database, hmark]
  cases (p.path.getD []).takeWhile fun c => decide (c ≠ '?' ∧ c ≠ ';') <;> rfl

end Parts

theorem Parts.Valid.parse {p : Parts} (h : p.Valid allowed) (htext : url.toList = p.text scheme) :
    parse scheme allowed url = .ok (p.address scheme) := by
  have hl : Located scheme (p.text scheme) (p.host ++ ':' :: p.port) p.path := h.located
  rw [← htext] at hl
  rw [parse_of_split hl h.split, readPort_of_digits h.digits, if_neg (Nat.not_lt_of_le h.short), if_pos h.ranged,
    none_refuses_iff.mpr h.admitted, Parts.databaseOf_path]
  rfl

theorem Reading.parts {url : List Char} {a : Address} (h : Reading scheme allowed url (.ok a)) :
    ∃ p : Parts, p.Valid allowed ∧ url = p.text scheme ∧ a = p.address scheme := by
  cases h with
  | @read authority host port path hl hs hp hshort hadmitted =>
      have hwhole : '/' ∉ host := by
        intro hm
        refine hl.whole ?_
        rw [hs.text]
        exact List.mem_append_left _ hm
      have hplain : Parts.Plain ⟨host, port, path⟩ := ⟨hs.named, ⟨hwhole, hs.first⟩, hp.1⟩
      refine ⟨⟨host, port, path⟩, ⟨hplain, hshort, hp.2, hadmitted⟩, ?_, ?_⟩
      · rw [hl.text, hs.text]
        rfl
      · rw [Parts.address, ← Parts.databaseOf_path]

/-- A connection string is read exactly if it is made of valid parts, and then as their address; no other valid parts
make the same string. -/
theorem parse_eq_ok_iff (scheme : String) (allowed : Option (List Char → Bool)) (url : String) :
    (∀ a, parse scheme allowed url = .ok a ↔
      ∃ p : Parts, p.Valid allowed ∧ url.toList = p.text scheme ∧ a = p.address scheme) ∧
    ∀ p p' : Parts, p.Valid allowed → p'.Valid allowed → url.toList = p.text scheme → url.toList = p'.text scheme →
      p = p' := by
  refine ⟨fun a => ⟨fun h => ?_, ?_⟩, fun p p' hp hp' h h' => hp.toPlain.unique hp'.toPlain (h.symm.trans h')⟩
  · have hr := parse_reading scheme allowed url
    rw [h] at hr
    exact hr.parts
  · rintro ⟨p, hp, htext, rfl⟩
    exact hp.parse htext

example : parse "jdbc:hive2" none "jdbc:hive2://h:010000/default;auth=a/b:c?d" =
    .ok ⟨"jdbc:hive2", "h", 10000, some "default", none, none⟩ := by rfl

end Address

/-! ## What is told -/

/-- What is told where there is no address. -/
inductive Unaddressed : Failure → Prop
  | invalid {e : SinkError} (h : e.Invalid) : Unaddressed (.sink e)
  | tooLong {digits : Nat} : Unaddressed (.shape (.numeralTooLong digits))

theorem parseAddress_fails (d : Dialect) (url : String) : Fails Unaddressed (d.parseAddress url) := by
  intro e h
  have hr := Address.parse_reading d.scheme d.allowedHosts url
  rw [Dialect.parseAddress] at h
  rw [h] at hr
  cases hr with
  | overlong => exact .tooLong
  | _ => exact .invalid rfl

end SinkKeeper
