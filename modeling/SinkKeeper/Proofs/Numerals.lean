import Mathlib.Data.List.TakeWhile
import SinkKeeper.Proofs.Addresses

/-!
# Texts of whole numbers

A text is read as a whole number exactly if it spells one: blanks may stand around it, a sign before it, and single
underscores between its digits, which may be of any script and not too many. The decimal text of a number spells it.
-/

namespace SinkKeeper.Number

open SinkKeeper.Text

/-! ## Spelling -/

/-- Digits with single underscores between them, and what the digits count. -/
inductive Run : List Char → List Nat → Prop
  | last {c : Char} {d : Nat} (h : digitValue? c = some d) : Run [c] [d]
  | next {c : Char} {d : Nat} {cs : List Char} {ds : List Nat} (h : digitValue? c = some d) (rest : Run cs ds) :
      Run (c :: cs) (d :: ds)
  | joined {c : Char} {d : Nat} {cs : List Char} {ds : List Nat} (h : digitValue? c = some d) (rest : Run cs ds) :
      Run (c :: '_' :: cs) (d :: ds)

/-- The signs that may stand before digits. -/
def signs : List (List Char) := [[], ['+'], ['-']]

/-- The number of a sign and digits. -/
def signed (sign : List Char) (digits : List Nat) : Int :=
  if sign = ['-'] then -(ofDigits digits : Int) else ofDigits digits

/-- The parts of a text that spells a whole number. -/
structure Spelling where
  before : List Char
  sign : List Char
  run : List Char
  digits : List Nat
  after : List Char

structure Spelling.Valid (p : Spelling) : Prop where
  before : ∀ c ∈ p.before, isNumeralBlank c = true
  sign : p.sign ∈ signs
  run : Run p.run p.digits
  short : p.digits.length ≤ 4300
  after : ∀ c ∈ p.after, isNumeralBlank c = true

def Spelling.text (p : Spelling) : List Char := p.before ++ (p.sign ++ (p.run ++ p.after))

/-- The text spells the whole number. -/
def Spells (s : String) (n : Int) : Prop :=
  ∃ p : Spelling, p.Valid ∧ s.toList = p.text ∧ n = signed p.sign p.digits

/-! ## Classes of characters -/

section Classes

variable {c : Char} {d : Nat} {cs : List Char} {ds : List Nat}

/-- What may stand in a run. -/
def inRun (c : Char) : Bool := c = '_' || isDecimalDigit c

theorem isDecimalDigit_of_digitValue? (h : digitValue? c = some d) : isDecimalDigit c = true := by
  rw [isDecimalDigit, h]
  rfl

theorem exists_of_isDecimalDigit (h : isDecimalDigit c = true) :
    ∃ z ∈ decimalZeros, ∃ k < 10, c = Char.ofNat (z + k) := by
  obtain ⟨d, hd⟩ := Option.isSome_iff_exists.mp h
  obtain ⟨z, hz, -⟩ := Option.map_eq_some_iff.mp hd
  have hrange := List.find?_some hz
  simp only [Bool.and_eq_true, decide_eq_true_eq] at hrange
  refine ⟨z, List.mem_of_find?_eq_some hz, c.toNat - z, by omega, ?_⟩
  rw [Nat.add_sub_cancel' hrange.1, Char.ofNat_toNat]

/-- Blanks, signs and underscores are no digits. -/
theorem digit_apart (h : isDecimalDigit c = true) :
    isNumeralBlank c = false ∧ c ≠ '_' ∧ c ≠ '-' ∧ c ≠ '+' := by
  have happart : ∀ z ∈ decimalZeros, ∀ k < 10, isNumeralBlank (Char.ofNat (z + k)) = false ∧
      Char.ofNat (z + k) ≠ '_' ∧ Char.ofNat (z + k) ≠ '-' ∧ Char.ofNat (z + k) ≠ '+' := by decide +kernel
  obtain ⟨z, hz, k, hk, rfl⟩ := exists_of_isDecimalDigit h
  exact happart z hz k hk

theorem not_inRun_of_isNumeralBlank (h : isNumeralBlank c = true) : inRun c = false := by
  have hunderscore : c ≠ '_' := by
    rintro rfl
    cases h
  have hdigit : isDecimalDigit c = false := by
    rw [← Bool.not_eq_true]
    exact fun hdigit => Bool.false_ne_true ((digit_apart hdigit).1.symm.trans h)
  rw [inRun, hdigit, Bool.or_false, decide_eq_false hunderscore]

/-! ## Runs -/

theorem Run.head (h : Run cs ds) : ∃ c rest, cs = c :: rest ∧ isDecimalDigit c = true := by
  cases h with
  | last hd | next hd _ | joined hd _ => exact ⟨_, _, rfl, isDecimalDigit_of_digitValue? hd⟩

theorem Run.inRun (h : Run cs ds) : ∀ c ∈ cs, inRun c = true := by
  have hdigit : ∀ {c d}, digitValue? c = some d → Number.inRun c = true := by
    intro c d hd
    rw [Number.inRun, isDecimalDigit_of_digitValue? hd, Bool.or_true]
  induction h with
  | last hd => exact List.forall_mem_singleton.mpr (hdigit hd)
  | next hd _ ih => exact List.forall_mem_cons.mpr ⟨hdigit hd, ih⟩
  | joined hd _ ih => exact List.forall_mem_cons.mpr ⟨hdigit hd, List.forall_mem_cons.mpr ⟨rfl, ih⟩⟩

theorem Run.digits_ne_nil (h : Run cs ds) : ds ≠ [] := by
  cases h <;> exact List.cons_ne_nil _ _

theorem Run.values (h : Run cs ds) : cs.filterMap digitValue? = ds := by
  have hunderscore : digitValue? '_' = none := by decide
  induction h with
  | last hd => rw [List.filterMap_cons_some hd, List.filterMap_nil]
  | next hd _ ih => rw [List.filterMap_cons_some hd, ih]
  | joined hd _ ih => rw [List.filterMap_cons_some hd, List.filterMap_cons_none hunderscore, ih]

theorem underscoresSeparate_next (hc : c ≠ '_') (hcs : cs.head? ≠ some '_') :
    underscoresSeparate (c :: cs) = underscoresSeparate cs := by
  rw [underscoresSeparate.eq_def]
  split <;> simp_all

theorem underscoresSeparate_joined {x : Char} (hc : isDecimalDigit c = true) :
    underscoresSeparate (c :: '_' :: x :: cs) = (isDecimalDigit x && underscoresSeparate (x :: cs)) := by
  have hne : c ≠ '_' := (digit_apart hc).2.1
  rw [underscoresSeparate, if_pos hc]
  exact hne

theorem Run.separated (h : Run cs ds) : underscoresSeparate cs = true := by
  induction h with
  | last hd =>
      have hne := (digit_apart (isDecimalDigit_of_digitValue? hd)).2.1
      rw [underscoresSeparate_next hne (by simp), underscoresSeparate]
  | next hd rest ih =>
      obtain ⟨x, xs, rfl, hx⟩ := rest.head
      have hne := (digit_apart (isDecimalDigit_of_digitValue? hd)).2.1
      have hsecond := (digit_apart hx).2.1
      rw [underscoresSeparate_next hne (by simpa using hsecond), ih]
  | joined hd rest ih =>
      obtain ⟨x, xs, rfl, hx⟩ := rest.head
      rw [underscoresSeparate_joined (isDecimalDigit_of_digitValue? hd), hx, ih]
      rfl

theorem digitValue?_of_inRun (h : inRun c = true) (hne : c ≠ '_') : ∃ d, digitValue? c = some d := by
  rw [inRun, decide_eq_false hne, Bool.false_or] at h
  exact Option.isSome_iff_exists.mp h

theorem run_of_separated (hne : cs ≠ []) (hrun : ∀ c ∈ cs, inRun c = true) (h : underscoresSeparate cs = true) :
    ∃ ds, Run cs ds := by
  fun_induction underscoresSeparate cs with
  | case1 => exact absurd rfl hne
  | case2 | case4 | case5 => cases h
  | case3 c x rest _ hc ih =>
      obtain ⟨d, hd⟩ := Option.isSome_iff_exists.mp hc
      rw [Bool.and_eq_true] at h
      obtain ⟨ds, hds⟩ := ih (List.cons_ne_nil _ _) (fun y hy => hrun y (by simp_all)) h.2
      exact ⟨d :: ds, .joined hd hds⟩
  | case6 c rest hc _ _ ih =>
      obtain ⟨d, hd⟩ := digitValue?_of_inRun (hrun c List.mem_cons_self) hc
      cases rest with
      | nil => exact ⟨[d], .last hd⟩
      | cons x rest =>
          obtain ⟨ds, hds⟩ := ih (List.cons_ne_nil _ _) (fun y hy => hrun y (List.mem_cons_of_mem _ hy)) h
          exact ⟨d :: ds, .next hd hds⟩

/-! ## Reading -/

theorem exists_sign (cs : List Char) :
    ∃ sign ∈ signs, cs = sign ++ (cutSign cs).2 ∧ (cutSign cs).1 = decide (sign = ['-']) := by
  unfold cutSign
  split
  · exact ⟨['-'], by simp [signs], rfl, rfl⟩
  · exact ⟨['+'], by simp [signs], rfl, rfl⟩
  · exact ⟨[], by simp [signs], rfl, rfl⟩

theorem cutSign_append {sign : List Char} (hsign : sign ∈ signs) (h : isDecimalDigit c = true) :
    cutSign (sign ++ c :: cs) = (decide (sign = ['-']), c :: cs) := by
  obtain ⟨-, -, hminus, hplus⟩ := digit_apart h
  simp only [signs, List.mem_cons, List.not_mem_nil, or_false] at hsign
  rcases hsign with rfl | rfl | rfl
  · exact cutSign.eq_3 _ (fun rest heq => hminus (List.cons.inj heq).1) fun rest heq => hplus (List.cons.inj heq).1
  · rfl
  · rfl

/-- Neither a sign nor a digit is a blank, so blanks before them end there. -/
theorem dropWhile_sign {sign : List Char} (hsign : sign ∈ signs) (h : isDecimalDigit c = true) :
    (sign ++ c :: cs).dropWhile isNumeralBlank = sign ++ c :: cs := by
  have hblank : isNumeralBlank c = false := (digit_apart h).1
  simp only [signs, List.mem_cons, List.not_mem_nil, or_false] at hsign
  rcases hsign with rfl | rfl | rfl
  · exact List.dropWhile_cons_of_neg (by simp [hblank])
  · rfl
  · rfl

theorem span_run {run after : List Char} (hrun : ∀ c ∈ run, inRun c = true)
    (hafter : ∀ c ∈ after, isNumeralBlank c = true) :
    (run ++ after).takeWhile inRun = run ∧ (run ++ after).dropWhile inRun = after := by
  have hend : ∀ c ∈ after, ¬inRun c = true := fun c hc => by simp [not_inRun_of_isNumeralBlank (hafter c hc)]
  have htake : after.takeWhile inRun = [] := List.takeWhile_eq_nil_iff.mpr fun _ => hend _ (List.get_mem _ _)
  have hdrop : after.dropWhile inRun = after := List.dropWhile_eq_self_iff.mpr fun _ => hend _ (List.getElem_mem _)
  constructor
  · rw [List.takeWhile_append_of_pos hrun, htake, List.append_nil]
  · rw [List.dropWhile_append_of_pos hrun, hdrop]

/-- What reading asks of what is left of a text after its first blanks and its sign. -/
theorem readInteger_eq_ok {s : String} {n : Int} {negative : Bool} {body : List Char}
    (hcut : cutSign (s.toList.dropWhile isNumeralBlank) = (negative, body)) :
    readInteger s = .ok n ↔
      (body.takeWhile inRun).filterMap digitValue? ≠ [] ∧ underscoresSeparate (body.takeWhile inRun) = true ∧
        ((body.takeWhile inRun).filterMap digitValue?).length ≤ 4300 ∧
        (∀ c ∈ body.dropWhile inRun, isNumeralBlank c = true) ∧
        n = if negative then -(ofDigits ((body.takeWhile inRun).filterMap digitValue?) : Int)
          else ofDigits ((body.takeWhile inRun).filterMap digitValue?) := by
  have hlimit : digitLimit = 4300 := rfl
  have hclass : (fun c => decide (c = '_') || isDecimalDigit c) = inRun := rfl
  simp only [readInteger, hcut, hclass, hlimit]
  grind

theorem Spelling.Valid.readInteger {s : String} {p : Spelling} (h : p.Valid) (hs : s.toList = p.text) :
    readInteger s = .ok (signed p.sign p.digits) := by
  obtain ⟨c, rest, hrun, hc⟩ := h.run.head
  have hcut : cutSign (s.toList.dropWhile isNumeralBlank) = (decide (p.sign = ['-']), p.run ++ p.after) := by
    rw [hs, Spelling.text, List.dropWhile_append_of_pos h.before, hrun, List.cons_append, dropWhile_sign h.sign hc,
      cutSign_append h.sign hc]
  obtain ⟨htake, hdrop⟩ := span_run h.run.inRun h.after
  rw [readInteger_eq_ok hcut, htake, hdrop, h.run.values]
  exact ⟨h.run.digits_ne_nil, h.run.separated, h.short, h.after, by simp [signed]⟩

theorem spells_of_readInteger {s : String} {n : Int} (h : readInteger s = .ok n) : Spells s n := by
  obtain ⟨sign, hsign, hbody, hnegative⟩ := exists_sign (s.toList.dropWhile isNumeralBlank)
  obtain ⟨negative, body, hcut⟩ :
      ∃ negative body, cutSign (s.toList.dropWhile isNumeralBlank) = (negative, body) := ⟨_, _, rfl⟩
  rw [hcut] at hbody hnegative
  obtain rfl : negative = decide (sign = ['-']) := hnegative
  obtain ⟨hne, hseparate, hshort, hafter, rfl⟩ := (readInteger_eq_ok hcut).mp h
  have hinRun : ∀ c ∈ body.takeWhile inRun, inRun c = true := fun c => List.mem_takeWhile_imp
  have hrunne : body.takeWhile inRun ≠ [] := fun hnil => hne (by rw [hnil]; rfl)
  obtain ⟨digits, hrun⟩ := run_of_separated hrunne hinRun hseparate
  rw [hrun.values] at hshort ⊢
  refine ⟨⟨s.toList.takeWhile isNumeralBlank, sign, body.takeWhile inRun, digits, body.dropWhile inRun⟩,
    ⟨fun c => List.mem_takeWhile_imp, hsign, hrun, hshort, hafter⟩, ?_, ?_⟩
  · rw [Spelling.text, List.takeWhile_append_dropWhile, ← hbody, List.takeWhile_append_dropWhile]
  · simp only [signed, decide_eq_true_eq]

/-- Exactly the texts that spell a whole number are read, as the number that they spell. -/
theorem readInteger_iff {s : String} {n : Int} : readInteger s = .ok n ↔ Spells s n := by
  constructor
  · exact spells_of_readInteger
  · rintro ⟨p, hvalid, hs, rfl⟩
    exact hvalid.readInteger hs

theorem Spells.unique {s : String} {n n' : Int} (h : Spells s n) (h' : Spells s n') : n = n' :=
  Except.ok.inj ((readInteger_iff.mpr h).symm.trans (readInteger_iff.mpr h'))

end Classes

/-! ## Plain texts -/

/-- ASCII digits, perhaps after a sign, and nothing else. -/
def Plain (s : String) (n : Int) : Prop :=
  ∃ sign ∈ signs, ∃ digits, Address.IsDigits digits ∧ s.toList = sign ++ digits ∧
    n = signed sign (digits.map fun c => c.toNat - 48)

theorem run_of_isDigits {cs : List Char} (h : Address.IsDigits cs) : Run cs (cs.map fun c => c.toNat - 48) := by
  obtain ⟨hne, hcs⟩ := h
  induction cs with
  | nil => exact absurd rfl hne
  | cons c cs ih =>
      obtain ⟨hc, hcs⟩ := List.forall_mem_cons.mp hcs
      cases cs with
      | nil => exact .last (digitValue?_of_isAsciiDigit hc)
      | cons x cs => exact .next (digitValue?_of_isAsciiDigit hc) (ih (List.cons_ne_nil _ _) hcs)

/-- A plain text spells its number if its digits are not too many. -/
theorem Plain.spells {s : String} {n : Int} (h : Plain s n) (hshort : s.toList.countP isAsciiDigit ≤ 4300) :
    Spells s n := by
  obtain ⟨sign, hsign, digits, hdigits, hs, rfl⟩ := h
  have hnone : ∀ c ∈ ([] : List Char), isNumeralBlank c = true := fun _ => nofun
  have hcount : (digits.map fun c => c.toNat - 48).length ≤ 4300 := by
    rw [hs, List.countP_append, List.countP_eq_length.mpr hdigits.2] at hshort
    rw [List.length_map]
    omega
  refine ⟨⟨[], sign, digits, _, []⟩, ⟨hnone, hsign, run_of_isDigits hdigits, hcount, hnone⟩, ?_, rfl⟩
  rw [hs, Spelling.text, List.nil_append, List.append_nil]

theorem isDigits_toDigits (n : Nat) : Address.IsDigits (Nat.toDigits 10 n) := by
  refine ⟨Nat.toDigits_ne_nil, fun c hc => isAsciiDigit_iff.mpr ?_⟩
  exact Char.isDigit_iff_toNat.mp (Nat.isDigit_of_mem_toDigits (by decide) (by decide) hc)

theorem ofDigits_toDigits (n : Nat) : ofDigits ((Nat.toDigits 10 n).map fun c => c.toNat - 48) = n := by
  rw [ofDigits, List.foldl_map]
  exact Nat.ofDigitChars_toDigits (by decide) (by decide)

/-- The text by which a whole number is written is plain. -/
theorem plain_writeInt (n : Int) : Plain (writeInt n) n := by
  unfold writeInt
  split
  next hneg =>
    refine ⟨['-'], by simp [signs], _, isDigits_toDigits n.natAbs, ?_, ?_⟩
    · exact String.toList_append.trans (congrArg ('-' :: ·) String.toList_ofList)
    · rw [signed, if_pos rfl, ofDigits_toDigits]
      omega
  next hneg =>
    refine ⟨[], by simp [signs], _, isDigits_toDigits n.natAbs, String.toList_ofList, ?_⟩
    rw [signed, if_neg (by decide), ofDigits_toDigits]
    omega

end SinkKeeper.Number
