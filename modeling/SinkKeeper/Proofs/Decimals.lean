import SinkKeeper.Proofs.Numerals
import SinkKeeper.Proofs.Overflow

/-!
# Texts of doubles

A text is read as a double if it names one, or if it writes a decimal: digits, perhaps a point and digits after it,
perhaps a power of ten. A text spells infinity by its name, or by a decimal that is beyond the format.
-/

namespace SinkKeeper.Number

open SinkKeeper.Text
open Double (ofDecimal ofRatio packed)

/-! ## Writing -/

def AreDigits (cs : List Char) : Prop := ∀ c ∈ cs, isDecimalDigit c = true

/-- What stands after whole digits: nothing, or a point with the digits after it. -/
inductive Places : List Char → List Char → Prop
  | none : Places [] []
  | point {digits : List Char} (hdigits : AreDigits digits) : Places ('.' :: digits) digits

/-- What stands after all digits: nothing, or a power of ten. -/
inductive Power : List Char → Int → Prop
  | none : Power [] 0
  | marked {mark : Char} {sign digits : List Char} (hmark : mark = 'e' ∨ mark = 'E') (hsign : sign ∈ signs)
      (hdigits : AreDigits digits) (hsome : digits ≠ []) :
      Power (mark :: (sign ++ digits)) (signed sign (digits.filterMap digitValue?))

/-- The text writes the decimal `digits * 10 ^ exponent`, with one digit at least. -/
inductive Writes : List Char → Nat → Int → Prop
  | mk {whole point places power : List Char} {e : Int} (hwhole : AreDigits whole) (hplaces : Places point places)
      (hpower : Power power e) (hsome : whole ++ places ≠ []) :
      Writes (whole ++ (point ++ power)) (ofDigits ((whole ++ places).filterMap digitValue?)) (e - places.length)

/-- The text without the blanks around it and without the underscores between its digits. -/
structure Bare (s : String) (cs : List Char) : Prop where
  separated : '_' ∈ trimWith isNumeralBlank s.toList → underscoresSeparate (trimWith isNumeralBlank s.toList) = true
  kept : cs = (trimWith isNumeralBlank s.toList).filter (· ≠ '_')

/-- The text spells infinity, by its name in any letter case or by a decimal beyond the format. -/
inductive Endless (s : String) : Prop
  | named {sign word : List Char} (hbare : Bare s (sign ++ word)) (hsign : sign = [] ∨ sign = ['+'])
      (hword : word.map Char.toLower = "inf".toList ∨ word.map Char.toLower = "infinity".toList)
  | beyond {sign cs : List Char} {digits : Nat} {exponent : Int} (hbare : Bare s (sign ++ cs))
      (hsign : sign = [] ∨ sign = ['+']) (hwrites : Writes cs digits exponent)
      (hbeyond : (overflowBound : ℚ) ≤ digits * 10 ^ exponent)

/-! ## Reading powers -/

variable {negative b : Bool} {c : Char} {cs whole point places rest : List Char} {e : Int} {x : Double} {s : String}

theorem AreDigits.head (h : AreDigits cs) (hne : cs ≠ []) : ∃ c rest, cs = c :: rest ∧ isDecimalDigit c = true := by
  obtain ⟨c, rest, rfl⟩ := List.exists_cons_of_ne_nil hne
  exact ⟨c, rest, rfl, h c List.mem_cons_self⟩

theorem readExponent?_eq_some :
    readExponent? cs = some e ↔ ∃ sign ∈ signs, ∃ digits, AreDigits digits ∧ digits ≠ [] ∧ cs = sign ++ digits ∧
      e = signed sign (digits.filterMap digitValue?) := by
  constructor
  · intro h
    obtain ⟨sign, hsign, hcs, hnegative⟩ := exists_sign cs
    simp only [readExponent?] at h
    split at h
    · cases h
    next hdigits =>
      simp only [Bool.or_eq_true, List.isEmpty_iff, Bool.not_eq_true', not_or, Bool.not_eq_false] at hdigits
      refine ⟨sign, hsign, (cutSign cs).2, List.all_eq_true.mp hdigits.2, hdigits.1, hcs, ?_⟩
      simp only [hnegative, decide_eq_true_eq, Option.some.injEq] at h
      exact h.symm
  · rintro ⟨sign, hsign, digits, hdigits, hne, rfl, rfl⟩
    obtain ⟨c, rest, rfl, hc⟩ := hdigits.head hne
    have hall : (c :: rest).all isDecimalDigit = true := List.all_eq_true.mpr hdigits
    simp only [readExponent?, cutSign_append hsign hc, hall]
    simp [signed]

/-- The power of ten at the end of a text. -/
def readPower? : List Char → Option Int
  | [] => some 0
  | 'e' :: power | 'E' :: power => readExponent? power
  | _ => none

theorem readPower?_eq_some : readPower? cs = some e ↔ Power cs e := by
  constructor
  · intro h
    unfold readPower? at h
    split at h
    · cases h
      exact .none
    · obtain ⟨sign, hsign, digits, hdigits, hne, rfl, rfl⟩ := readExponent?_eq_some.mp h
      exact .marked (.inl rfl) hsign hdigits hne
    · obtain ⟨sign, hsign, digits, hdigits, hne, rfl, rfl⟩ := readExponent?_eq_some.mp h
      exact .marked (.inr rfl) hsign hdigits hne
    · cases h
  · intro h
    cases h with
    | none => rfl
    | marked hmark hsign hdigits hne =>
        rcases hmark with rfl | rfl <;>
          exact readExponent?_eq_some.mpr ⟨_, hsign, _, hdigits, hne, rfl, rfl⟩

/-! ## Reading decimals -/

/-- The digits end where the text goes on with something else. -/
structure Stops (point rest : List Char) : Prop where
  digit : ∀ c ∈ rest.head?, isDecimalDigit c = false
  point : point = [] → rest.head? ≠ some '.'

theorem takeWhile_digits (h : AreDigits cs) (hrest : ∀ c ∈ rest.head?, isDecimalDigit c = false) :
    (cs ++ rest).takeWhile isDecimalDigit = cs ∧ (cs ++ rest).dropWhile isDecimalDigit = rest := by
  rw [List.takeWhile_append_of_pos h, List.dropWhile_append_of_pos h]
  cases rest with
  | nil => exact ⟨List.append_nil cs, rfl⟩
  | cons c rest =>
      have hc : ¬isDecimalDigit c = true := by simp [hrest c rfl]
      rw [List.takeWhile_cons_of_neg hc, List.dropWhile_cons_of_neg hc]
      exact ⟨List.append_nil cs, rfl⟩

theorem AreDigits.values_eq_nil (h : AreDigits cs) : cs.filterMap digitValue? = [] ↔ cs = [] := by
  refine ⟨fun hnil => List.eq_nil_iff_forall_not_mem.mpr fun c hc => ?_, fun hnil => hnil ▸ rfl⟩
  have hnone := List.filterMap_eq_nil_iff.mp hnil c hc
  exact Bool.false_ne_true ((congrArg Option.isSome hnone).symm.trans (h c hc))

theorem Places.digits (h : Places point places) : AreDigits places := by
  cases h with
  | none => exact fun _ hc => absurd hc List.not_mem_nil
  | point hdigits => exact hdigits

/-- The digits after a point, if there is one, and what follows them. -/
def cutPlaces : List Char → List Char × List Char
  | '.' :: rest => (rest.takeWhile isDecimalDigit, rest.dropWhile isDecimalDigit)
  | rest => ([], rest)

theorem readDecimal?_eq (negative : Bool) (cs : List Char) :
    readDecimal? negative cs =
      let (places, rest) := cutPlaces (cs.dropWhile isDecimalDigit)
      let digits := (cs.takeWhile isDecimalDigit ++ places).filterMap digitValue?
      if digits = [] then none
      else (readPower? rest).map fun e => ofDecimal negative (ofDigits digits) (e - places.length) := by
  obtain ⟨places, rest, hcut⟩ : ∃ places rest, cutPlaces (cs.dropWhile isDecimalDigit) = (places, rest) := ⟨_, _, rfl⟩
  have hread : readDecimal? negative cs =
      let (places, rest) := cutPlaces (cs.dropWhile isDecimalDigit)
      let digits := (cs.takeWhile isDecimalDigit ++ places).filterMap digitValue?
      if digits.isEmpty then none
      else
        match rest with
        | [] => some (ofDecimal negative (ofDigits digits) (-places.length))
        | 'e' :: power | 'E' :: power =>
          (readExponent? power).map fun e => ofDecimal negative (ofDigits digits) (e - places.length)
        | _ => none := rfl
  rw [hread, hcut]
  dsimp only
  simp only [List.isEmpty_iff]
  split
  · rfl
  · unfold readPower?
    split <;> simp

theorem Places.cut (h : Places point places) (hrest : Stops point rest) : cutPlaces (point ++ rest) = (places, rest) := by
  cases h with
  | none =>
      unfold cutPlaces
      dsimp only [List.nil_append]
      split
      next hpoint => exact absurd rfl (hrest.point rfl)
      next => rfl
  | point hdigits =>
      obtain ⟨htake, hdrop⟩ := takeWhile_digits hdigits hrest.digit
      exact congrArg₂ Prod.mk htake hdrop

/-- What reading makes of digits and of what follows them. -/
theorem readDecimal?_parts (hwhole : AreDigits whole) (hplaces : Places point places) (hrest : Stops point rest) :
    readDecimal? negative (whole ++ (point ++ rest)) =
      if whole ++ places = [] then none
      else (readPower? rest).map fun e =>
        ofDecimal negative (ofDigits ((whole ++ places).filterMap digitValue?)) (e - places.length) := by
  have hstop : ∀ c ∈ (point ++ rest).head?, isDecimalDigit c = false := by
    cases hplaces with
    | none => exact hrest.digit
    | point =>
        rintro c ⟨rfl⟩
        decide
  have hdigits : AreDigits (whole ++ places) := fun c hc => (List.mem_append.mp hc).elim (hwhole c) (hplaces.digits c)
  obtain ⟨htake, hdrop⟩ := takeWhile_digits hwhole hstop
  simp only [readDecimal?_eq, htake, hdrop, hplaces.cut hrest, hdigits.values_eq_nil]

/-- Every text is made of digits, places and a rest. -/
theorem exists_parts (cs : List Char) :
    ∃ whole point places rest, cs = whole ++ (point ++ rest) ∧ AreDigits whole ∧ Places point places ∧
      Stops point rest := by
  have htake : ∀ cs : List Char, AreDigits (cs.takeWhile isDecimalDigit) := fun _ _ => List.mem_takeWhile_imp
  have hstop : ∀ cs : List Char, ∀ c ∈ (cs.dropWhile isDecimalDigit).head?, isDecimalDigit c = false := fun cs c hc => by
    have hnot := List.head?_dropWhile_not isDecimalDigit cs
    rw [hc] at hnot
    exact hnot
  by_cases hpoint : (cs.dropWhile isDecimalDigit).head? = some '.'
  · obtain ⟨tail, htail⟩ := List.head?_eq_some_iff.mp hpoint
    refine ⟨cs.takeWhile isDecimalDigit, '.' :: tail.takeWhile isDecimalDigit, _, tail.dropWhile isDecimalDigit, ?_,
      htake cs, .point (htake tail), hstop tail, nofun⟩
    rw [List.cons_append, List.takeWhile_append_dropWhile, ← htail, List.takeWhile_append_dropWhile]
  · exact ⟨cs.takeWhile isDecimalDigit, [], [], cs.dropWhile isDecimalDigit,
      List.takeWhile_append_dropWhile.symm, htake cs, .none, hstop cs, fun _ => hpoint⟩

theorem Power.stops (h : Power rest e) (point : List Char) : Stops point rest := by
  cases h with
  | none => exact ⟨nofun, fun _ => nofun⟩
  | marked hmark =>
      rcases hmark with rfl | rfl
      · exact ⟨by rintro _ ⟨rfl⟩; decide, fun _ => by simp⟩
      · exact ⟨by rintro _ ⟨rfl⟩; decide, fun _ => by simp⟩

/-- Exactly the texts that write decimals are read as such. -/
theorem readDecimal?_eq_some :
    readDecimal? negative cs = some x ↔
      ∃ digits exponent, Writes cs digits exponent ∧ x = ofDecimal negative digits exponent := by
  constructor
  · intro h
    obtain ⟨whole, point, places, rest, rfl, hwhole, hplaces, hrest⟩ := exists_parts cs
    rw [readDecimal?_parts hwhole hplaces hrest] at h
    split at h
    · cases h
    next hsome =>
      obtain ⟨e, hpower, rfl⟩ := Option.map_eq_some_iff.mp h
      exact ⟨_, _, .mk hwhole hplaces (readPower?_eq_some.mp hpower) hsome, rfl⟩
  · rintro ⟨_, _, hwrites, rfl⟩
    cases hwrites with
    | mk hwhole hplaces hpower hsome =>
        rw [readDecimal?_parts hwhole hplaces (hpower.stops _), if_neg hsome, readPower?_eq_some.mpr hpower]
        rfl

/-! ## Infinity -/

/-- An infinity has the sign that was read. -/
theorem eq_of_ofDecimal {digits : Nat} (h : ofDecimal negative digits e = .infinite b) : b = negative := by
  have hpacked : ∀ {mantissa e}, packed negative mantissa e = .infinite b → b = negative := by grind [packed]
  have hratio : ∀ {num den}, ofRatio negative num den = .infinite b → b = negative := by
    intro num den h
    unfold ofRatio at h
    grind [Double.zero]
  unfold ofDecimal at h
  grind [Double.zero]

theorem readDecimal?_eq_infinite :
    readDecimal? negative cs = some (.infinite b) ↔
      b = negative ∧ ∃ digits exponent, Writes cs digits exponent ∧ (overflowBound : ℚ) ≤ digits * 10 ^ exponent := by
  rw [readDecimal?_eq_some]
  constructor
  · rintro ⟨digits, exponent, hwrites, hx⟩
    obtain rfl := eq_of_ofDecimal hx.symm
    exact ⟨rfl, digits, exponent, hwrites, (ofDecimal_eq_infinite digits exponent).mp hx.symm⟩
  · rintro ⟨rfl, digits, exponent, hwrites, hbeyond⟩
    exact ⟨digits, exponent, hwrites, ((ofDecimal_eq_infinite digits exponent).mpr hbeyond).symm⟩

theorem namedDouble?_eq_infinite :
    namedDouble? negative cs = some (.infinite b) ↔ b = negative ∧ (cs = "inf".toList ∨ cs = "infinity".toList) := by
  have hshort : "inf".toList = ['i', 'n', 'f'] := by decide
  have hlong : "infinity".toList = ['i', 'n', 'f', 'i', 'n', 'i', 't', 'y'] := by decide
  rw [hshort, hlong, namedDouble?]
  grind

/-- A decimal begins with a digit or with a point. -/
theorem Writes.head {digits : Nat} (h : Writes cs digits e) :
    ∃ c rest, cs = c :: rest ∧ (isDecimalDigit c = true ∨ c = '.') := by
  cases h with
  | @mk whole point _ _ _ hwhole hplaces _ hsome =>
      by_cases hnil : whole = []
      · subst hnil
        cases hplaces with
        | none => exact absurd rfl hsome
        | point => exact ⟨'.', _, rfl, .inr rfl⟩
      · obtain ⟨c, rest, rfl, hc⟩ := hwhole.head hnil
        exact ⟨c, _, rfl, .inl hc⟩

/-- What begins a decimal begins no name and is no sign. -/
theorem head_apart (h : isDecimalDigit c = true ∨ c = '.') : c.toLower ≠ 'i' ∧ c.toLower ≠ 'n' ∧ c ≠ '-' ∧ c ≠ '+' := by
  rcases h with h | rfl
  · have happart : ∀ z ∈ decimalZeros, ∀ k < 10, (Char.ofNat (z + k)).toLower ≠ 'i' ∧
        (Char.ofNat (z + k)).toLower ≠ 'n' ∧ Char.ofNat (z + k) ≠ '-' ∧ Char.ofNat (z + k) ≠ '+' := by decide +kernel
    obtain ⟨z, hz, k, hk, rfl⟩ := exists_of_isDecimalDigit h
    exact happart z hz k hk
  · decide

theorem Writes.unnamed {digits : Nat} (h : Writes cs digits e) : namedDouble? negative (cs.map Char.toLower) = none := by
  obtain ⟨c, rest, rfl, hc⟩ := h.head
  obtain ⟨hi, hn, -, -⟩ := head_apart hc
  rw [List.map_cons, namedDouble?]
  grind

theorem cutSign_of_plain {sign : List Char} (hsign : sign = [] ∨ sign = ['+']) (hminus : c ≠ '-') (hplus : c ≠ '+') :
    cutSign (sign ++ c :: rest) = (false, c :: rest) := by
  rcases hsign with rfl | rfl
  · exact cutSign.eq_3 _ (fun _ heq => hminus (List.cons.inj heq).1) fun _ heq => hplus (List.cons.inj heq).1
  · rfl

theorem readDouble?_eq_some :
    readDouble? s = some x ↔ ∃ cs, Bare s cs ∧
      (namedDouble? (cutSign cs).1 ((cutSign cs).2.map Char.toLower)).or (readDecimal? (cutSign cs).1 (cutSign cs).2) =
        some x := by
  simp only [readDouble?]
  split
  next hjoined =>
    simp only [Bool.and_eq_true, List.contains_iff_mem, Bool.not_eq_true'] at hjoined
    refine ⟨nofun, fun ⟨cs, hbare, _⟩ => ?_⟩
    exact absurd (hbare.separated hjoined.1) (by rw [hjoined.2]; exact Bool.false_ne_true)
  next hjoined =>
    simp only [Bool.and_eq_true, List.contains_iff_mem, Bool.not_eq_true', not_and, Bool.not_eq_false] at hjoined
    constructor
    · exact fun h => ⟨_, ⟨hjoined, rfl⟩, h⟩
    · rintro ⟨cs, ⟨-, rfl⟩, h⟩
      exact h

/-- Exactly the texts that spell infinity are read as infinity. -/
theorem readDouble?_eq_infinite : readDouble? s = some (.infinite false) ↔ Endless s := by
  rw [readDouble?_eq_some]
  constructor
  · rintro ⟨cs, hbare, h⟩
    obtain ⟨sign, hsign, hcs, hnegative⟩ := exists_sign cs
    generalize hcut : cutSign cs = cut at *
    obtain ⟨negative, body⟩ := cut
    obtain rfl : negative = decide (sign = ['-']) := hnegative
    -- The sign of the infinity that is read is that of the text.
    have hplain : false = decide (sign = ['-']) → sign = [] ∨ sign = ['+'] := by
      simp only [signs, List.mem_cons, List.not_mem_nil, or_false] at hsign
      grind
    subst hcs
    rcases Option.or_eq_some_iff.mp h with hnamed | ⟨-, hdecimal⟩
    · obtain ⟨hfalse, hword⟩ := namedDouble?_eq_infinite.mp hnamed
      exact .named hbare (hplain hfalse) hword
    · obtain ⟨hfalse, digits, exponent, hwrites, hbeyond⟩ := readDecimal?_eq_infinite.mp hdecimal
      exact .beyond hbare (hplain hfalse) hwrites hbeyond
  · intro h
    cases h with
    | @named sign word hbare hsign hword =>
        obtain ⟨c, rest, rfl, hc⟩ : ∃ c rest, word = c :: rest ∧ c.toLower = 'i' := by
          cases word with
          | nil => exact absurd hword (by decide)
          | cons c rest => exact ⟨c, rest, rfl, hword.elim (fun h => (List.cons.inj h).1) fun h => (List.cons.inj h).1⟩
        refine ⟨_, hbare, ?_⟩
        rw [cutSign_of_plain hsign (by rintro rfl; revert hc; decide) (by rintro rfl; revert hc; decide)]
        exact Option.or_eq_some_iff.mpr (.inl (namedDouble?_eq_infinite.mpr ⟨rfl, hword⟩))
    | @beyond sign cs digits exponent hbare hsign hwrites hbeyond =>
        obtain ⟨c, rest, rfl, hc⟩ := hwrites.head
        obtain ⟨-, -, hminus, hplus⟩ := head_apart hc
        refine ⟨_, hbare, ?_⟩
        rw [cutSign_of_plain hsign hminus hplus]
        exact Option.or_eq_some_iff.mpr
          (.inr ⟨hwrites.unnamed, readDecimal?_eq_infinite.mpr ⟨rfl, digits, exponent, hwrites, hbeyond⟩⟩)

example : readDouble? "1_000e400" = some (.infinite false) ∧ readDouble? "1__000e400" = none := by decide +kernel

end SinkKeeper.Number
