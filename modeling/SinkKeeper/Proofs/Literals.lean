import SinkKeeper.Proofs.Lexing

/-!
# What literals spell

A literal spells a text between two quotes, with a backslash before each backslash and each quote of the text. A reader
who takes the character after a backslash as it is meets no end of the literal before its last quote, and reads the text
that it spells. What follows the literal changes nothing, so a text has one literal, and no literal begins another.
-/

namespace SinkKeeper.Sql

variable {as cs : List Char}

/-! ## Writing in two steps -/

/-- A text with a word in the place of a character, wherever that stands. -/
def replace (c : Char) (word cs : List Char) : List Char := cs.flatMap fun d => if d = c then word else [d]

/-- A text with its backslashes doubled, and then a backslash before each quote. -/
def withEscapes (cs : List Char) : List Char :=
  replace '\x27' ['\x5c', '\x27'] (replace '\x5c' ['\x5c', '\x5c'] cs)

/-- The quotes come last, so that the backslashes before them are not doubled. -/
theorem flatMap_literalChar (cs : List Char) : cs.flatMap literalChar = withEscapes cs := by
  have hchar : ∀ c, literalChar c =
      replace '\x27' ['\x5c', '\x27'] (if c = '\x5c' then ['\x5c', '\x5c'] else [c]) := by
    intro c
    by_cases hescape : c = '\x5c'
    · subst hescape
      decide
    · by_cases hquote : c = '\x27' <;> simp [literalChar, replace, hescape, hquote]
  calc cs.flatMap literalChar
      = cs.flatMap fun c => replace '\x27' ['\x5c', '\x27'] (if c = '\x5c' then ['\x5c', '\x5c'] else [c]) :=
        congrArg (cs.flatMap ·) (funext hchar)
    _ = withEscapes cs := List.flatMap_assoc.symm

example : replace '\x5c' ['\x5c', '\x5c'] (replace '\x27' ['\x5c', '\x27'] ['\x27']) = ['\x5c', '\x5c', '\x27'] ∧
    withEscapes ['\x27'] = ['\x5c', '\x27'] := by decide

theorem toList_quoteLiteral (s : String) :
    (quoteLiteral s).toList = '\x27' :: (withEscapes s.toList ++ ['\x27']) := by
  rw [quoteLiteral, String.toList_ofList, flatMap_literalChar]

/-! ## Where a literal ends -/

theorem next_literal {c : Char} (h : ¬(c = '\x27' ∨ c = '\x5c')) : Lexing.literal.next c = .literal := by
  rw [not_or] at h
  rw [Lexing.next, if_neg h.1, if_neg h.2]

theorem foldl_withEscapes (cs : List Char) : (withEscapes cs).foldl Lexing.next .literal = .literal := by
  rw [← flatMap_literalChar]
  induction cs with
  | nil => rfl
  | cons c cs ih =>
      rw [List.flatMap_cons, List.foldl_append, literalChar]
      split
      · exact ih
      · rename_i hplain
        rw [List.foldl_cons, List.foldl_nil, next_literal hplain]
        exact ih

/-- The reader does not leave a literal inside of it. -/
theorem foldl_ne_outside (h : as <+: withEscapes cs) : as.foldl Lexing.next .literal ≠ .outside := by
  rw [← flatMap_literalChar] at h
  induction cs generalizing as with
  | nil =>
      rw [List.prefix_nil.mp h]
      decide
  | cons c cs ih =>
      rw [List.flatMap_cons, literalChar] at h
      split at h
      · -- A backslash takes the character after it along, so the reader goes on after both.
        obtain rfl | ⟨as, rfl, hrest⟩ := List.prefix_cons_iff.mp h
        · decide
        obtain rfl | ⟨as, rfl, hinside⟩ := List.prefix_cons_iff.mp hrest
        · decide
        · have hread : as.foldl Lexing.next .literal ≠ .outside := ih hinside
          exact hread
      · rename_i hplain
        obtain rfl | ⟨as, rfl, hinside⟩ := List.prefix_cons_iff.mp h
        · decide
        · rw [List.foldl_cons, next_literal hplain]
          exact ih hinside

/-- The reader is outside of a literal before it and after it, and nowhere between. -/
theorem foldl_quoteLiteral {bs : List Char} {s : String} (h : (quoteLiteral s).toList = as ++ bs) :
    as.foldl Lexing.next .outside = .outside ↔ as = [] ∨ bs = [] := by
  rw [toList_quoteLiteral] at h
  cases as with
  | nil => simp
  | cons c as =>
      obtain ⟨rfl, hrest⟩ := List.cons.inj h
      have hopened : ('\x27' :: as).foldl Lexing.next .outside = as.foldl Lexing.next .literal := rfl
      rw [hopened]
      obtain rfl | hinside := List.prefix_concat_iff.mp ⟨bs, hrest.symm⟩
      · have hclosed : (withEscapes s.toList ++ ['\x27']).foldl Lexing.next .literal = .outside := by
          rw [List.foldl_append, foldl_withEscapes]
          rfl
        exact iff_of_true hclosed (.inr (List.append_right_eq_self.mp hrest.symm))
      · refine iff_of_false (foldl_ne_outside hinside) ?_
        rintro (hnil | rfl)
        · cases hnil
        · -- Otherwise the inside would be as long as it is with the last quote.
          have hwhole : withEscapes s.toList ++ ['\x27'] = as := hrest.trans (List.append_nil as)
          have hlength := hinside.length_le
          rw [← hwhole, List.length_append, List.length_singleton] at hlength
          omega

/-! ## Reading what is spelled -/

/-- A text with each escaped character in the place of its escape. -/
def withoutEscapes : List Char → List Char
  | [] => []
  | '\x5c' :: c :: cs => c :: withoutEscapes cs
  | c :: cs => c :: withoutEscapes cs

/-- Reads on to the quote that ends a literal: what was spelled, and what follows the quote. -/
def closeLiteral? : List Char → Option (List Char × List Char)
  | [] => none
  | '\x27' :: cs => some ([], cs)
  | '\x5c' :: c :: cs => (closeLiteral? cs).map fun (read, rest) => (c :: read, rest)
  | c :: cs => (closeLiteral? cs).map fun (read, rest) => (c :: read, rest)

/-- Reads the literal that a text begins with. -/
def readLiteral? : List Char → Option (List Char × List Char)
  | '\x27' :: cs => closeLiteral? cs
  | _ => none

theorem withoutEscapes_withEscapes (cs : List Char) : withoutEscapes (withEscapes cs) = cs := by
  rw [← flatMap_literalChar]
  induction cs with
  | nil => rfl
  | cons c cs ih =>
      rw [List.flatMap_cons, literalChar]
      split
      · exact congrArg (c :: ·) ih
      · rename_i hplain
        rw [not_or] at hplain
        simp [withoutEscapes, hplain, ih]

theorem closeLiteral?_withEscapes (cs rest : List Char) :
    closeLiteral? (withEscapes cs ++ '\x27' :: rest) = some (cs, rest) := by
  rw [← flatMap_literalChar]
  induction cs with
  | nil => rfl
  | cons c cs ih =>
      rw [List.flatMap_cons, List.append_assoc, literalChar]
      split
      · exact congrArg (Option.map fun (read, rest) => (c :: read, rest)) ih
      · rename_i hplain
        rw [not_or] at hplain
        simp [closeLiteral?, hplain, ih]

theorem readLiteral?_quoteLiteral (s : String) (rest : List Char) :
    readLiteral? ((quoteLiteral s).toList ++ rest) = some (s.toList, rest) := by
  rw [toList_quoteLiteral, List.cons_append, List.append_assoc]
  exact closeLiteral?_withEscapes s.toList rest

/-- A literal is the text that it spells with a backslash before each backslash and each quote, between two quotes. Its
reader is outside of it before it and after it alone. Without the quotes and the escapes it is the text again, and it is
read as the text whatever follows it; so it is the literal of no other text, and no literal begins another. -/
theorem quoteLiteral_spells (s : String) :
    (quoteLiteral s).toList = '\x27' :: (withEscapes s.toList ++ ['\x27']) ∧
    (∀ as bs, (quoteLiteral s).toList = as ++ bs →
      (as.foldl Lexing.next .outside = .outside ↔ as = [] ∨ bs = [])) ∧
    withoutEscapes (quoteLiteral s).toList.tail.dropLast = s.toList ∧
    (∀ rest, readLiteral? ((quoteLiteral s).toList ++ rest) = some (s.toList, rest)) ∧
    (∀ t, quoteLiteral t = quoteLiteral s → t = s) ∧
    ∀ t rest rest', (quoteLiteral t).toList ++ rest = (quoteLiteral s).toList ++ rest' → t = s ∧ rest = rest' := by
  have happended : ∀ t rest rest', (quoteLiteral t).toList ++ rest = (quoteLiteral s).toList ++ rest' →
      t = s ∧ rest = rest' := by
    intro t rest rest' h
    have hread := readLiteral?_quoteLiteral t rest
    rw [h, readLiteral?_quoteLiteral] at hread
    obtain ⟨hspelled, hrest⟩ := Prod.mk.inj (Option.some.inj hread)
    exact ⟨(String.toList_injective hspelled).symm, hrest.symm⟩
  refine ⟨toList_quoteLiteral s, fun _ _ => foldl_quoteLiteral, ?_, readLiteral?_quoteLiteral s, ?_, happended⟩
  · rw [toList_quoteLiteral, List.tail_cons, List.dropLast_concat]
    exact withoutEscapes_withEscapes s.toList
  · intro t h
    exact (happended t [] [] (by rw [h])).1

example : quoteLiteral "it's" = "'it\\'s'" ∧ quoteLiteral "C:\\tmp" = "'C:\\\\tmp'" := by decide

end SinkKeeper.Sql
