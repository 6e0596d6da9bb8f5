import SinkKeeper.Sql.Token

/-!
# Reading statements

A statement is read from left to right: outside, inside a name between backticks, or inside a literal between
single quotes, where a backslash takes the next character with it. Outside there may be nothing that ends a
statement, begins or ends a comment, or escapes.

`Whole` says that a text can stand inside a statement: it is read to its end, it leaves the reader outside, and
given texts are among its literals. Wholes are put together to wholes.
-/

namespace SinkKeeper.Sql

/-! ## The reader -/

/-- Where a reader of a statement stands. -/
inductive Lexing
  | outside
  | name
  | literal
  | escaped
deriving DecidableEq, Repr

def Lexing.next : Lexing → Char → Lexing
  | .outside, c => if c = '\x60' then .name else if c = '\x27' then .literal else .outside
  | .name, c => if c = '\x60' then .outside else .name
  | .literal, c => if c = '\x27' then .outside else if c = '\x5c' then .escaped else .literal
  | .escaped, _ => .literal

/-- What may not stand outside of names and literals. -/
def breakers : List (List Char) := [['-', '-'], ['/', '*'], ['*', '/'], [';'], ['\x5c']]

def breaks (cs : List Char) : Bool := breakers.any (·.isPrefixOf cs)

/-- Where the reader stands after a text, nowhere if it met outside what stops it. -/
def scan (stops : List Char → Bool) : Lexing → List Char → Option Lexing
  | place, [] => some place
  | place, c :: cs =>
    if place = .outside ∧ stops (c :: cs) = true then none else scan stops (place.next c) cs

/-- The literals of a text without their escapes, if `read` was read of the one in which the reader stands. -/
def literalsFrom : Lexing → List Char → List Char → List (List Char)
  | _, _, [] => []
  | .literal, read, c :: cs =>
    if c = '\x27' then read :: literalsFrom .outside [] cs
    else if c = '\x5c' then literalsFrom .escaped read cs
    else literalsFrom .literal (read ++ [c]) cs
  | .escaped, read, c :: cs => literalsFrom .literal (read ++ [c]) cs
  | place, _, c :: cs => literalsFrom (place.next c) [] cs

def literals (sql : String) : List String := (literalsFrom .outside [] sql.toList).map String.ofList

/-! ## Reading on -/

/-- Whether a text cannot complete a breaker that began before it. -/
def isSoft : List Char → Bool
  | [] => true
  | c :: _ => !(['-', '*', '/'].contains c)

/-- Whether the reader stays outside over a character, whatever follows it. -/
def isPlain (c : Char) : Bool := !(['-', '*', '/', ';', '\x5c', '\x60', '\x27'].contains c)

variable {place place' : Lexing} {as bs cs : List Char}

theorem breaks_cons {c : Char} : breaks (c :: cs) = true ↔
    c = ';' ∨ c = '\x5c' ∨ ∃ d, cs.head? = some d ∧
      (c = '-' ∧ d = '-' ∨ c = '/' ∧ d = '*' ∨ c = '*' ∧ d = '/') := by
  cases cs with
  | nil =>
      simp only [breaks, breakers, List.isPrefixOf, List.any_cons, List.any_nil, Bool.and_true, Bool.and_false,
        Bool.or_false, Bool.false_or, Bool.or_eq_true, beq_iff_eq, List.head?_nil]
      simp [eq_comm]
  | cons d rest =>
      simp only [breaks, breakers, List.isPrefixOf, List.any_cons, List.any_nil, Bool.and_true, Bool.or_false,
        Bool.or_eq_true, Bool.and_eq_true, beq_iff_eq, List.head?_cons, Option.some.injEq]
      constructor
      · rintro (⟨rfl, rfl⟩ | ⟨rfl, rfl⟩ | ⟨rfl, rfl⟩ | rfl | rfl) <;> simp
      · rintro (rfl | rfl | ⟨_, rfl, ⟨rfl, rfl⟩ | ⟨rfl, rfl⟩ | ⟨rfl, rfl⟩⟩) <;> simp

theorem breaks_append {c : Char} (hb : isSoft bs = true) : breaks (c :: (cs ++ bs)) = breaks (c :: cs) := by
  rw [Bool.eq_iff_iff, breaks_cons, breaks_cons]
  -- A breaker has at most two characters, so only the last character can begin one that ends in `bs`.
  cases cs with
  | cons d rest => rfl
  | nil =>
      cases bs with
      | nil => rfl
      | cons d rest =>
          have hd : d ≠ '-' ∧ d ≠ '*' ∧ d ≠ '/' := by simpa [isSoft] using hb
          simp [hd]

theorem not_breaks_of_isPlain {c : Char} (hc : isPlain c = true) : breaks (c :: cs) = false := by
  have h : c ≠ '-' ∧ c ≠ '*' ∧ c ≠ '/' ∧ c ≠ ';' ∧ c ≠ '\x5c' := by
    simp [isPlain] at hc
    simp [hc]
  rw [← Bool.not_eq_true, breaks_cons]
  simp [h]

theorem next_of_isPlain {c : Char} (hc : isPlain c = true) : Lexing.outside.next c = .outside := by
  simp [isPlain] at hc
  simp [Lexing.next, hc]

theorem scan_append (ha : scan breaks place as = some place') (hb : isSoft bs = true) :
    scan breaks place (as ++ bs) = scan breaks place' bs := by
  induction as generalizing place with
  | nil =>
      cases ha
      rfl
  | cons c as ih =>
      simp only [scan] at ha
      split at ha
      · exact nomatch ha
      · rename_i hc
        rw [List.cons_append, scan, breaks_append hb, if_neg hc]
        exact ih ha

theorem scan_plain (ha : as.all isPlain = true) : scan breaks .outside (as ++ bs) = scan breaks .outside bs := by
  induction as with
  | nil => rfl
  | cons c as ih =>
      simp only [List.all_cons, Bool.and_eq_true] at ha
      obtain ⟨hc, hrest⟩ := ha
      rw [List.cons_append, scan, not_breaks_of_isPlain hc, next_of_isPlain hc, if_neg (by simp)]
      exact ih hrest

theorem literalsFrom_append {read : List Char} (ha : scan breaks place as = some .outside) :
    literalsFrom place read (as ++ bs) = literalsFrom place read as ++ literalsFrom .outside [] bs := by
  induction as generalizing place read with
  | nil =>
      cases ha
      cases bs <;> rfl
  | cons c as ih =>
      simp only [scan] at ha
      split at ha
      · exact nomatch ha
      · cases place with
        | outside => exact ih ha
        | name => exact ih ha
        | escaped => exact ih ha
        | literal =>
            -- Only here is something read: a quote ends the literal, and a backslash takes the next character.
            simp only [Lexing.next] at ha
            simp only [List.cons_append, literalsFrom]
            split
            · rename_i hc
              rw [if_pos hc] at ha
              rw [ih ha]
              rfl
            · rename_i hc
              rw [if_neg hc] at ha
              split
              · rename_i he
                rw [if_pos he] at ha
                exact ih ha
              · rename_i he
                rw [if_neg he] at ha
                exact ih ha

/-! ## Checked texts -/

theorem hasForbidden_eq_false : hasForbidden cs = false ↔ ∀ token ∈ forbiddenTokens, ¬ token <:+: cs := by
  simp only [hasForbidden, List.any_eq_false, Text.occursIn_iff]

theorem hasForbidden_of_part (h : as <:+: cs) (hf : hasForbidden cs = false) : hasForbidden as = false := by
  rw [hasForbidden_eq_false] at hf ⊢
  intro token ht hi
  exact hf token ht (hi.trans h)

theorem not_breaks_of_not_hasForbidden (hf : hasForbidden cs = false) : breaks cs = false := by
  rw [hasForbidden_eq_false] at hf
  rw [breaks, List.any_eq_false]
  intro token ht hp
  have hm : token ∈ forbiddenTokens := by
    revert ht
    simp only [breakers, forbiddenTokens, List.mem_cons, List.not_mem_nil, or_false]
    rintro (rfl | rfl | rfl | rfl | rfl) <;> simp
  exact hf token hm (List.isPrefixOf_iff_prefix.mp hp).isInfix

theorem ne_of_not_hasForbidden {c : Char} (hf : hasForbidden (c :: cs) = false) : c ≠ '\x60' ∧ c ≠ '\x5c' := by
  rw [hasForbidden_eq_false] at hf
  constructor
  · rintro rfl
    exact hf ['\x60'] (by simp [forbiddenTokens]) (List.prefix_append ['\x60'] cs).isInfix
  · rintro rfl
    exact hf ['\x5c'] (by simp [forbiddenTokens]) (List.prefix_append ['\x5c'] cs).isInfix

theorem quotesPair_quote (cs : List Char) : quotesPair ('\x27' :: cs) = !quotesPair cs := by
  simp only [quotesPair, List.count_cons_self]
  rcases Nat.mod_two_eq_zero_or_one (cs.count '\x27') with h | h <;> simp [Nat.add_mod, h]

theorem quotesPair_cons {c : Char} (h : c ≠ '\x27') (cs : List Char) : quotesPair (c :: cs) = quotesPair cs := by
  rw [quotesPair, quotesPair, List.count_cons_of_ne h]

/-- Over a text without forbidden tokens the reader goes in and out of literals with each quote. -/
theorem scan_checked (hf : hasForbidden cs = false) :
    scan breaks .outside cs = some (if quotesPair cs then .outside else .literal) ∧
      scan breaks .literal cs = some (if quotesPair cs then .literal else .outside) := by
  -- A quote swaps the two readers, so neither half can be proved without the other.
  induction cs with
  | nil => exact ⟨rfl, rfl⟩
  | cons c cs ih =>
      have hb := not_breaks_of_not_hasForbidden hf
      obtain ⟨hname, hescape⟩ := ne_of_not_hasForbidden hf
      obtain ⟨ho, hl⟩ := ih (hasForbidden_of_part (List.suffix_cons c cs).isInfix hf)
      by_cases hq : c = '\x27'
      · subst hq
        have hp := quotesPair_quote cs
        constructor
        · rw [scan, hb, if_neg (by simp), Lexing.next, if_neg hname, if_pos rfl, hl, hp]
          cases quotesPair cs <;> rfl
        · rw [scan, hb, if_neg (by simp), Lexing.next, if_pos rfl, ho, hp]
          cases quotesPair cs <;> rfl
      · have hp := quotesPair_cons hq cs
        constructor
        · rw [scan, hb, if_neg (by simp), Lexing.next, if_neg hname, if_neg hq, ho, hp]
        · rw [scan, hb, if_neg (by simp), Lexing.next, if_neg hq, if_neg hescape, hl, hp]

theorem quotesPair_trim (cs : List Char) : quotesPair (Text.trimWith Text.isBlank cs) = quotesPair cs := by
  obtain ⟨left, right, hcs, hl, hr⟩ := Text.trimWith_between Text.isBlank cs
  have hb : ∀ part : List Char, (∀ c ∈ part, Text.isBlank c = true) → part.count '\x27' = 0 := by
    intro part hp
    rw [List.count_eq_zero]
    intro hm
    exact absurd (hp _ hm) (by decide)
  have hc := congrArg (List.count '\x27') hcs
  rw [List.count_append, List.count_append, hb left hl, hb right hr, Nat.zero_add, Nat.add_zero] at hc
  rw [quotesPair, quotesPair, hc]

theorem trim_part (cs : List Char) : Text.trimWith Text.isBlank cs <:+: cs := by
  obtain ⟨left, right, hcs, -⟩ := Text.trimWith_between Text.isBlank cs
  exact ⟨left, right, hcs.symm⟩

theorem scan_strip {s : String} (hf : hasForbidden s.toList = false) (hq : quotesPair s.toList = true) :
    scan breaks .outside (Text.strip s).toList = some .outside := by
  rw [Text.strip, String.toList_ofList, (scan_checked (hasForbidden_of_part (trim_part _) hf)).1,
    quotesPair_trim, hq]
  rfl

/-! ## Names and literals -/

theorem not_breaks_quote : breaks ('\x27' :: cs) = false := by
  rw [← Bool.not_eq_true, breaks_cons]
  simp

theorem not_breaks_backtick : breaks ('\x60' :: cs) = false := by
  rw [← Bool.not_eq_true, breaks_cons]
  simp

variable {stops : List Char → Bool}

theorem scan_inName (h : ∀ c ∈ as, c ≠ '\x60') : scan stops .name (as ++ '\x60' :: bs) = scan stops .outside bs := by
  induction as with
  | nil => rfl
  | cons c as ih =>
      obtain ⟨hc, hrest⟩ := List.forall_mem_cons.mp h
      rw [List.cons_append, scan, if_neg (by simp), Lexing.next, if_neg hc]
      exact ih hrest

theorem scan_inLiteral {c : Char} (hq : c ≠ '\x27') (he : c ≠ '\x5c') :
    scan stops .literal (c :: cs) = scan stops .literal cs := by
  rw [scan, if_neg (by simp), Lexing.next, if_neg hq, if_neg he]

theorem scan_literalChars :
    scan stops .literal (as.flatMap literalChar ++ '\x27' :: bs) = scan stops .outside bs := by
  induction as with
  | nil => rfl
  | cons c as ih =>
      rw [List.flatMap_cons, List.append_assoc, literalChar]
      split
      · exact ih
      · rename_i hc
        rw [not_or] at hc
        rw [List.singleton_append, scan_inLiteral hc.1 hc.2]
        exact ih

theorem scan_name (hs : stops ('\x60' :: (as ++ ['\x60'])) = false) (h : ∀ c ∈ as, c ≠ '\x60') :
    scan stops .outside ('\x60' :: (as ++ ['\x60'])) = some .outside := by
  rw [scan, hs, if_neg (by simp), Lexing.next, if_pos rfl, scan_inName h]
  rfl

theorem scan_quoteLiteral (hs : ∀ cs, stops ('\x27' :: cs) = false) (s : String) :
    scan stops .outside (quoteLiteral s).toList = some .outside := by
  rw [quoteLiteral, String.toList_ofList, scan, hs, if_neg (by simp), Lexing.next, if_neg (by decide), if_pos rfl,
    scan_literalChars]
  rfl

theorem literalsFrom_literalChars {read : List Char} :
    literalsFrom .literal read (as.flatMap literalChar ++ '\x27' :: bs)
      = (read ++ as) :: literalsFrom .outside [] bs := by
  induction as generalizing read with
  | nil => simp [literalsFrom]
  | cons c as ih =>
      have hr : read ++ c :: as = read ++ [c] ++ as := by simp
      rw [List.flatMap_cons, List.append_assoc, literalChar, hr]
      split
      · rw [List.cons_append, literalsFrom, if_neg (by decide), if_pos rfl]
        exact ih
      · rename_i hc
        rw [not_or] at hc
        rw [List.singleton_append, literalsFrom, if_neg hc.1, if_neg hc.2]
        exact ih

/-! ## Wholes -/

structure Whole (s : String) (values : List String) : Prop where
  scans : scan breaks .outside s.toList = some .outside
  soft : isSoft s.toList = true
  reads : values.Sublist (literals s)

inductive AllWhole : List String → List String → Prop
  | nil : AllWhole [] []
  | cons {s ss values more} : Whole s values → AllWhole ss more → AllWhole (s :: ss) (values ++ more)

variable {s s' : String} {ss ss' values values' : List String}

theorem literals_append (h : scan breaks .outside s.toList = some .outside) :
    literals (s ++ s') = literals s ++ literals s' := by
  rw [literals, String.toList_append, literalsFrom_append h, List.map_append, literals, literals]

theorem isSoft_append (ha : isSoft as = true) (hb : isSoft bs = true) : isSoft (as ++ bs) = true := by
  cases as with
  | nil => exact hb
  | cons c as => exact ha

theorem isSoft_of_plain (h : as.all isPlain = true) : isSoft as = true := by
  cases as with
  | nil => rfl
  | cons c as =>
      simp only [List.all_cons, Bool.and_eq_true] at h
      have hc := h.1
      simp [isPlain] at hc
      simp [isSoft, hc]

theorem Whole.append (h : Whole s values) (h' : Whole s' values') : Whole (s ++ s') (values ++ values') where
  scans := by rw [String.toList_append, scan_append h.scans h'.soft, h'.scans]
  soft := by rw [String.toList_append]; exact isSoft_append h.soft h'.soft
  reads := by rw [literals_append h.scans]; exact h.reads.append h'.reads

theorem Whole.plain (s : String) (h : s.toList.all isPlain = true) : Whole s [] where
  scans := by rw [← List.append_nil s.toList, scan_plain h]; rfl
  soft := isSoft_of_plain h
  reads := List.nil_sublist _

theorem Whole.plain_append (h : s.toList.all isPlain = true) (hne : s.toList.isEmpty = false)
    (h' : scan breaks .outside s'.toList = some .outside) : Whole (s ++ s') [] where
  scans := by rw [String.toList_append, scan_plain h, h']
  soft := by
    rw [String.toList_append]
    cases hs : s.toList with
    | nil =>
        rw [hs] at hne
        exact nomatch hne
    | cons c cs =>
        rw [hs] at h
        have hc : isSoft (c :: cs) = true := isSoft_of_plain h
        exact hc
  reads := List.nil_sublist _

theorem Whole.part (h : Whole s values) (h' : Whole s' []) : Whole (s ++ s') values := by
  have ha := h.append h'
  rw [List.append_nil] at ha
  exact ha

theorem Whole.words (h : Whole s values) (w : String) (hw : w.toList.all isPlain = true) :
    Whole (s ++ w) values := h.part (.plain w hw)

theorem Whole.expression {e : String} (h : Whole s values) (keyword : String)
    (hk : keyword.toList.all isPlain = true) (hne : keyword.toList.isEmpty = false)
    (he : scan breaks .outside e.toList = some .outside) : Whole (s ++ keyword ++ e) values := by
  rw [String.append_assoc]
  exact h.part (.plain_append hk hne he)

theorem Whole.literal (s : String) : Whole (quoteLiteral s) [s] where
  scans := scan_quoteLiteral (fun _ => not_breaks_quote) s
  soft := by
    rw [quoteLiteral, String.toList_ofList]
    rfl
  reads := by
    have hr : literalsFrom .outside [] ('\x27' :: (s.toList.flatMap literalChar ++ ['\x27'])) = [s.toList] := by
      simp only [literalsFrom, Lexing.next]
      exact literalsFrom_literalChars
    rw [literals, quoteLiteral, String.toList_ofList, hr]
    simp

theorem AllWhole.append (h : AllWhole ss values) (h' : AllWhole ss' values') :
    AllWhole (ss ++ ss') (values ++ values') := by
  induction h with
  | nil => exact h'
  | cons hs _ ih =>
      rw [List.append_assoc]
      exact .cons hs ih

theorem AllWhole.singleton (h : Whole s values) : AllWhole [s] values := by
  rw [← List.append_nil values]
  exact .cons h .nil

theorem AllWhole.join (h : AllWhole ss values) (separator : String)
    (hs : separator.toList.all isPlain = true) : Whole (Text.join separator ss) values := by
  induction h with
  | nil => exact .plain "" rfl
  | @cons s ss values more hw hrest ih =>
      cases hrest with
      | nil =>
          rw [List.append_nil]
          exact hw
      | cons hw' hrest' =>
          exact (hw.words separator hs).append ih

end SinkKeeper.Sql
