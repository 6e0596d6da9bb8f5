import Mathlib.Data.List.Infix
import SinkKeeper.Proofs.Closed

/-!
# Expressions on their own

An expression is written into a statement as it is. What follows it there begins with a blank, a line feed, a comma or
a bracket, and is read as it would be without the expression if a reader that enters the expression outside of strings
and comments leaves it there, at the depth of brackets at which it entered.

The check pairs the single quotes of an expression and keeps out of it the comments that begin with two dashes. It
does not look at double quotes, at comments that begin with `#` and at brackets.
-/

namespace SinkKeeper.Sql

/-! ## The reader -/

/-- Where a reader of strings, comments and brackets stands. -/
inductive Region
  | code
  | string (quote : Char)
  | escaped (quote : Char)
  | comment
deriving DecidableEq, Repr

def isQuote (c : Char) : Bool := c = '\x27' || c = '\x22'

/-- Whether a text begins with a comment that goes on to the end of the line. -/
def opensComment (cs : List Char) : Bool := ['#'].isPrefixOf cs || ['-', '-'].isPrefixOf cs

/-- Where a text leaves the reader, and at which depth of round brackets; nowhere if the text closes a bracket that is
not open. A backslash in a string takes the next character with it only for a reader that knows escapes. -/
def traverse (escapes : Bool) : Region → Nat → List Char → Option (Region × Nat)
  | region, depth, [] => some (region, depth)
  | .comment, depth, c :: cs => traverse escapes (if c = '\n' then .code else .comment) depth cs
  | .string quote, depth, c :: cs =>
    if c = quote then traverse escapes .code depth cs
    else if escapes = true ∧ c = '\x5c' then traverse escapes (.escaped quote) depth cs
    else traverse escapes (.string quote) depth cs
  | .escaped quote, depth, _ :: cs => traverse escapes (.string quote) depth cs
  | .code, depth, c :: cs =>
    if opensComment (c :: cs) then traverse escapes .comment depth cs
    else if isQuote c then traverse escapes (.string c) depth cs
    else if c = '(' then traverse escapes .code (depth + 1) cs
    else if c = ')' then if depth = 0 then none else traverse escapes .code (depth - 1) cs
    else traverse escapes .code depth cs

/-- The reader enters a text outside of strings and comments and leaves it there, with every bracket closed. -/
def SelfContained (escapes : Bool) (cs : List Char) : Prop := traverse escapes .code 0 cs = some (.code, 0)

instance (escapes : Bool) (cs : List Char) : Decidable (SelfContained escapes cs) :=
  inferInstanceAs (Decidable (traverse escapes .code 0 cs = some (.code, 0)))

/-! ## Strings and brackets by themselves -/

/-- The quote of the string that a text leaves open, if it begins in the string of the given quote. -/
def leftOpen : Option Char → List Char → Option Char
  | quote, [] => quote
  | none, c :: cs => leftOpen (if isQuote c then some c else none) cs
  | some quote, c :: cs => leftOpen (if c = quote then none else some quote) cs

/-- The characters of a text that stand outside of strings. -/
def bare : Option Char → List Char → List Char
  | _, [] => []
  | none, c :: cs => if isQuote c then bare (some c) cs else c :: bare none cs
  | some quote, c :: cs => bare (if c = quote then none else some quote) cs

/-- No bracket of a text closes more than is open, and in the end nothing is open. -/
structure Balanced (depth : Nat) (cs : List Char) : Prop where
  opened : ∀ front, front <+: cs → front.count ')' ≤ depth + front.count '('
  settled : cs.count ')' = depth + cs.count '('

section Balanced

variable {c : Char} {cs : List Char} {depth : Nat}

theorem balanced_nil : Balanced depth [] ↔ depth = 0 := by
  constructor
  · intro h
    exact h.settled.symm
  · rintro rfl
    exact ⟨fun front hf => by rw [List.prefix_nil.mp hf]; exact Nat.le_refl 0, rfl⟩

/-- A balance that changes by the first character. -/
theorem balanced_cons {more : Nat} (h : ∀ front : List Char,
    depth + (c :: front).count '(' + front.count ')' = more + front.count '(' + (c :: front).count ')') :
    Balanced depth (c :: cs) ↔ Balanced more cs := by
  constructor
  · rintro ⟨hopened, hsettled⟩
    refine ⟨fun front hf => ?_, ?_⟩
    · have hle := hopened (c :: front) (List.cons_prefix_cons.mpr ⟨rfl, hf⟩)
      have heq := h front
      omega
    · have heq := h cs
      omega
  · rintro ⟨hopened, hsettled⟩
    refine ⟨fun front hf => ?_, ?_⟩
    · obtain rfl | ⟨shorter, rfl, hs⟩ := List.prefix_cons_iff.mp hf
      · exact Nat.zero_le _
      · have hle := hopened shorter hs
        have heq := h shorter
        omega
    · have heq := h cs
      omega

theorem balanced_open : Balanced depth ('(' :: cs) ↔ Balanced (depth + 1) cs := by
  refine balanced_cons fun front => ?_
  rw [List.count_cons_self, List.count_cons_of_ne (by decide)]
  omega

theorem balanced_close : Balanced (depth + 1) (')' :: cs) ↔ Balanced depth cs := by
  refine balanced_cons fun front => ?_
  rw [List.count_cons_self, List.count_cons_of_ne (by decide)]
  omega

theorem not_balanced_close : ¬ Balanced 0 (')' :: cs) := by
  intro h
  exact absurd (h.opened [')'] (List.prefix_append [')'] cs)) (by decide)

theorem balanced_other (ho : c ≠ '(') (hc : c ≠ ')') : Balanced depth (c :: cs) ↔ Balanced depth cs := by
  refine balanced_cons fun front => ?_
  rw [List.count_cons_of_ne ho, List.count_cons_of_ne hc]

end Balanced

/-! ## What the reader finds -/

/-- Where the reader stands outside of comments. -/
def Region.of : Option Char → Region
  | none => .code
  | some quote => .string quote

section Traverse

variable {escapes : Bool} {region region' : Region} {depth depth' : Nat} {cs rest : List Char}

theorem traverse_comment (h : '\n' ∉ cs) : traverse escapes .comment depth cs = some (.comment, depth) := by
  induction cs with
  | nil => rfl
  | cons c cs ih =>
      obtain ⟨hc, hrest⟩ := List.ne_and_not_mem_of_not_mem_cons h
      rw [traverse, if_neg hc.symm]
      exact ih hrest

theorem opensComment_iff {c : Char} :
    opensComment (c :: cs) = true ↔ c = '#' ∨ c = '-' ∧ cs.head? = some '-' := by
  cases cs with
  | nil => simp [opensComment, List.isPrefixOf, @eq_comm Char '#']
  | cons d cs => simp [opensComment, List.isPrefixOf, @eq_comm Char '#', @eq_comm Char '-']

/-- In a text of one line without two dashes in a row and without backslashes, the reader ends where it should if no
string is left open, no `#` stands outside of strings, and the brackets that stand there are balanced. -/
theorem traverse_eq_code_iff (hd : ¬ ['-', '-'] <:+: cs) (hf : '\n' ∉ cs) (hb : '\x5c' ∉ cs) (quote : Option Char) :
    traverse escapes (.of quote) depth cs = some (.code, 0) ↔
      leftOpen quote cs = none ∧ '#' ∉ bare quote cs ∧ Balanced depth (bare quote cs) := by
  induction cs generalizing quote depth with
  | nil => cases quote <;> simp [traverse, Region.of, leftOpen, bare, balanced_nil]
  | cons c cs ih =>
      have hd' : ¬ ['-', '-'] <:+: cs := fun h => hd (h.trans (List.suffix_cons c cs).isInfix)
      have hf' := (List.ne_and_not_mem_of_not_mem_cons hf).2
      obtain ⟨hc, hb'⟩ := List.ne_and_not_mem_of_not_mem_cons hb
      have ih {depth : Nat} := @ih depth hd' hf' hb'
      cases quote with
      | some quote =>
          rw [Region.of, traverse, leftOpen, bare, if_neg fun h : escapes = true ∧ c = '\x5c' => hc h.2.symm]
          by_cases hclose : c = quote
          · rw [if_pos hclose, if_pos hclose]
            exact ih none
          · rw [if_neg hclose, if_neg hclose]
            exact ih (some quote)
      | none =>
          by_cases hhash : c = '#'
          · subst hhash
            rw [Region.of, traverse, if_pos (by rfl), traverse_comment hf', bare, if_neg (by decide)]
            simp
          -- A comment would go on to the end, for there is no line feed; but neither mark of one stands here.
          have hcomment : opensComment (c :: cs) ≠ true := by
            rw [Ne, opensComment_iff]
            rintro (h | ⟨rfl, h⟩)
            · exact hhash h
            · obtain ⟨more, rfl⟩ := List.head?_eq_some_iff.mp h
              exact hd (List.prefix_append ['-', '-'] more).isInfix
          rw [Region.of, traverse, if_neg hcomment, leftOpen, bare]
          by_cases hquote : isQuote c = true
          · rw [if_pos hquote, if_pos hquote, if_pos hquote]
            exact ih (some c)
          rw [if_neg hquote, if_neg hquote, if_neg hquote, List.mem_cons, not_or,
            and_iff_right (Ne.symm hhash : ¬ '#' = c)]
          by_cases ho : c = '('
          · subst ho
            rw [if_pos rfl, balanced_open]
            exact ih none
          rw [if_neg ho]
          by_cases hc : c = ')'
          · subst hc
            rw [if_pos rfl]
            cases depth with
            | zero => simp [not_balanced_close]
            | succ depth =>
                rw [if_neg (Nat.succ_ne_zero depth), balanced_close]
                exact ih none
          · rw [if_neg hc, balanced_other ho hc]
            exact ih none

/-- What begins outside of strings and comments and ends there is passed over, whatever follows it. -/
theorem traverse_append (h : traverse escapes region depth cs = some (region', depth')) (hr : rest.head? ≠ some '-')
    (outer : Nat) :
    traverse escapes region (depth + outer) (cs ++ rest) = traverse escapes region' (depth' + outer) rest := by
  induction cs generalizing region depth with
  | nil =>
      cases h
      rfl
  | cons c cs ih =>
      cases region with
      | comment => exact ih h
      | escaped quote => exact ih h
      | string quote =>
          rw [traverse] at h
          rw [List.cons_append, traverse]
          split at h
          · rename_i hc
            rw [if_pos hc]
            exact ih h
          · rename_i hc
            rw [if_neg hc]
            split at h
            · rename_i he
              rw [if_pos he]
              exact ih h
            · rename_i he
              rw [if_neg he]
              exact ih h
      | code =>
          have hcomment : opensComment (c :: (cs ++ rest)) = opensComment (c :: cs) := by
            rw [Bool.eq_iff_iff, opensComment_iff, opensComment_iff]
            cases cs with
            | nil => simp [hr]
            | cons d cs => rfl
          rw [traverse] at h
          rw [List.cons_append, traverse, hcomment]
          by_cases hc : opensComment (c :: cs) = true
          · rw [if_pos hc] at h ⊢
            exact ih h
          rw [if_neg hc] at h ⊢
          by_cases hq : isQuote c = true
          · rw [if_pos hq] at h ⊢
            exact ih h
          rw [if_neg hq] at h ⊢
          by_cases hopen : c = '('
          · rw [if_pos hopen] at h ⊢
            rw [Nat.add_right_comm]
            exact ih h
          rw [if_neg hopen] at h ⊢
          by_cases hclose : c = ')'
          · rw [if_pos hclose] at h ⊢
            cases depth with
            | zero => exact nomatch h
            | succ depth =>
                rw [Nat.add_right_comm, if_neg (Nat.succ_ne_zero _)]
                exact ih h
          · rw [if_neg hclose] at h ⊢
            exact ih h

theorem SelfContained.traverse_append (h : SelfContained escapes cs) (hr : rest.head? ≠ some '-') (depth : Nat) :
    traverse escapes .code depth (cs ++ rest) = traverse escapes .code depth rest := by
  have hpassed := Sql.traverse_append h hr depth
  rwa [Nat.zero_add] at hpassed

theorem traverse_quoteLiteral (s : String) :
    traverse true .code depth ((quoteLiteral s).toList ++ rest) = traverse true .code depth rest := by
  have hchars : ∀ cs : List Char, traverse true (.string '\x27') depth (cs.flatMap literalChar ++ '\x27' :: rest) =
      traverse true .code depth rest := by
    intro cs
    induction cs with
    | nil => rfl
    | cons c cs ih =>
        rw [List.flatMap_cons, List.append_assoc, literalChar]
        split
        · exact ih
        · rename_i hc
          rw [not_or] at hc
          rw [List.singleton_append, traverse, if_neg hc.1, if_neg fun h => hc.2 h.2]
          exact ih
  rw [quoteLiteral, String.toList_ofList, List.cons_append, List.append_assoc]
  exact hchars s.toList

/-- Of single quotes alone, a text leaves a string open if they cannot be paired. -/
theorem leftOpen_eq_none_iff (h : '\x22' ∉ cs) :
    (leftOpen none cs = none ↔ quotesPair cs = true) ∧ (leftOpen (some '\x27') cs = none ↔ quotesPair cs = false) := by
  induction cs with
  | nil => exact ⟨by decide, by decide⟩
  | cons c cs ih =>
      obtain ⟨hc, hrest⟩ := List.ne_and_not_mem_of_not_mem_cons h
      obtain ⟨hout, hin⟩ := ih hrest
      by_cases hq : c = '\x27'
      · subst hq
        rw [quotesPair_quote, leftOpen, leftOpen, if_pos (by decide), if_pos rfl, hin, hout]
        simp
      · have hquote : isQuote c = false := by simp [isQuote, hq, hc.symm]
        rw [leftOpen, leftOpen, hquote, if_neg (by decide), if_neg hq, quotesPair_cons hq]
        exact ⟨hout, hin⟩

end Traverse

/-! ## Checked expressions -/

/-- Every string of a text is closed, and outside of strings no `#` stands and the brackets are balanced. -/
structure Tidy (cs : List Char) : Prop where
  closed : leftOpen none cs = none
  uncommented : '#' ∉ bare none cs
  balanced : Balanced 0 (bare none cs)

section Checked

variable {kind : String} {expression : Json} {r : String}

theorem checkExpression_line (h : checkExpression kind expression = .ok r) :
    hasForbidden r.toList = false ∧ quotesPair r.toList = true ∧ '\n' ∉ r.toList := by
  obtain ⟨text, ⟨-, hx⟩, rfl⟩ := checkExpression_eq_ok.mp h
  simp only [isExpression, Bool.and_eq_true, Bool.not_eq_true', List.any_eq_false, decide_eq_true_eq] at hx
  obtain ⟨⟨⟨-, hf⟩, hq⟩, hline⟩ := hx
  have hpart := trim_part text.toList
  rw [Text.strip, String.toList_ofList]
  refine ⟨hasForbidden_of_part hpart hf, (quotesPair_trim _).trans hq, fun hm => ?_⟩
  exact hline '\n' (hpart.subset hm) (by decide)

theorem selfContained_iff (h : checkExpression kind expression = .ok r) (escapes : Bool) :
    SelfContained escapes r.toList ↔ Tidy r.toList := by
  obtain ⟨hf, -, hline⟩ := checkExpression_line h
  rw [hasForbidden_eq_false] at hf
  have hd : ¬ ['-', '-'] <:+: r.toList := hf _ (by simp [forbiddenTokens])
  have hb : '\x5c' ∉ r.toList := by
    rw [← List.singleton_infix_iff]
    exact hf _ (by simp [forbiddenTokens])
  refine (traverse_eq_code_iff hd hline hb none).trans ⟨?_, fun ht => ⟨ht.closed, ht.uncommented, ht.balanced⟩⟩
  rintro ⟨hclosed, huncommented, hbalanced⟩
  exact ⟨hclosed, huncommented, hbalanced⟩

/-- An accepted expression is self-contained exactly if it is tidy. Its strings are closed if there is no double quote
in it. What stands after a tidy expression is read as it would be without it, and a literal there is one literal. -/
theorem checkExpression_selfContained_iff (h : checkExpression kind expression = .ok r) :
    (∀ escapes, SelfContained escapes r.toList ↔ Tidy r.toList) ∧
      ('\x22' ∉ r.toList → leftOpen none r.toList = none) ∧
      (Tidy r.toList →
        (∀ escapes depth rest, rest.head? ≠ some '-' →
          traverse escapes .code depth (r.toList ++ rest) = traverse escapes .code depth rest) ∧
        ∀ depth text rest, traverse true .code depth (r.toList ++ ((quoteLiteral text).toList ++ rest)) =
          traverse true .code depth rest) := by
  refine ⟨selfContained_iff h, fun hq => ?_, fun ht => ⟨fun escapes depth rest hr => ?_, fun depth text rest => ?_⟩⟩
  · exact (leftOpen_eq_none_iff hq).1.mpr (checkExpression_line h).2.1
  · exact ((selfContained_iff h escapes).mpr ht).traverse_append hr depth
  · have hquote : ((quoteLiteral text).toList ++ rest).head? ≠ some '-' := by
      rw [quoteLiteral, String.toList_ofList, List.cons_append, List.head?_cons]
      decide
    exact (((selfContained_iff h true).mpr ht).traverse_append hquote depth).trans (traverse_quoteLiteral text)

/-- A default of nested calls, with a bracket, a `#` and a lone quote inside its strings. -/
def nestedDefault : String := "concat(lower('a)'), \x22it's #\x22, 'b#', \x22that's\x22)"

theorem nestedDefault_selfContained :
    checkExpression "default expression" (.string (" " ++ nestedDefault ++ "  ")) = .ok nestedDefault ∧
      Tidy nestedDefault.toList ∧
      ∀ depth text, traverse true .code depth (nestedDefault.toList ++ (quoteLiteral text).toList) =
        some (.code, depth) := by
  have h : checkExpression "default expression" (.string (" " ++ nestedDefault ++ "  ")) = .ok nestedDefault := rfl
  obtain ⟨hiff, -, hpassed⟩ := checkExpression_selfContained_iff h
  have ht : Tidy nestedDefault.toList := (hiff false).mp (by decide)
  refine ⟨h, ht, fun depth text => ?_⟩
  have hliteral := (hpassed ht).2 depth text []
  rwa [List.append_nil] at hliteral

/-- A table whose engine begins a comment, and whose own comment has a second line. -/
def commentedTable : Table :=
  { hostileTable with
    columns := [Column.plain "a" "INT"]
    engine := .string "InnoDB #"
    comment := .string "\n; DROP DATABASE db; #" }

/-- Accepted texts that are not self-contained: one begins a comment, one closes a bracket that is not open, and one
leaves a string open. After the first, the second line of a comment is read as code. -/
theorem accepted_not_selfContained :
    (∀ text ∈ ["InnoDB #", "1) + (1", "\x22"], checkExpression "table engine" (.string text) = .ok text ∧
      ¬ SelfContained false text.toList) ∧
    ∃ before, Dialect.createTable commentedTable .mysql = .ok (before ++ "; DROP DATABASE db; #'") ∧
      traverse true .code 0 before.toList = some (.code, 0) := by
  refine ⟨?_, "CREATE TABLE IF NOT EXISTS `db`.`t` (\n    `a` INT\n)" ++
    " ENGINE=InnoDB # DEFAULT CHARSET=utf8mb4 COMMENT='\n", rfl, by decide⟩
  simp only [List.forall_mem_cons]
  exact ⟨⟨rfl, by decide⟩, ⟨rfl, by decide⟩, ⟨rfl, by decide⟩, List.forall_mem_nil _⟩

end Checked

end SinkKeeper.Sql
