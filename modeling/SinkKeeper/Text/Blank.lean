/-!
# Blank characters

Two classes of white space: the characters that trimming removes, and the smaller class that may
surround a numeral.
-/

namespace SinkKeeper.Text

/-- White space and the separators of lines, paragraphs, files, groups, records and units. -/
def isBlank (c : Char) : Bool :=
  let n := c.toNat
  (9 ≤ n && n ≤ 13) || (28 ≤ n && n ≤ 32) || n == 0x85 || n == 0xA0 || n == 0x1680
    || (0x2000 ≤ n && n ≤ 0x200A) || n == 0x2028 || n == 0x2029 || n == 0x202F || n == 0x205F || n == 0x3000

/-- A numeral may be surrounded by blanks other than the four control separators U+001C to U+001F. -/
def isNumeralBlank (c : Char) : Bool := isBlank c && !(28 ≤ c.toNat && c.toNat ≤ 31)

/-! ## Trimming -/

def trimWith (p : Char → Bool) (cs : List Char) : List Char :=
  ((cs.dropWhile p).reverse.dropWhile p).reverse

def trimRightWith (p : Char → Bool) (cs : List Char) : List Char :=
  (cs.reverse.dropWhile p).reverse

def strip (s : String) : String := String.ofList (trimWith isBlank s.toList)

def isAllBlank (s : String) : Bool := s.toList.all isBlank

theorem dropWhile_of_all {p : Char → Bool} {cs : List Char} (h : ∀ c ∈ cs, p c = true) :
    cs.dropWhile p = [] := by
  rw [← List.append_nil cs, List.dropWhile_append_of_pos h, List.dropWhile_nil]

theorem trimWith_of_all {p : Char → Bool} {cs : List Char} (h : ∀ c ∈ cs, p c = true) :
    trimWith p cs = [] := by
  simp [trimWith, dropWhile_of_all h]

theorem trimWith_of_none {p : Char → Bool} {cs : List Char} (h : ∀ c ∈ cs, p c = false) : trimWith p cs = cs := by
  have hd : ∀ ds : List Char, (∀ c ∈ ds, p c = false) → ds.dropWhile p = ds := by
    intro ds hds
    cases ds with
    | nil => rfl
    | cons c ds => exact List.dropWhile_cons_of_neg (by simp [hds c])
  rw [trimWith, hd cs h, hd cs.reverse fun c hc => h c (List.mem_reverse.mp hc), List.reverse_reverse]

theorem trimWith_append_left {p : Char → Bool} {left cs : List Char} (h : ∀ c ∈ left, p c = true) :
    trimWith p (left ++ cs) = trimWith p cs := by
  rw [trimWith, List.dropWhile_append_of_pos h, trimWith]

theorem trimWith_append_right {p : Char → Bool} {right cs : List Char} (h : ∀ c ∈ right, p c = true) :
    trimWith p (cs ++ right) = trimWith p cs := by
  have hr : ∀ c ∈ right.reverse, p c = true := fun c hc => h c (List.mem_reverse.mp hc)
  rw [trimWith, trimWith, List.dropWhile_append]
  split
  · rename_i he
    rw [List.isEmpty_iff.mp he, dropWhile_of_all h]
  · rw [List.reverse_append, List.dropWhile_append_of_pos hr]

/-- Trimming drops characters of the class from both ends and nothing else. -/
theorem trimWith_between (p : Char → Bool) (cs : List Char) :
    ∃ left right, cs = left ++ trimWith p cs ++ right ∧ (∀ c ∈ left, p c = true) ∧ ∀ c ∈ right, p c = true := by
  refine ⟨cs.takeWhile p, ((cs.dropWhile p).reverse.takeWhile p).reverse, ?_, ?_, ?_⟩
  · have hr : (cs.dropWhile p).reverse =
        (cs.dropWhile p).reverse.takeWhile p ++ (cs.dropWhile p).reverse.dropWhile p :=
      List.takeWhile_append_dropWhile.symm
    have hd := congrArg List.reverse hr
    rw [List.reverse_reverse, List.reverse_append] at hd
    rw [trimWith, List.append_assoc, ← hd, List.takeWhile_append_dropWhile]
  · intro c hc
    exact List.all_eq_true.mp List.all_takeWhile c hc
  · intro c hc
    exact List.all_eq_true.mp List.all_takeWhile c (List.mem_reverse.mp hc)

end SinkKeeper.Text
