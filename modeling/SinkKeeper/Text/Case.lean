import SinkKeeper.Text.Printable
import SinkKeeper.Text.Case.Table

/-!
# Letter case

Full lower-case and upper-case forms: a character may turn into several, and a capital sigma that ends
a word turns into the final form.
-/

namespace SinkKeeper.Text

def runImage? (runs : List CaseRun) (n : Nat) : Option Nat := runs.findSome? (·.image? n)

/-- The lower-case form of a character that does not depend on its neighbours. -/
def lowerChar (c : Char) : List Char :=
  if c.toNat < 128 then [c.toLower]
  -- The only character whose lower-case form has two.
  else if c = '\u0130' then ['i', '\u0307']
  else [((runImage? lowerRuns c.toNat).map Char.ofNat).getD c]

def upperChar (c : Char) : List Char :=
  if c.toNat < 128 then [c.toUpper]
  else match upperSequences.lookup c.toNat with
    | some ns => ns.map Char.ofNat
    | none => [((runImage? upperRuns c.toNat).map Char.ofNat).getD c]

/-- Whether the nearest character that is not passed over is a letter with case. -/
def meetsCased (cs : List Char) : Bool :=
  match cs.find? fun c => !inRanges caseIgnorableRanges c.toNat with
  | some c => c.toNat < 128 && c.isAlpha || inRanges casedRanges c.toNat
  | none => false

/-- Lowers a text whose characters before it are `before`, the nearest first. -/
def lowerAfter (before : List Char) : List Char → List Char
  | [] => []
  | c :: rest =>
    let form :=
      if c = '\u03A3' then (if meetsCased before && !meetsCased rest then ['\u03C2'] else ['\u03C3'])
      else lowerChar c
    form ++ lowerAfter (c :: before) rest

def lower (s : String) : String := String.ofList (lowerAfter [] s.toList)

def upper (s : String) : String := String.ofList (s.toList.flatMap upperChar)

theorem lowerAfter_ascii {before cs : List Char} (h : ∀ c ∈ cs, c.toNat < 128) :
    lowerAfter before cs = cs.map Char.toLower := by
  induction cs generalizing before with
  | nil => rfl
  | cons c cs ih =>
    have hc : c.toNat < 128 := h c List.mem_cons_self
    have hne : c ≠ '\u03A3' := by
      rintro rfl
      exact absurd hc (by decide)
    rw [lowerAfter, if_neg hne, lowerChar, if_pos hc, ih fun d hd => h d (List.mem_cons_of_mem c hd)]
    rfl

end SinkKeeper.Text
