import SinkKeeper.Text.Printable

/-!
# The runtime

What the machine underneath settles for texts and documents. A document may write half of a surrogate pair on its
own, which is no character and has no bytes; a runtime sets characters aside that stand for halves. Which they are is
left open: a text that leaves them out holds no half. And the stack may end, so that only so many levels of a document
can be read.

Work that depends on a runtime takes it as an instance. Where none is at hand it runs on the plain one, which sets no
characters aside, reads a replacement character for a half and has a stack without end.
-/

namespace SinkKeeper

/-- The characters that stand for halves of pairs, and what documents and forms may hold. -/
class Runtime where
  /-- The character that a half of a pair is read as. -/
  half : Nat → Char
  /-- The half that a character is set aside for, if it is. -/
  half? : Char → Option Nat
  unprintable : ∀ c, (half? c).isSome = true → Text.isPrintable c = false
  /-- How many levels of a document the stack has room for, to read them and to work on what was read, if it ends. -/
  room : Option Nat
  /-- Whether the fields of a form take texts with halves. -/
  formsTakeHalves : Bool

namespace Runtime

instance (priority := low) plain : Runtime where
  half _ := '\uFFFD'
  half? _ := none
  unprintable _ h := absurd h (by decide)
  room := none
  formsTakeHalves := true

/-- Where the private characters begin that can be set aside. -/
def privateStart : Nat := 0x10F000

theorem isPrintable_private {c : Char} (h : privateStart ≤ c.toNat) : Text.isPrintable c = false := by
  have hlarge : 918000 ≤ c.toNat := Nat.le_trans (by decide) h
  have hrange : Text.inRanges Text.unprintableRanges c.toNat = true := by
    refine List.any_eq_true.mpr ⟨(918000, 1114111), by decide +kernel, ?_⟩
    have hlast : c.toNat < 0xD800 ∨ 0xDFFF < c.toNat ∧ c.toNat < 0x110000 := c.valid
    simp only [Bool.and_eq_true, decide_eq_true_eq]
    omega
  rw [Text.isPrintable, if_neg (by omega), hrange]
  rfl

/-- A runtime that reads private characters for halves, with room for some levels. -/
@[reducible] def reserving (levels : Nat) : Runtime where
  half n := Char.ofNat (privateStart + n % 0x800)
  half? c :=
    if privateStart ≤ c.toNat ∧ c.toNat < privateStart + 0x800 then some (0xD800 + c.toNat % 0x800) else none
  unprintable c h := by
    split at h
    · next hc => exact isPrintable_private hc.1
    · cases h
  room := some levels
  formsTakeHalves := false

end Runtime

/-! ## Halves in texts -/

namespace Text

def isHighHalf (n : Nat) : Bool := 0xD800 ≤ n && n < 0xDC00

def isLowHalf (n : Nat) : Bool := 0xDC00 ≤ n && n < 0xE000

/-- The character of one unit. A half on its own is no character, and is read as the runtime has it. -/
def unitChar [Runtime] (n : Nat) : Char := if isHighHalf n || isLowHalf n then Runtime.half n else Char.ofNat n

/-- Whether a text has bytes: no half has any. -/
def isEncodable [Runtime] (s : String) : Bool := s.toList.all fun c => (Runtime.half? c).isNone

@[simp] theorem isEncodable_plain (s : String) : isEncodable s = true := List.all_eq_true.mpr fun _ _ => rfl

theorem Printable.isEncodable [Runtime] {s : String} (h : Printable s) : isEncodable s = true := by
  refine List.all_eq_true.mpr fun c hc => ?_
  have hprintable := mt (Runtime.unprintable c) (Bool.not_eq_false _ ▸ h c hc)
  rwa [Option.isNone_iff_eq_none, ← Option.not_isSome_iff_eq_none]

end Text

end SinkKeeper
