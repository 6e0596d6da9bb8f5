/-!
# Characters as bytes

UTF-8: writing characters, reading them back, and what a reader does with bytes that are no character.
-/

namespace SinkKeeper.Text.Utf8

def encodeCode (n : Nat) : List UInt8 :=
  if n < 0x80 then [n.toUInt8]
  else if n < 0x800 then [(0xC0 + n / 0x40).toUInt8, (0x80 + n % 0x40).toUInt8]
  else if n < 0x10000 then
    [(0xE0 + n / 0x1000).toUInt8, (0x80 + n / 0x40 % 0x40).toUInt8, (0x80 + n % 0x40).toUInt8]
  else
    [(0xF0 + n / 0x40000).toUInt8, (0x80 + n / 0x1000 % 0x40).toUInt8,
      (0x80 + n / 0x40 % 0x40).toUInt8, (0x80 + n % 0x40).toUInt8]

def encode (cs : List Char) : List UInt8 := cs.flatMap fun c => encodeCode c.toNat

/-! ## Reading one character -/

/-- Why bytes are no character. -/
inductive Flaw
  | start
  | continuation
  | ended
deriving DecidableEq, Repr

def Flaw.message : Flaw → String
  | .start => "invalid start byte"
  | .continuation => "invalid continuation byte"
  | .ended => "unexpected end of data"

/-- What stands at the front of some bytes: a character of so many bytes, or so many bytes that are none. -/
inductive Front
  | char (c : Char) (width : Nat)
  | flawed (flaw : Flaw) (width : Nat)
deriving Repr

/-- How many bytes follow a first byte, and the range of the byte next to it. -/
def lead? (b : Nat) : Option (Nat × Nat × Nat) :=
  if 0xC2 ≤ b ∧ b ≤ 0xDF then some (1, 0x80, 0xBF)
  else if b = 0xE0 then some (2, 0xA0, 0xBF)
  else if b = 0xED then some (2, 0x80, 0x9F)
  else if 0xE1 ≤ b ∧ b ≤ 0xEF then some (2, 0x80, 0xBF)
  else if b = 0xF0 then some (3, 0x90, 0xBF)
  else if 0xF1 ≤ b ∧ b ≤ 0xF3 then some (3, 0x80, 0xBF)
  else if b = 0xF4 then some (3, 0x80, 0x8F)
  else none

/-- Reads `owed` more bytes of a character, of which `seen` are read and make up `code` so far. -/
def continued (seen code : Nat) : (owed low high : Nat) → List UInt8 → Front
  | 0, _, _, _ => .char (Char.ofNat code) seen
  | _ + 1, _, _, [] => .flawed .ended seen
  | owed + 1, low, high, b :: rest =>
    if low ≤ b.toNat ∧ b.toNat ≤ high then
      continued (seen + 1) (code * 0x40 + b.toNat % 0x40) owed 0x80 0xBF rest
    else .flawed .continuation seen

def front (b : UInt8) (rest : List UInt8) : Front :=
  let n := b.toNat
  if n < 0x80 then .char (Char.ofNat n) 1
  else match lead? n with
    | none => .flawed .start 1
    | some (owed, low, high) =>
      continued 1 (if owed = 1 then n % 0x20 else if owed = 2 then n % 0x10 else n % 0x08) owed low high rest

/-! ## Reading a text -/

/-- The bytes that are no character: where, how many, their first, and why. -/
structure Undecodable where
  position : Nat
  width : Nat
  first : Nat
  flaw : Flaw
deriving DecidableEq, Repr

/-- Reads the bytes after the first `skip`, which belong to the character before them. -/
def decodeFrom (position : Nat) : (skip : Nat) → List UInt8 → Except Undecodable (List Char)
  | _, [] => .ok []
  | skip + 1, _ :: rest => decodeFrom (position + 1) skip rest
  | 0, b :: rest =>
    match front b rest with
    | .flawed flaw width => .error ⟨position, width, b.toNat, flaw⟩
    | .char c width => (decodeFrom (position + 1) (width - 1) rest).map (c :: ·)

/-- The text that the bytes spell, or the first place where they spell none. -/
def decode? (bytes : List UInt8) : Except Undecodable (List Char) := decodeFrom 0 0 bytes

/-- Reads as `decodeFrom` does, with a replacement character for each run of bytes that is no character. -/
def replacingFrom : (skip : Nat) → List UInt8 → List Char
  | _, [] => []
  | skip + 1, _ :: rest => replacingFrom skip rest
  | 0, b :: rest =>
    match front b rest with
    | .flawed _ width => '\uFFFD' :: replacingFrom (width - 1) rest
    | .char c width => c :: replacingFrom (width - 1) rest

/-- The text that the bytes spell, with a replacement character where they spell none. -/
def decodeReplacing (bytes : List UInt8) : List Char := replacingFrom 0 bytes

/-- The message of a refused reading names the byte, or the range of bytes. -/
def Undecodable.message (e : Undecodable) : String :=
  let place :=
    if e.width = 1 then
      "byte 0x" ++ String.ofList [Nat.digitChar (e.first / 16), Nat.digitChar (e.first % 16)]
        ++ " in position " ++ toString e.position
    else "bytes in position " ++ toString e.position ++ "-" ++ toString (e.position + e.width - 1)
  "'utf-8' codec can't decode " ++ place ++ ": " ++ e.flaw.message

end SinkKeeper.Text.Utf8
