import SinkKeeper.Runtime
import SinkKeeper.Text.Utf8

/-!
# Encodings of JSON texts

A JSON text may come in units of one, two or four bytes. Which it is shows in its first bytes: a mark of the
byte order, or the zeros beside an ASCII character. Halves of pairs that stand alone are let through.
-/

namespace SinkKeeper.Text

variable [Runtime]

/-- The order of the bytes of a unit. -/
inductive ByteOrder
  | big
  | little
deriving DecidableEq, Repr

/-- How characters are written as bytes. -/
inductive Encoding
  | bytes
  | pairs (order : ByteOrder)
  | quads (order : ByteOrder)
deriving DecidableEq, Repr

namespace Encoding

/-- The encoding that a mark at the front tells, and how many bytes the mark takes. -/
def ofMark? : List UInt8 → Option (Encoding × Nat)
  | 0x00 :: 0x00 :: 0xFE :: 0xFF :: _ => some (.quads .big, 4)
  | 0xFF :: 0xFE :: 0x00 :: 0x00 :: _ => some (.quads .little, 4)
  | 0xFE :: 0xFF :: _ => some (.pairs .big, 2)
  | 0xFF :: 0xFE :: _ => some (.pairs .little, 2)
  | 0xEF :: 0xBB :: 0xBF :: _ => some (.bytes, 3)
  | _ => none

def ofZeros : List UInt8 → Encoding
  | a :: b :: c :: d :: _ =>
    if a = 0 then (if b = 0 then .quads .big else .pairs .big)
    else if b = 0 then (if c = 0 ∧ d = 0 then .quads .little else .pairs .little)
    else .bytes
  | [a, b] => if a = 0 then .pairs .big else if b = 0 then .pairs .little else .bytes
  | _ => .bytes

end Encoding

def pairValue (order : ByteOrder) (a b : UInt8) : Nat :=
  match order with
  | .big => a.toNat * 256 + b.toNat
  | .little => b.toNat * 256 + a.toNat

/-- The units of some bytes, two bytes each, if their number is even. -/
def unitsOf? (order : ByteOrder) : List UInt8 → Option (List Nat)
  | [] => some []
  | [_] => none
  | a :: b :: rest => (unitsOf? order rest).map (pairValue order a b :: ·)

/-- Puts two units together where they make up one character. -/
def charsOfUnits : List Nat → List Char
  | [] => []
  | [n] => [unitChar n]
  | n :: m :: rest =>
    if isHighHalf n && isLowHalf m then
      Char.ofNat (0x10000 + (n - 0xD800) * 0x400 + (m - 0xDC00)) :: charsOfUnits rest
    else unitChar n :: charsOfUnits (m :: rest)

/-- The characters of some bytes, four bytes each. -/
def charsOfQuads? (order : ByteOrder) : List UInt8 → Option (List Char)
  | [] => some []
  | a :: b :: c :: d :: rest =>
    let n := match order with
      | .big => pairValue order a b * 65536 + pairValue order c d
      | .little => pairValue order c d * 65536 + pairValue order a b
    if n < 0x110000 then (charsOfQuads? order rest).map (unitChar n :: ·) else none
  | _ => none

/-- The half that three bytes spell in the manner of a character, if they do. -/
def halfOfBytes? : List UInt8 → Option Nat
  | a :: b :: c :: _ =>
    if a = 0xED ∧ 0xA0 ≤ b ∧ b ≤ 0xBF ∧ 0x80 ≤ c ∧ c ≤ 0xBF then
      some (0xD000 + b.toNat % 0x40 * 0x40 + c.toNat % 0x40)
    else none
  | _ => none

/-- Reads the bytes after the first `skip`, which belong to the character or the half before them. -/
def charsOfBytes? : (skip : Nat) → List UInt8 → Option (List Char)
  | _, [] => some []
  | skip + 1, _ :: rest => charsOfBytes? skip rest
  | 0, b :: rest =>
    match Utf8.front b rest with
    | .char c width => (charsOfBytes? (width - 1) rest).map (c :: ·)
    | .flawed .. => (halfOfBytes? (b :: rest)).bind fun n => (charsOfBytes? 2 rest).map (unitChar n :: ·)

def Encoding.decode? (bytes : List UInt8) : Encoding → Option (List Char)
  | .bytes => charsOfBytes? 0 bytes
  | .pairs order => (unitsOf? order bytes).map charsOfUnits
  | .quads order => charsOfQuads? order bytes

def decodeTold? (bytes : List UInt8) : Option (List Char) :=
  match Encoding.ofMark? bytes with
  | some (encoding, width) => encoding.decode? (bytes.drop width)
  | none => (Encoding.ofZeros bytes).decode? bytes

end SinkKeeper.Text
