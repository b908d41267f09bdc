import SceneForge.Failure
import SceneForge.Text.Case
import SceneForge.Text.Quoted

set_option autoImplicit false

/-!
# Target platforms

A platform is the code byte of a mesh file. Three codes are known; a platform decides the byte order
of everything after the code.

## Main definitions

* `SceneForge.Platform` — a code, with `isKnown`, `name` and `order`.
* `SceneForge.ByteOrder` — little or big endian, with the bytes of 16- and 32-bit words.
-/

namespace SceneForge

/-- The order of the bytes of a word. -/
inductive ByteOrder where
  /-- Least significant byte first. -/
  | little
  /-- Most significant byte first. -/
  | big
deriving DecidableEq, Inhabited

namespace ByteOrder

/-- The bytes of a 16-bit word. -/
def put16 (o : ByteOrder) (w : UInt16) : Bytes :=
  let low := w.toUInt8
  let high := (w >>> 8).toUInt8
  match o with
  | little => [low, high]
  | big => [high, low]

/-- The bytes of a 32-bit word. -/
def put32 (o : ByteOrder) (w : UInt32) : Bytes :=
  let b0 := w.toUInt8
  let b1 := (w >>> 8).toUInt8
  let b2 := (w >>> 16).toUInt8
  let b3 := (w >>> 24).toUInt8
  match o with
  | little => [b0, b1, b2, b3]
  | big => [b3, b2, b1, b0]

/-- The 16-bit word with the given low and high byte. -/
def word16 (low high : UInt8) : UInt16 := low.toUInt16 ||| high.toUInt16 <<< 8

/-- The 32-bit word with the given bytes, least significant first. -/
def word32 (b0 b1 b2 b3 : UInt8) : UInt32 :=
  b0.toUInt32 ||| b1.toUInt32 <<< 8 ||| b2.toUInt32 <<< 16 ||| b3.toUInt32 <<< 24

/-- A 16-bit word and the bytes after it. -/
def get16 (o : ByteOrder) : Bytes → Option (UInt16 × Bytes)
  | a :: b :: rest =>
    some (match o with
      | little => word16 a b
      | big => word16 b a, rest)
  | _ => none

/-- A 32-bit word and the bytes after it. -/
def get32 (o : ByteOrder) : Bytes → Option (UInt32 × Bytes)
  | a :: b :: c :: d :: rest =>
    some (match o with
      | little => word32 a b c d
      | big => word32 d c b a, rest)
  | _ => none

end ByteOrder

/-- A target platform by its code. -/
structure Platform where
  /-- The code byte. -/
  code : UInt8
deriving DecidableEq, Inhabited

namespace Platform

/-- The names of the known platforms, by code. -/
def names : List String := ["pc", "ps3", "xbox360"]

/-- The first platform. -/
def pc : Platform := ⟨0⟩

/-- Whether a code is known. -/
def isKnown (p : Platform) : Bool := p.code.toNat < names.length

/-- The name of a platform. -/
def name (p : Platform) : String := names.getD p.code.toNat "unknown"

/-- The byte order: the two consoles are big endian. -/
def order (p : Platform) : ByteOrder := if p.code = 1 ∨ p.code = 2 then .big else .little

/-- The platform with the given name, in any case. -/
def ofName (s : String) : Except Failure Platform :=
  match names.findIdx? (Text.equalFold s) with
  | some i => .ok ⟨i.toUInt8⟩
  | none => .error ⟨.meshPlatform, [Text.quote s]⟩

end Platform

end SceneForge
