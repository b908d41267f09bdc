set_option autoImplicit false

/-!
# Single-precision words

A `Single` is the 32-bit word of an IEEE 754 binary32 number. Working on words rather than on
`Float32` keeps the sign and payload of a NaN, so that it can be said which of them a mesh file
carries and which it settles, and makes equality of two numbers equality of their words.

## Main definitions

* `SceneForge.Single` — a binary32 word, with one correctly rounded arithmetic step per operation.
* `SceneForge.Single.key` — the signed magnitude of a word; on words that are not NaN the numeric
  order is the order of the keys.
* `SceneForge.Single.settled` — what is left of a word that went through double precision.
* `SceneForge.Single.lt`, `SceneForge.Single.same` — the numeric comparisons, false on NaN.
* `SceneForge.Comparable`, `SceneForge.Analytic` — what the geometry needs of a scalar besides its
  ring operations.
-/

namespace SceneForge

/-- The numeric comparisons of a scalar. They are operations rather than relations because on
words a NaN is not the same as itself. -/
class Comparable (α : Type) where
  /-- Numeric equality. -/
  same : α → α → Bool
  /-- Numeric strict order. -/
  less : α → α → Bool

/-- The functions of analysis that rotations and lengths need. -/
class Analytic (α : Type) where
  /-- The square root. -/
  sqrt : α → α
  /-- The sine of an angle in radians. -/
  sin : α → α
  /-- The cosine of an angle in radians. -/
  cos : α → α

/-- A binary32 word. -/
structure Single where
  /-- The 32 bits: sign, eight exponent bits, 23 fraction bits. -/
  bits : UInt32
deriving DecidableEq, Inhabited

namespace Single

/-! ## Classes of words -/

/-- The word without its sign bit. -/
def magnitude (a : Single) : Nat := (a.bits &&& 0x7fffffff).toNat

/-- Whether the sign bit is set. -/
def isNegative (a : Single) : Bool := a.bits &&& 0x80000000 != 0

/-- Exponent all ones and a fraction that is not zero. -/
def isNaN (a : Single) : Bool := a.magnitude > 0x7f800000

/-- Neither infinite nor NaN. -/
def isFinite (a : Single) : Bool := a.magnitude < 0x7f800000

/-- The quiet NaN that an invalid operation produces. -/
def invalid : Single := ⟨0xffc00000⟩

/-- The same word with the quiet bit set. -/
def quiet (a : Single) : Single := ⟨a.bits ||| 0x00400000⟩

/-- A NaN whose quiet bit is clear. -/
def isSignaling (a : Single) : Bool := a.isNaN && !a.bits.toNat.testBit 22

/-- What is left of a word that was widened to double precision and narrowed again: a NaN becomes
quiet, and every other word is kept. -/
def settled (a : Single) : Single := if a.isNaN then a.quiet else a

/-- Positive infinity. -/
def infinity : Single := ⟨0x7f800000⟩

/-! ## Comparison -/

/-- The signed magnitude. Both zeros have key `0`. -/
def key (a : Single) : Int := if a.isNegative then -(a.magnitude : Int) else a.magnitude

/-- Numeric strict order: false when a NaN takes part, the order of keys otherwise. -/
def lt (a b : Single) : Bool := !a.isNaN && !b.isNaN && decide (a.key < b.key)

/-- Numeric equality: false when a NaN takes part, equality of keys otherwise. -/
def same (a b : Single) : Bool := !a.isNaN && !b.isNaN && decide (a.key = b.key)

instance : Comparable Single := ⟨same, lt⟩

/-! ## Arithmetic -/

/-- The number a word stands for; every NaN is the same one here. -/
def toFloat32 (a : Single) : Float32 := Float32.ofBits a.bits

/-- The number a word stands for, in double precision. -/
def toFloat (a : Single) : Float := a.toFloat32.toFloat

/-- The word of a computed result. -/
def ofResult (r : Float32) : Single := if r.isNaN then invalid else ⟨r.toBits⟩

/-- The nearest word of a double-precision result. -/
def ofFloat (r : Float) : Single := ofResult r.toFloat32

/-- One arithmetic step with two operands: a NaN operand is passed on, the left one first. -/
def step (op : Float32 → Float32 → Float32) (a b : Single) : Single :=
  if a.isNaN then a.quiet else if b.isNaN then b.quiet
  else ofResult (op a.toFloat32 b.toFloat32)

instance : Add Single := ⟨step (· + ·)⟩
instance : Sub Single := ⟨step (· - ·)⟩
instance : Mul Single := ⟨step (· * ·)⟩
instance : Div Single := ⟨step (· / ·)⟩

/-- The opposite of a number flips the sign bit, of a NaN too. -/
instance : Neg Single := ⟨fun a => ⟨a.bits ^^^ 0x80000000⟩⟩

/-- A function evaluated in double precision and rounded once. -/
def through (f : Float → Float) (a : Single) : Single :=
  if a.isNaN then a.quiet else ofFloat (f a.toFloat)

instance : Analytic Single := ⟨through Float.sqrt, through Float.sin, through Float.cos⟩

/-- The nearest word of a natural number. -/
def ofNat (n : Nat) : Single := ofResult (Float32.ofNat n)

instance (n : Nat) : OfNat Single n := ⟨ofNat n⟩

/-- The nearest word of a decimal literal. -/
instance : OfScientific Single :=
  ⟨fun m s e => ofResult (Float32.ofScientific m s e)⟩

end Single

end SceneForge
