import SceneForge.Number.Single

set_option autoImplicit false

/-!
# Binary floating point by exact arithmetic

The step from a ratio of natural numbers to the nearest word of a binary format, and from a word
back to the number it stands for. Everything is done in natural numbers, so that reading and writing
decimal text rests on no rounding but the one that is meant.

## Main definitions

* `SceneForge.Binary` — a binary format by the widths of its fields.
* `SceneForge.Binary.ofRatio` — the nearest word of a ratio, a tie going to the even word.
* `SceneForge.Binary.Value` — a positive number `mantissa · 2 ^ exponent`.
* `SceneForge.Binary.value` — the number that a magnitude stands for.
* `SceneForge.Single.ofDecimal`, `SceneForge.Single.ofDouble` — the word nearest to a decimal or
  double-precision number.
-/

namespace SceneForge

/-- A binary floating-point format. -/
structure Binary where
  /-- Width of the stored fraction. -/
  fraction : Nat
  /-- Width of the exponent field. -/
  exponent : Nat

namespace Binary

/-- The format of 32-bit words. -/
def single : Binary := ⟨23, 8⟩

/-- The format of 64-bit words. -/
def double : Binary := ⟨52, 11⟩

/-- The exponent of the last place of the smallest numbers. -/
def minExponent (f : Binary) : Int := 2 - (Nat.pow 2 (f.exponent - 1) : Nat) - f.fraction

/-- The magnitude of infinity. -/
def infinity (f : Binary) : Nat := (Nat.pow 2 f.exponent - 1) * Nat.pow 2 f.fraction

/-- The quotient rounded to the nearest integer, a tie going to the even one. -/
def roundDiv (n d : Nat) : Nat :=
  let t := n / d
  let r := n % d
  if 2 * r > d || (2 * r == d && t % 2 == 1) then t + 1 else t

/-- The integer quotient of a ratio by a power of two, as numerator and denominator. -/
def scaled (num den : Nat) (q : Int) : Nat × Nat :=
  match q with
  | .ofNat k => (num, den * Nat.pow 2 k)
  | .negSucc k => (num * Nat.pow 2 (k + 1), den)

/-- The magnitude nearest to the ratio `num / den`; at most that of infinity. -/
def ofRatio (f : Binary) (num den : Nat) : Nat :=
  if num == 0 then 0
  else
    let guess : Int := (num.log2 : Int) - (den.log2 : Int) - 1 - f.fraction
    let q := max guess f.minExponent
    let (n, d) := scaled num den q
    let q := if n / d ≥ Nat.pow 2 (f.fraction + 1) then q + 1 else q
    let (n, d) := scaled num den q
    min ((q - f.minExponent).toNat * Nat.pow 2 f.fraction + roundDiv n d) f.infinity

/-- The magnitude nearest to `digits · 10 ^ e`. Exponents far outside the format are cut off before
any power is computed. -/
def ofDecimal (f : Binary) (digits : Nat) (e : Int) : Nat :=
  if digits == 0 then 0
  else
    let size : Int := (digits.log2 : Int) * 3 / 10 + e
    if size > 5000 then f.infinity
    else if size < -5000 then 0
    else
      match e with
      | .ofNat k => f.ofRatio (digits * Nat.pow 10 k) 1
      | .negSucc k => f.ofRatio digits (Nat.pow 10 (k + 1))

/-- A positive number `mantissa · 2 ^ exponent`. -/
structure Value where
  /-- The integer part of the product. -/
  mantissa : Nat
  /-- The exponent of its last place. -/
  exponent : Int

/-- The number of a finite magnitude. -/
def value (f : Binary) (magnitude : Nat) : Value :=
  let e := magnitude / Nat.pow 2 f.fraction
  let m := magnitude % Nat.pow 2 f.fraction
  if e == 0 then ⟨m, f.minExponent⟩ else ⟨m + Nat.pow 2 f.fraction, f.minExponent + (e - 1 : Nat)⟩

end Binary

/-- The word nearest to `± digits · 10 ^ e`. -/
def Single.ofDecimal (negative : Bool) (digits : Nat) (e : Int) : Single :=
  ⟨(Binary.single.ofDecimal digits e + (if negative then 0x80000000 else 0)).toUInt32⟩

/-- The word nearest to a double-precision number; every NaN gives the one of an invalid operation.
-/
def Single.ofDouble (x : Float) : Single :=
  let bits := x.toBits.toNat
  let magnitude := bits % 0x8000000000000000
  if Binary.double.infinity < magnitude then Single.invalid
  else
    let word :=
      if magnitude == Binary.double.infinity then Binary.single.infinity
      else
        let v := Binary.double.value magnitude
        let (n, d) := Binary.scaled v.mantissa 1 (-v.exponent)
        Binary.single.ofRatio n d
    ⟨(word + (if bits < 0x8000000000000000 then 0 else 0x80000000)).toUInt32⟩

/-- The double-precision number nearest to `± digits · 10 ^ e`. -/
def doubleOfDecimal (negative : Bool) (digits : Nat) (e : Int) : Float :=
  Float.ofBits (Binary.double.ofDecimal digits e + (if negative then 0x8000000000000000 else 0)).toUInt64

end SceneForge
