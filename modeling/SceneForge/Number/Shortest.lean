import SceneForge.Number.Binary

set_option autoImplicit false

/-!
# Shortest decimal text

A floating-point number is written with the fewest digits that read back as the same number, and of
those with the digits nearest to it.

## Main definitions

* `SceneForge.Decimal` — decimal digits with the position of the point.
* `SceneForge.Binary.shortest` — the shortest digits of a magnitude.
* `SceneForge.Decimal.general` — positional text for exponents from -4 to 5, scientific otherwise.
* `SceneForge.Single.text`, `SceneForge.doubleText` — the text of a number in messages.
-/

namespace SceneForge

/-- The number `0.d₁d₂… · 10 ^ point`. -/
structure Decimal where
  /-- The digits, as one natural number without leading zero. -/
  digits : Nat
  /-- How many digits there are. -/
  count : Nat
  /-- The position of the point. -/
  point : Int

namespace Binary

/-- The interval of reals that read back as a magnitude, and the number itself, in units of
`2 ^ exponent`: lower end, number, upper end, and whether the ends belong to it. -/
structure Interval where
  /-- Lower end. -/
  low : Nat
  /-- The number. -/
  mid : Nat
  /-- Upper end. -/
  high : Nat
  /-- The unit is this power of two. -/
  exponent : Int
  /-- Whether the ends read back as the number. -/
  closed : Bool

/-- The interval of a positive magnitude. Below a power of two the lower neighbour is twice as
near. -/
def interval (f : Binary) (magnitude : Nat) : Interval :=
  let v := f.value magnitude
  let narrow := v.mantissa == Nat.pow 2 f.fraction && v.exponent > f.minExponent
  ⟨4 * v.mantissa - (if narrow then 1 else 2), 4 * v.mantissa, 4 * v.mantissa + 2,
    v.exponent - 2, v.mantissa % 2 == 0⟩

/-- `n · 2 ^ e · 10 ^ (-k)` as a ratio. -/
def ratio (n : Nat) (e k : Int) : Nat × Nat :=
  let num := n * (if e ≥ 0 then Nat.pow 2 e.toNat else 1) * (if k < 0 then Nat.pow 10 (-k).toNat else 1)
  let den := (if e < 0 then Nat.pow 2 (-e).toNat else 1) * (if k > 0 then Nat.pow 10 k.toNat else 1)
  (num, den)

/-- The least `k` with the number below `10 ^ k`, searched upwards from a low guess. -/
def pointFrom (n : Nat) (e : Int) : Nat → Int → Int
  | 0, k => k
  | fuel + 1, k =>
    let (num, den) := ratio n e k
    if num < den then k else pointFrom n e fuel (k + 1)

/-- The first grid of decimals, from one digit upwards, with a point inside the interval. -/
def search (i : Interval) (point : Int) : Nat → Nat → Decimal
  | 0, count => ⟨0, count, point⟩
  | fuel + 1, count =>
    let unit := point - count
    let (num, den) := ratio i.mid i.exponent unit
    let below := num / den
    let above := below + 1
    let inside (d : Nat) : Bool :=
      let (lowNum, lowDen) := ratio i.low i.exponent unit
      let (highNum, highDen) := ratio i.high i.exponent unit
      if i.closed then lowNum ≤ d * lowDen && d * highDen ≤ highNum
      else lowNum < d * lowDen && d * highDen < highNum
    let nearer := if 2 * (num % den) > den || (2 * (num % den) == den && below % 2 == 1)
      then above else below
    let other := if nearer == above then below else above
    if inside nearer then ⟨nearer, count, point⟩
    else if inside other then ⟨other, count, point⟩
    else search i point fuel (count + 1)

/-- A decimal without trailing zeros; a carry into a new digit moves the point. -/
def trim : Nat → Decimal → Decimal
  | 0, d => d
  | fuel + 1, d =>
    if d.count > 1 && d.digits % 10 == 0 then trim fuel ⟨d.digits / 10, d.count - 1, d.point⟩
    else d

/-- The shortest digits of a positive finite magnitude. -/
def shortest (f : Binary) (magnitude : Nat) : Decimal :=
  let i := f.interval magnitude
  let guess : Int := ((i.mid.log2 : Int) + i.exponent) * 3 / 10 - 2
  let point := pointFrom i.mid i.exponent 60 guess
  let d := search i point 20 1
  let d := if d.digits ≥ Nat.pow 10 d.count then ⟨d.digits / 10, d.count, d.point + 1⟩ else d
  trim 20 d

end Binary

namespace Decimal

/-- The digits as characters. -/
def digitChars (d : Decimal) : List Char :=
  let cs := Nat.toDigits 10 d.digits
  List.replicate (d.count - cs.length) '0' ++ cs

/-- The decimal exponent: an explicit sign and at least two digits. -/
def exponentText (e : Int) : String :=
  let n := e.natAbs
  "e" ++ (if e < 0 then "-" else "+") ++ (if n < 10 then "0" else "") ++ toString n

/-- Positional text for exponents from -4 to 5, scientific text otherwise. -/
def general (d : Decimal) : String :=
  let e := d.point - 1
  let cs := d.digitChars
  if e < -4 || e ≥ 6 then
    let frac := cs.drop 1
    String.ofList (cs.take 1) ++ (if frac.isEmpty then "" else "." ++ String.ofList frac)
      ++ exponentText e
  else if d.point ≤ 0 then
    "0." ++ String.ofList (List.replicate (-d.point).toNat '0') ++ String.ofList cs
  else
    let k := d.point.toNat
    let whole := cs.take k ++ List.replicate (k - cs.length) '0'
    let frac := cs.drop k
    String.ofList whole ++ (if frac.isEmpty then "" else "." ++ String.ofList frac)

end Decimal

/-- How the numbers that are not finite are written. -/
structure SpecialTexts where
  /-- Not a number. -/
  nan : String
  /-- Positive infinity. -/
  positive : String
  /-- Negative infinity. -/
  negative : String

/-- The special texts of messages. -/
def SpecialTexts.message : SpecialTexts := ⟨"NaN", "+Inf", "-Inf"⟩

/-- The text of a word of a format, given its sign and magnitude. -/
def Binary.text (f : Binary) (special : SpecialTexts) (negative : Bool) (magnitude : Nat) :
    String :=
  if magnitude > f.infinity then special.nan
  else if magnitude == f.infinity then (if negative then special.negative else special.positive)
  else
    (if negative then "-" else "") ++
      (if magnitude == 0 then "0" else (f.shortest magnitude).general)

/-- The text of a word with given special texts. -/
def Single.textWith (special : SpecialTexts) (a : Single) : String :=
  Binary.single.text special a.isNegative a.magnitude

/-- The text of a word in messages. -/
def Single.text (a : Single) : String := a.textWith .message

/-- The text of a double-precision number with given special texts. -/
def doubleText (special : SpecialTexts) (x : Float) : String :=
  let n := x.toBits.toNat
  Binary.double.text special (n ≥ 0x8000000000000000) (n % 0x8000000000000000)

end SceneForge
