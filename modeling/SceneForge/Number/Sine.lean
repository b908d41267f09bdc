set_option autoImplicit false

/-!
# The sine of a double

The sine is computed in plain arithmetic, one rounding per operation: the argument is reduced to
within an eighth of the circle of an axis crossing, where a polynomial gives the sine or the cosine.
Every platform gets the same last bit this way, which resampled pictures depend on.

## Main definitions

* `SceneForge.polynomial` — a polynomial by its coefficients.
* `SceneForge.sine` — the sine of a moderate argument.
-/

namespace SceneForge

/-- The value of a polynomial, highest coefficient first. -/
def polynomial (coefficients : List Float) (x : Float) : Float :=
  match coefficients with
  | [] => 0
  | c :: rest => rest.foldl (fun sum c => sum * x + c) c

/-- The sine near zero. -/
def sineNear (z : Float) : Float :=
  let zz := z * z
  z + z * zz * polynomial [1.58962301576546568060e-10, -2.50507477628578072866e-8,
    2.75573136213857245213e-6, -1.98412698295895385996e-4, 8.33333333332211858878e-3,
    -1.66666666666666307295e-1] zz

/-- The cosine near zero. -/
def cosineNear (z : Float) : Float :=
  let zz := z * z
  1.0 - 0.5 * zz + zz * zz * polynomial [-1.13585365213876817300e-11, 2.08757008419747316778e-9,
    -2.75573141792967388112e-7, 2.48015872888517045348e-5, -1.38888888888730564116e-3,
    4.16666666666665929218e-2] zz

/-- The sine of an argument that is not negative and small enough for its eighths of the circle to
be counted exactly. -/
def sine (x : Float) : Float :=
  let count := (x * 1.27323954473516268615).toUInt64.toNat
  let count := count + count % 2
  let y := Float.ofNat count
  let z := ((x - y * 7.85398125648498535156e-1) - y * 3.77489470793079817668e-8) -
    y * 2.69515142907905952645e-15
  let octant := count % 8
  let value := if octant % 4 == 1 || octant % 4 == 2 then cosineNear z else sineNear z
  if octant > 3 then -value else value

end SceneForge
