import SceneForge.Number.Sine
import SceneForge.Picture.Basic

set_option autoImplicit false

/-!
# Resizing pictures

A picture is made smaller by weighting the colors around each new place with a windowed wave, first
along the rows and then along the columns.

## Main definitions

* `SceneForge.Picture.fitted` — the size of a picture that is not to exceed a limit.
* `SceneForge.lanczos` — the weight of a color at some distance.
* `SceneForge.Picture.resize` — the resized picture, channels multiplied with the coverage.
-/

namespace SceneForge

/-- The circle constant. -/
def pi : Float := 3.14159265358979323846264338327950288419716939937510582097494459

/-- The square of the circle constant, rounded once. -/
def piSquared : Float := 9.86960440108935861883449099987615113531369940724079

/-- The weight of a color at some distance; nothing counts from three on. -/
def lanczos (x : Float) : Float :=
  let x := x.abs
  if x == 0 then 1
  else if x < 3 then (3 * sine (pi * x) * sine (pi * (x / 3))) / (piSquared * x * x)
  else 0

/-- A number cut off to an integer. -/
def truncated (x : Float) : Int := x.toInt64.toInt

/-- A sum of weighted colors. -/
structure Weighted where
  /-- Red. -/
  r : Float := 0
  /-- Green. -/
  g : Float := 0
  /-- Blue. -/
  b : Float := 0
  /-- Coverage. -/
  a : Float := 0
  /-- The weights. -/
  sum : Float := 0

/-- One more weighted color. -/
def Weighted.add (w : Weighted) (p : Pixel) (f : Float) : Weighted where
  r := w.r + Float.ofNat p.r.toNat * f
  g := w.g + Float.ofNat p.g.toNat * f
  b := w.b + Float.ofNat p.b.toNat * f
  a := w.a + Float.ofNat p.a.toNat * f
  sum := w.sum + f

/-- A channel of the mean color, rounded and kept in range. -/
def Weighted.channel (w : Weighted) (x : Float) : UInt8 :=
  let v := x / w.sum + 0.5
  let v := if v > 255 then 255 else v
  (if v < 0 then 0 else v).toUInt8

/-- The mean color. -/
def Weighted.mean (w : Weighted) : Pixel :=
  ⟨w.channel w.r, w.channel w.g, w.channel w.b, w.channel w.a⟩

/-- A line of colors resampled to another length. -/
def resample (line : Array Pixel) (length : Nat) : List Pixel :=
  let delta := Float.ofNat line.size / Float.ofNat length
  let scale := if delta > 1 then delta else 1
  let radius := (scale * 3).ceil
  (List.range length).map fun x =>
    let center := (Float.ofNat x + 0.5) * delta - 0.5
    let first := (max (truncated (center - radius + 0.5)) 0).toNat
    let last := (min (truncated (center + radius)) (line.size - 1)).toNat
    ((List.range (last + 1 - first)).foldl (fun (w : Weighted) i =>
      let k := first + i
      w.add (line.getD k default) (lanczos ((Float.ofNat k - center) / scale))) {}).mean

/-- Columns of rows of a given length. -/
def columns (width : Nat) (rows : List (Array Pixel)) : List (Array Pixel) :=
  (List.range width).map fun i => (rows.map fun row => row.getD i default).toArray

namespace Picture

/-- The size of a picture whose longer side is not to exceed a limit; no limit below one counts. -/
def fitted (limit : Int) (width height : Nat) : Option (Nat × Nat) :=
  let longest := max width height
  if limit ≤ 0 || (longest : Int) ≤ limit then none
  else
    let scale := Float.ofInt limit / Float.ofNat longest
    let side (n : Nat) : Nat := max 1 (Float.ofNat n * scale + 0.5).toUInt64.toNat
    some (side width, side height)

/-- The picture resized, channels multiplied with the coverage. -/
def resize (p : Picture) (width height : Nat) : List Pixel :=
  let rows := chunks p.width p.height (p.colors.map Color.premultiplied)
  let wide := rows.map fun row => (resample row.toArray width).toArray
  let tall := (columns width wide).map fun column => (resample column height).toArray
  (List.range height).flatMap fun y => tall.map fun column => column.getD y default

end Picture

end SceneForge
