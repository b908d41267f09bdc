import SceneForge.Text.Utf8

set_option autoImplicit false

/-!
# Pictures

A picture is a rectangle of colors, rows from the top. Colors carry their coverage separately, eight
or sixteen bits a channel.

## Main definitions

* `SceneForge.Pixel` — eight bits a channel.
* `SceneForge.Color` — eight or sixteen bits a channel.
* `SceneForge.Color.straight`, `SceneForge.Color.premultiplied` — a color in eight bits a channel.
* `SceneForge.Picture` — width, height and colors.
-/

namespace SceneForge

/-- Four channels of eight bits. -/
structure Pixel where
  /-- Red. -/
  r : UInt8
  /-- Green. -/
  g : UInt8
  /-- Blue. -/
  b : UInt8
  /-- Coverage. -/
  a : UInt8
deriving DecidableEq, Inhabited

/-- The channels in order. -/
def Pixel.toList (p : Pixel) : List UInt8 := [p.r, p.g, p.b, p.a]

/-- A color whose channels are not multiplied with its coverage. -/
inductive Color where
  /-- Eight bits a channel. -/
  | narrow (p : Pixel)
  /-- Sixteen bits a channel. -/
  | wide (r g b a : UInt16)
deriving DecidableEq, Inhabited

namespace Color

/-- A channel of sixteen bits multiplied with the coverage. -/
def weigh (x a : Nat) : Nat := x * a / 0xffff

/-- The upper eight bits of a channel. -/
def upper (n : Nat) : UInt8 := (n / 256).toUInt8

/-- The color in eight bits, channels multiplied with the coverage. -/
def premultiplied : Color → Pixel
  | narrow p =>
    let a := p.a.toNat * 257
    let on (x : UInt8) : UInt8 := upper (weigh (x.toNat * 257) a)
    ⟨on p.r, on p.g, on p.b, p.a⟩
  | wide r g b a =>
    let on (x : UInt16) : UInt8 := upper (weigh x.toNat a.toNat)
    ⟨on r, on g, on b, upper a.toNat⟩

/-- The color in eight bits, channels as they are. -/
def straight : Color → Pixel
  | narrow p => p
  | wide r g b a =>
    let on (x : UInt16) : UInt8 := upper (weigh x.toNat a.toNat * 0xffff / a.toNat)
    if a == 0 then ⟨0, 0, 0, 0⟩ else ⟨on r, on g, on b, upper a.toNat⟩

/-- A covering color. -/
def opaqueRgb (r g b : UInt8) : Color := narrow ⟨r, g, b, 255⟩

/-- A covering grey. -/
def grey (y : UInt8) : Color := opaqueRgb y y y

end Color

/-- A multiplied color with the coverage divided out again. -/
def Pixel.divided (p : Pixel) : Pixel :=
  if p.a == 0 then ⟨0, 0, 0, 0⟩
  else if p.a == 255 then p
  else
    let off (x : UInt8) : UInt8 := Color.upper (x.toNat * 257 * 0xffff / (p.a.toNat * 257))
    ⟨off p.r, off p.g, off p.b, p.a⟩

/-- A rectangle of colors. -/
structure Picture where
  /-- Colors in a row. -/
  width : Nat
  /-- Rows. -/
  height : Nat
  /-- The colors, row after row from the top. -/
  colors : List Color
deriving DecidableEq, Inhabited

/-- Lists of a given length cut from a list, as many as asked for. -/
def chunks {α : Type} (size : Nat) : Nat → List α → List (List α)
  | 0, _ => []
  | n + 1, xs => xs.take size :: chunks size n (xs.drop size)

end SceneForge
