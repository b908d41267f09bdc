import SceneForge.Picture.Basic

set_option autoImplicit false

/-!
# BMP pictures

Uncompressed pictures with a palette of 8 bits, or with 24 or 32 bits a color.

## Main definitions

* `SceneForge.Bitmap.decode?` — the picture of a file.
-/

namespace SceneForge.Bitmap

/-- A number of two bytes, the lower first. -/
def word16 (data : Array UInt8) (i : Nat) : Option Nat := do
  return (← data[i]?).toNat + 256 * (← data[i + 1]?).toNat

/-- A number of four bytes, the lowest first. -/
def word32 (data : Array UInt8) (i : Nat) : Option Nat := do
  return (← word16 data i) + 65536 * (← word16 data (i + 2))

/-- Whether a file can be a BMP picture. -/
def matchesMagic (data : Bytes) : Bool :=
  data.take 2 == [0x42, 0x4d] && (data.drop 6).take 4 == [0, 0, 0, 0]

/-- A number of four bytes with sign. -/
def signed (n : Nat) : Int := (n.toUInt32).toInt32.toInt

/-- The colors of a row of 24 bits a color. -/
def triples : Bytes → List Color
  | b :: g :: r :: rest => .opaqueRgb r g b :: triples rest
  | _ => []

/-- The colors of a row of 32 bits a color; the last byte counts only if it is declared. -/
def quads (alpha : Bool) : Bytes → List Color
  | b :: g :: r :: a :: rest => .narrow ⟨r, g, b, if alpha then a else 255⟩ :: quads alpha rest
  | _ => []

/-- The colors of a palette. -/
def palette : Bytes → List Color
  | b :: g :: r :: _ :: rest => .opaqueRgb r g b :: palette rest
  | _ => []

/-- The picture of rows of bytes, each filled up to a multiple of four. -/
def picture (width height bytesPerColor : Nat) (topDown : Bool) (colors : Bytes → List Color)
    (data : Bytes) : Option Picture :=
  let used := width * bytesPerColor
  let size := (used + 3) / 4 * 4
  if data.length < size * height then none
  else
    let rows := (chunks size height data).map fun row => colors (row.take used)
    some ⟨width, height, (if topDown then rows else rows.reverse).flatten⟩

/-- The picture of a file. -/
def decode? (data : Bytes) : Option Picture := do
  if !matchesMagic data then none
  let bytes := data.toArray
  let offset ← word32 bytes 10
  let info ← word32 bytes 14
  if info != 40 && info != 108 && info != 124 then none
  if bytes.size < 14 + info then none
  let width := signed (← word32 bytes 18)
  let rows := signed (← word32 bytes 22)
  let planes ← word16 bytes 26
  let bits ← word16 bytes 28
  let method ← word32 bytes 30
  let usual := info > 40 && word32 bytes 54 == some 0xff0000 && word32 bytes 58 == some 0xff00 &&
    word32 bytes 62 == some 0xff && word32 bytes 66 == some 0xff000000
  if width < 0 || rows == -0x80000000 || planes != 1 || !(method == 0 || (method == 3 && usual)) then
    none
  let width := width.toNat
  let height := rows.natAbs
  let topDown := rows < 0
  let rest := data.drop (14 + info)
  match bits with
  | 8 =>
    let declared ← word32 bytes 46
    let used := if declared == 0 then 256 else declared
    if used > 256 || offset != 14 + info + used * 4 || rest.length < used * 4 then none
    let colors := (palette (rest.take (used * 4))).toArray
    picture width height 1 topDown (fun row => row.map fun i => colors.getD i.toNat default)
      (rest.drop (used * 4))
  | 24 => if offset != 14 + info then none else picture width height 3 topDown triples rest
  | 32 =>
    if offset != 14 + info then none
    else picture width height 4 topDown (quads (info > 40)) rest
  | _ => none

end SceneForge.Bitmap
