import SceneForge.Failure
import SceneForge.Picture.Basic

set_option autoImplicit false

/-!
# TGA pictures

Grey pictures of 8 bits and color pictures of 24 or 32 bits, raw or run-length packed, rows from the
top or from the bottom.

## Main definitions

* `SceneForge.Targa.Header`, `SceneForge.Targa.Header.parse` — the first 18 bytes.
* `SceneForge.Targa.raw`, `SceneForge.Targa.packed` — the colors in file order.
* `SceneForge.Targa.decode` — the picture.
-/

namespace SceneForge.Targa

/-- How the bytes of a color are laid out. -/
inductive Depth where
  /-- One byte of grey. -/
  | grey
  /-- Blue, green, red. -/
  | bgr
  /-- Blue, green, red, coverage. -/
  | bgra
deriving DecidableEq, Inhabited

/-- The bytes of one color. -/
def Depth.size : Depth → Nat
  | grey => 1
  | bgr => 3
  | bgra => 4

/-- What the header says. -/
structure Header where
  /-- Bytes between the header and the colors. -/
  idLength : Nat
  /-- Colors in a row. -/
  width : Nat
  /-- Rows. -/
  height : Nat
  /-- The layout of a color. -/
  depth : Depth
  /-- Whether the colors are run-length packed. -/
  packed : Bool
  /-- Whether the first row is the top one. -/
  topDown : Bool
deriving DecidableEq, Inhabited

/-- A failure of reading a TGA picture. -/
def corrupt (reason : String) : Failure := ⟨.targa, [reason]⟩

/-- The layout for a type of picture and a number of bits. -/
def depthOf (type bits : UInt8) : Except Failure Depth :=
  if type == 2 || type == 10 then
    if bits == 24 then .ok .bgr
    else if bits == 32 then .ok .bgra
    else .error (corrupt ("true-color depth " ++ toString bits.toNat))
  else if type == 3 || type == 11 then
    if bits == 8 then .ok .grey else .error (corrupt ("grayscale depth " ++ toString bits.toNat))
  else .error (corrupt ("image type " ++ toString type.toNat))

/-- A number of two bytes, the lower first. -/
def word (low high : UInt8) : Nat := low.toNat + 256 * high.toNat

/-- The header, and the bytes after it. -/
def Header.parse (data : Bytes) : Except Failure (Header × Bytes) :=
  match data with
  | idLength :: mapType :: type :: _ :: _ :: _ :: _ :: _ :: _ :: _ :: _ :: _ :: w0 :: w1 :: h0 ::
      h1 :: bits :: descriptor :: rest => do
    if mapType != 0 then throw (corrupt "color-mapped images are not supported")
    let depth ← depthOf type bits
    let width := word w0 w1
    let height := word h0 h1
    if width == 0 || height == 0 then throw (corrupt "empty image")
    return ({ idLength := idLength.toNat, width, height, depth
              packed := type == 10 || type == 11, topDown := descriptor &&& 0x20 != 0 }, rest)
  | _ => .error (corrupt "header too short")

/-- The first color of some bytes, and the bytes after it. -/
def color? : Depth → Bytes → Option (Color × Bytes)
  | .grey, y :: rest => some (.grey y, rest)
  | .bgr, b :: g :: r :: rest => some (.opaqueRgb r g b, rest)
  | .bgra, b :: g :: r :: a :: rest => some (.narrow ⟨r, g, b, a⟩, rest)
  | _, _ => none

/-- A number of colors, one after the other, and the bytes after them. -/
def raw (d : Depth) : Nat → Bytes → Except Failure (List Color × Bytes)
  | 0, bytes => .ok ([], bytes)
  | n + 1, bytes =>
    match color? d bytes with
    | none => .error (corrupt "truncated pixel data")
    | some (c, rest) => do
      let (cs, rest) ← raw d n rest
      return (c :: cs, rest)

/-- One packet: a repeated color or a stretch of colors, no more than are still needed. -/
def packet (d : Depth) (needed : Nat) (head : UInt8) (bytes : Bytes) :
    Except Failure (List Color × Bytes) :=
  let count := min ((head &&& 0x7f).toNat + 1) needed
  if head &&& 0x80 != 0 then do
    let (cs, rest) ← raw d 1 bytes
    return (cs.flatMap (List.replicate count), rest)
  else raw d count bytes

/-- A number of colors in packets. Every packet takes at least one byte, so the length of the bytes
bounds the packets. -/
def packed (d : Depth) : Nat → Nat → Bytes → Except Failure (List Color)
  | _, 0, _ => .ok []
  | 0, _ + 1, _ => .error (corrupt "truncated RLE stream")
  | _ + 1, _ + 1, [] => .error (corrupt "truncated RLE stream")
  | fuel + 1, needed + 1, head :: bytes => do
    let (cs, rest) ← packet d (needed + 1) head bytes
    return cs ++ (← packed d fuel (needed + 1 - cs.length) rest)

/-- The colors in file order. -/
def colors (h : Header) (bytes : Bytes) : Except Failure (List Color) :=
  let count := h.width * h.height
  if h.packed then packed h.depth (bytes.length + 1) count bytes
  else if bytes.length < count * h.depth.size then .error (corrupt "truncated pixel data")
  else (raw h.depth count bytes).map (·.1)

/-- The picture of a TGA file. -/
def decode (data : Bytes) : Except Failure Picture := do
  let (h, rest) ← Header.parse data
  if h.idLength > rest.length then throw (corrupt "truncated id field")
  let cs ← colors h (rest.drop h.idLength)
  let rows := chunks h.width h.height cs
  return ⟨h.width, h.height, (if h.topDown then rows else rows.reverse).flatten⟩

end SceneForge.Targa
