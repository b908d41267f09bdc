import SceneForge.Compress.Inflate
import SceneForge.Picture.Basic

set_option autoImplicit false

/-!
# PNG pictures

All kinds of PNG pictures can be read: grey, color and palette, with any number of bits, interlaced
or not. Pictures are written with four channels of eight bits and without compression.

## Main definitions

* `SceneForge.Png.Header` — size and kind of a picture.
* `SceneForge.Png.chunks?` — the chunks of a file, their checksums verified.
* `SceneForge.Png.unfilter` — the rows of a picture from their differences.
* `SceneForge.Png.decode?`, `SceneForge.Png.encode` — a picture from a file and back.
-/

namespace SceneForge.Png

/-- The first eight bytes of a file. -/
def magic : Bytes := [0x89, 0x50, 0x4e, 0x47, 0x0d, 0x0a, 0x1a, 0x0a]

/-! ## Chunks -/

/-- A part of a file. -/
structure Chunk where
  /-- What it holds. -/
  kind : Bytes
  /-- Its bytes. -/
  body : Bytes

/-- The chunks up to the end chunk; each has to be whole and have the right checksum. -/
def chunksFrom : Nat → Bytes → Option (List Chunk)
  | 0, _ => none
  | fuel + 1, bytes =>
    match bytes with
    | a :: b :: c :: d :: rest =>
      let n := (bigEndian32 a b c d).toNat
      let content := rest.take (4 + n)
      match rest.drop (4 + n) with
      | p :: q :: r :: s :: after =>
        let chunk : Chunk := ⟨content.take 4, content.drop 4⟩
        if n > 0x7fffffff || crc32 content != bigEndian32 p q r s then none
        else if chunk.kind == utf8 "IEND" then (if n == 0 then some [chunk] else none)
        else (chunksFrom fuel after).map (chunk :: ·)
      | _ => none
    | _ => none

/-- The chunks of a file. -/
def chunks? (data : Bytes) : Option (List Chunk) :=
  if data.take 8 == magic then chunksFrom data.length (data.drop 8) else none

/-! ## Kinds of pictures -/

/-- What the channels of a picture are. -/
inductive Channels where
  /-- Grey. -/
  | grey
  /-- Red, green, blue. -/
  | rgb
  /-- Places in a palette. -/
  | palette
  /-- Grey with coverage. -/
  | greyAlpha
  /-- Red, green, blue, coverage. -/
  | rgba
deriving DecidableEq, Inhabited

/-- How many channels there are. -/
def Channels.count : Channels → Nat
  | grey => 1
  | rgb => 3
  | palette => 1
  | greyAlpha => 2
  | rgba => 4

/-- Size and kind of a picture. -/
structure Header where
  /-- Colors in a row. -/
  width : Nat
  /-- Rows. -/
  height : Nat
  /-- Bits of a channel. -/
  depth : Nat
  /-- The channels. -/
  channels : Channels
  /-- Whether the picture is written in seven passes. -/
  interlaced : Bool

/-- The channels of a color type, if it goes with a number of bits. -/
def channels? (type depth : Nat) : Option Channels :=
  match type with
  | 0 => if [1, 2, 4, 8, 16].contains depth then some .grey else none
  | 2 => if [8, 16].contains depth then some .rgb else none
  | 3 => if [1, 2, 4, 8].contains depth then some .palette else none
  | 4 => if [8, 16].contains depth then some .greyAlpha else none
  | 6 => if [8, 16].contains depth then some .rgba else none
  | _ => none

/-- The header of a picture. -/
def Header.parse (body : Bytes) : Option Header :=
  match body with
  | [a, b, c, d, e, f, g, h, depth, type, 0, 0, interlace] => do
    let width := (bigEndian32 a b c d).toNat
    let height := (bigEndian32 e f g h).toNat
    let channels ← channels? type.toNat depth.toNat
    if interlace > 1 || width == 0 || height == 0 || width ≥ 0x80000000 || height ≥ 0x80000000 ||
        width * height ≥ 0x1000000000000000 then none
    return { width, height, depth := depth.toNat, channels, interlaced := interlace == 1 }
  | _ => none

/-- The bits of one color. -/
def Header.bits (h : Header) : Nat := h.channels.count * h.depth

/-- The bytes of a row of some width. -/
def Header.rowBytes (h : Header) (width : Nat) : Nat := (h.bits * width + 7) / 8

/-! ## Rows -/

/-- The neighbour that a gradient points to. -/
def paeth (a b c : UInt8) : UInt8 :=
  let p : Int := (a.toNat : Int) + b.toNat - c.toNat
  let pa := (p - a.toNat).natAbs
  let pb := (p - b.toNat).natAbs
  let pc := (p - c.toNat).natAbs
  if pa ≤ pb && pa ≤ pc then a else if pb ≤ pc then b else c

/-- The prediction of a filter from the bytes to the left, above, and above to the left. -/
def predict? (filter : UInt8) : Option (UInt8 → UInt8 → UInt8 → UInt8) :=
  match filter with
  | 0 => some fun _ _ _ => 0
  | 1 => some fun a _ _ => a
  | 2 => some fun _ b _ => b
  | 3 => some fun a b _ => ((a.toNat + b.toNat) / 2).toUInt8
  | 4 => some paeth
  | _ => none

/-- A row from its differences to the prediction; `step` bytes make one color. -/
def unfilterRow (predict : UInt8 → UInt8 → UInt8 → UInt8) (step : Nat) (above : Array UInt8)
    (row : List UInt8) : Array UInt8 :=
  row.foldl (fun out x =>
    let i := out.size
    let left (xs : Array UInt8) : UInt8 := if i < step then 0 else xs.getD (i - step) 0
    out.push (x + predict (left out) (above.getD i 0) (left above))) #[]

/-- Rows of a given size from their differences, each after a byte for its filter; and the bytes
after them. -/
def unfilter (step size : Nat) : Nat → Array UInt8 → Bytes → Option (List (Array UInt8) × Bytes)
  | 0, _, bytes => some ([], bytes)
  | n + 1, above, bytes =>
    match bytes with
    | [] => none
    | filter :: rest => do
      let predict ← predict? filter
      let diffs := rest.take size
      if diffs.length < size then none
      let row := unfilterRow predict step above diffs
      let (rows, rest) ← unfilter step size n row (rest.drop size)
      return (row :: rows, rest)

/-! ## Colors -/

/-- What turns channels into colors. -/
structure Palette where
  /-- The colors of a palette. -/
  entries : Array Pixel := #[]
  /-- The channels of the color that does not cover. -/
  transparent : Option (List Nat) := none

/-- The channels of a row, one after the other. -/
def samples (depth : Nat) (row : List UInt8) : List Nat :=
  match depth with
  | 16 => pairs row
  | 8 => row.map (·.toNat)
  | d => row.flatMap fun b =>
    (List.range (8 / d)).map fun i => b.toNat / Nat.pow 2 (8 - d * (i + 1)) % Nat.pow 2 d
where
  /-- Two bytes a channel. -/
  pairs : List UInt8 → List Nat
    | a :: b :: rest => (a.toNat * 256 + b.toNat) :: pairs rest
    | _ => []

/-- A color of eight or sixteen bits a channel. -/
def deepColor (depth r g b a : Nat) : Color :=
  if depth == 16 then .wide r.toUInt16 g.toUInt16 b.toUInt16 a.toUInt16
  else .narrow ⟨r.toUInt8, g.toUInt8, b.toUInt8, a.toUInt8⟩

/-- The color of some channels. Fewer than eight bits of grey are stretched; a place beyond the
palette is black. -/
def colorOf (h : Header) (p : Palette) (channels : List Nat) : Color :=
  let full := if h.depth == 16 then 0xffff else 0xff
  let stretch := if h.depth < 8 then 255 / (Nat.pow 2 h.depth - 1) else 1
  let cover (key : List Nat) : Nat := if p.transparent == some key then 0 else full
  match h.channels, channels with
  | .palette, [i] => .narrow (p.entries.getD i ⟨0, 0, 0, 255⟩)
  | .grey, [y] =>
    let y := y * stretch
    deepColor h.depth y y y (cover [y])
  | .rgb, [r, g, b] => deepColor h.depth r g b (cover [r, g, b])
  | .greyAlpha, [y, a] => deepColor h.depth y y y a
  | .rgba, [r, g, b, a] => deepColor h.depth r g b a
  | _, _ => .narrow ⟨0, 0, 0, 0⟩

/-- The colors of a row of some width. -/
def rowColors (h : Header) (p : Palette) (width : Nat) (row : Array UInt8) : List Color :=
  (chunks h.channels.count width (samples h.depth row.toList)).map (colorOf h p)

/-! ## Passes -/

/-- A pass of an interlaced picture: first column and row, and the steps between them. -/
structure Pass where
  /-- First column. -/
  x : Nat
  /-- First row. -/
  y : Nat
  /-- Columns between two colors. -/
  dx : Nat
  /-- Rows between two rows. -/
  dy : Nat

/-- The seven passes of an interlaced picture. -/
def passes : List Pass :=
  [⟨0, 0, 8, 8⟩, ⟨4, 0, 8, 8⟩, ⟨0, 4, 4, 8⟩, ⟨2, 0, 4, 4⟩, ⟨0, 2, 2, 4⟩, ⟨1, 0, 2, 2⟩, ⟨0, 1, 1, 2⟩]

/-- The colors of one pass with their places, and the bytes after them. -/
def passColors (h : Header) (p : Palette) (pass : Pass) (bytes : Bytes) :
    Option (List (Nat × Color) × Bytes) := do
  let width := (h.width + pass.dx - 1 - pass.x) / pass.dx
  let height := (h.height + pass.dy - 1 - pass.y) / pass.dy
  if width == 0 || height == 0 then return ([], bytes)
  let (rows, rest) ← unfilter ((h.bits + 7) / 8) (h.rowBytes width) height #[] bytes
  let placed := rows.zipIdx.flatMap fun (row, j) =>
    (rowColors h p width row).zipIdx.map fun (c, i) =>
      ((pass.y + pass.dy * j) * h.width + pass.x + pass.dx * i, c)
  return (placed, rest)

/-- The colors of all passes, one pass after the other. -/
def allPasses (h : Header) (p : Palette) : List Pass → Bytes → Option (List (Nat × Color))
  | [], bytes => if bytes.isEmpty then some [] else none
  | pass :: rest, bytes => do
    let (cs, bytes) ← passColors h p pass bytes
    return cs ++ (← allPasses h p rest bytes)

/-- The picture of some uncompressed bytes; there may be neither too few nor too many. -/
def picture (h : Header) (p : Palette) (bytes : Bytes) : Option Picture := do
  let placed ← allPasses h p (if h.interlaced then passes else [⟨0, 0, 1, 1⟩]) bytes
  let blank := Array.replicate (h.width * h.height) (Color.narrow ⟨0, 0, 0, 0⟩)
  let colors := placed.foldl (fun cs (i, c) => cs.setIfInBounds i c) blank
  return ⟨h.width, h.height, colors.toList⟩

/-! ## Files -/

/-- How far the reading of a file has come. -/
inductive Stage where
  /-- The header has been read. -/
  | header
  /-- The palette has been read. -/
  | palette
  /-- The transparency has been read. -/
  | transparency
  /-- The colors have been read. -/
  | colors
deriving DecidableEq

/-- The state of reading a file. -/
structure State where
  /-- How far it has come. -/
  stage : Stage := .header
  /-- The palette and the transparent color. -/
  palette : Palette := {}
  /-- The compressed colors. -/
  data : Bytes := []
  /-- Whether the chunk before was one of colors, so that more may follow. -/
  running : Bool := false

/-- Three bytes a color. -/
def paletteEntries : Bytes → List Pixel
  | r :: g :: b :: rest => ⟨r, g, b, 255⟩ :: paletteEntries rest
  | _ => []

/-- The coverage of the first colors of a palette; a palette that is too short is filled up with
black. -/
def coverPalette (entries : Array Pixel) (alpha : Bytes) : Array Pixel :=
  let blank := Array.replicate (alpha.length - entries.size) (⟨0, 0, 0, 255⟩ : Pixel)
  alpha.zipIdx.foldl (fun es (a, i) => es.modify i fun p => { p with a }) (entries ++ blank)

/-- The channels of the color that does not cover; with eight bits or fewer only the lower bytes
count. -/
def transparentKey (h : Header) (body : Bytes) : List Nat :=
  if h.depth == 16 then samples 16 body
  else
    let stretch := if h.depth < 8 then 255 / (Nat.pow 2 h.depth - 1) else 1
    (samples 16 body).map fun n => n % 256 * stretch % 256

/-- One chunk after the header. Chunks have to come in order; unknown ones are left aside. -/
def step (h : Header) (s : State) (c : Chunk) : Option State :=
  let quiet := { s with running := false }
  if c.kind == utf8 "IHDR" then none
  else if c.kind == utf8 "PLTE" then
    let n := c.body.length / 3
    if s.stage != .header || c.body.length % 3 != 0 || n == 0 || n > 256 || n > Nat.pow 2 h.depth then none
    else
      match h.channels with
      | .grey | .greyAlpha => none
      | .palette => some { quiet with
          stage := .palette, palette := { s.palette with entries := (paletteEntries c.body).toArray } }
      | _ => some { quiet with stage := .palette }
  else if c.kind == utf8 "tRNS" then
    match h.channels with
    | .palette =>
      if s.stage != .palette || c.body.length > 256 then none
      else some { quiet with
        stage := .transparency
        palette := { s.palette with entries := coverPalette s.palette.entries c.body } }
    | .grey | .rgb =>
      if (s.stage != .header && !(h.channels == .rgb && s.stage == .palette)) ||
          c.body.length != 2 * h.channels.count then none
      else some { quiet with
        stage := .transparency
        palette := { s.palette with transparent := some (transparentKey h c.body) } }
    | _ => none
  else if c.kind == utf8 "IDAT" then
    if s.stage == .header && h.channels == .palette then none
    else if s.stage != .colors then some { s with stage := .colors, data := c.body, running := true }
    else if s.running then some { s with data := s.data ++ c.body }
    else some quiet
  else some quiet

/-- The picture of a file. -/
def decode? (data : Bytes) : Option Picture := do
  match ← chunks? data with
  | first :: rest =>
    if first.kind != utf8 "IHDR" then none
    let h ← Header.parse first.body
    let s ← rest.dropLast.foldlM (step h) {}
    if s.stage != .colors then none
    let bytes ← Zlib.decode s.data
    picture h s.palette bytes
  | [] => none

/-- A chunk with its length and checksum. -/
def chunkBytes (kind : String) (body : Bytes) : Bytes :=
  let content := utf8 kind ++ body
  bigEndianBytes body.length.toUInt32 ++ content ++ bigEndianBytes (crc32 content)

/-- A file for a picture. -/
def encode (width height : Nat) (pixels : List Pixel) : Bytes :=
  let rows := (chunks width height pixels).flatMap fun row => 0 :: row.flatMap Pixel.toList
  magic ++ chunkBytes "IHDR" (bigEndianBytes width.toUInt32 ++ bigEndianBytes height.toUInt32 ++
    [8, 6, 0, 0, 0]) ++ chunkBytes "IDAT" (Zlib.store rows) ++ chunkBytes "IEND" []

end SceneForge.Png
