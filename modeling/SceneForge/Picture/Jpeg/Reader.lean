import SceneForge.Picture.Jpeg.Scan

set_option autoImplicit false

/-!
# Reading JPEG pictures

Sequential and progressive pictures of eight bits, in grey, color or four inks.

## Main definitions

* `SceneForge.Jpeg.Frame` — size and channels of a picture.
* `SceneForge.Jpeg.segments` — the parts of a file up to its end marker.
* `SceneForge.Jpeg.decode?` — the picture of a file.
-/

namespace SceneForge.Jpeg

/-- A channel of a picture. -/
structure Component where
  /-- Its name. -/
  id : UInt8
  /-- Blocks side by side in a unit. -/
  h : Nat
  /-- Blocks one above the other in a unit. -/
  v : Nat
  /-- Its table of steps. -/
  steps : Nat
deriving Inhabited

/-- Size and channels of a picture. -/
structure Frame where
  /-- Whether every table number is below two. -/
  baseline : Bool
  /-- Whether the frequencies come in several scans. -/
  progressive : Bool
  /-- Colors in a row. -/
  width : Nat
  /-- Rows. -/
  height : Nat
  /-- The channels. -/
  components : Array Component

/-- The size of a unit in blocks. -/
def Frame.unit (f : Frame) : Nat × Nat :=
  let c := f.components.getD 0 ⟨0, 1, 1, 0⟩
  (c.h, c.v)

/-- The number of units in a row and in a column. -/
def Frame.units (f : Frame) : Nat × Nat :=
  let (h, v) := f.unit
  ((f.width + 8 * h - 1) / (8 * h), (f.height + 8 * v - 1) / (8 * v))

/-- The state of reading a file. -/
structure FileState where
  /-- Size and channels, once known. -/
  frame : Option Frame := none
  /-- The tables of steps. -/
  steps : Array (Array Nat) := Array.replicate 4 (Array.replicate 64 0)
  /-- The codes of means. -/
  dc : Array (Option Huffman) := Array.replicate 4 none
  /-- The codes of frequencies. -/
  ac : Array (Option Huffman) := Array.replicate 4 none
  /-- Units between two restart markers, zero for none. -/
  interval : Nat := 0
  /-- The frequencies of each channel. -/
  blocks : Array (Array Int) := #[]
  /-- Whether a scan has been read. -/
  scanned : Bool := false
  /-- The color transform that the file declares. -/
  transform : Option Nat := none

/-! ## Tables -/

/-- Tables of steps. -/
def stepTables : Nat → Bytes → Array (Array Nat) → Option (Array (Array Nat))
  | 0, _, _ => none
  | _ + 1, [], tables => some tables
  | fuel + 1, x :: rest, tables =>
    let i := (x &&& 15).toNat
    let wide := x >>> 4
    let size := if wide == 0 then 64 else 128
    if i > 3 || wide > 1 || rest.length < size then none
    else
      let values := if wide == 0 then (rest.take 64).map (·.toNat)
        else (chunks 2 64 rest).map fun p => p.foldl (fun n b => n * 256 + b.toNat) 0
      stepTables fuel (rest.drop size) (tables.setIfInBounds i values.toArray)

/-- Tables of codes. -/
def codeTables (baseline : Bool) : Nat → Bytes → FileState → Option FileState
  | 0, _, _ => none
  | _ + 1, [], s => some s
  | fuel + 1, x :: rest, s =>
    let i := (x &&& 15).toNat
    let kind := x >>> 4
    let counts := (rest.take 16).map (·.toNat)
    let total := counts.foldl (· + ·) 0
    if kind > 1 || i > 3 || (baseline && i > 1) || counts.length < 16 || total == 0 || total > 256 ||
        rest.length < 16 + total then none
    else
      let code : Huffman := ⟨counts, ((rest.drop 16).take total).toArray.map (·.toNat)⟩
      let s := if kind == 0 then { s with dc := s.dc.setIfInBounds i (some code) }
        else { s with ac := s.ac.setIfInBounds i (some code) }
      codeTables baseline fuel (rest.drop (16 + total)) s

/-! ## Frames -/

/-- Channels from three bytes each. -/
def components : Bytes → List Component
  | id :: hv :: steps :: rest =>
    ⟨id, (hv >>> 4).toNat, (hv &&& 15).toNat, steps.toNat⟩ :: components rest
  | _ => []

/-- Whether the blocks of the channels can be put together. -/
def compatible : List Component → Bool
  | [_] => true
  | [y, b, r] => y.v != 4 && y.h % b.h == 0 && y.v % b.v == 0 && b.h == r.h && b.v == r.v
  | [c, m, y, k] =>
    ((c.h == 1 && c.v == 1) || (c.h == 2 && c.v == 2)) && m.h == 1 && m.v == 1 && y.h == 1 &&
      y.v == 1 && k.h == c.h && k.v == c.v
  | _ => false

/-- A frame. -/
def frame? (marker : UInt8) (body : Bytes) : Option Frame :=
  match body with
  | 8 :: h1 :: h0 :: w1 :: w0 :: n :: rest => do
    let cs := components rest
    let valid (c : Component) : Bool :=
      [1, 2, 4].contains c.h && [1, 2, 4].contains c.v && c.steps ≤ 3
    if rest.length != 3 * n.toNat || !cs.all valid || (cs.map (·.id)).eraseDups.length != cs.length ||
        !compatible cs then none
    let cs := match cs with
      | [c] => [{ c with h := 1, v := 1 }]
      | cs => cs
    return { baseline := marker == 0xc0, progressive := marker == 0xc2
             width := w1.toNat * 256 + w0.toNat, height := h1.toNat * 256 + h0.toNat
             components := cs.toArray }
  | _ => none

/-- Empty frequencies for every channel. -/
def Frame.blank (f : Frame) : Array (Array Int) :=
  let (nx, ny) := f.units
  f.components.map fun c => Array.replicate (64 * nx * c.h * ny * c.v) 0

/-! ## Scans -/

/-- A channel of a scan with its tables. -/
structure ScanPart where
  /-- The channel. -/
  channel : Nat
  /-- The table for means. -/
  dc : Nat
  /-- The table for frequencies. -/
  ac : Nat

/-- The channels of a scan. -/
def scanParts (f : Frame) : Bytes → Option (List ScanPart)
  | id :: tables :: rest => do
    let channel ← f.components.findIdx? (·.id == id)
    let dc := (tables >>> 4).toNat
    let ac := (tables &&& 15).toNat
    let limit := if f.baseline then 1 else 3
    if dc > limit || ac > limit then none
    return ⟨channel, dc, ac⟩ :: (← scanParts f rest)
  | _ => some []

/-- The header of a scan: its channels and what it brings of them. -/
def scanHeader (f : Frame) (body : Bytes) : Option (List ScanPart × Band) :=
  match body with
  | n :: rest => do
    let parts ← scanParts f (rest.take (2 * n.toNat))
    if n == 0 || n > 4 || rest.length != 2 * n.toNat + 3 ||
        (parts.map (·.channel)).eraseDups.length != parts.length then none
    if !f.progressive then return (parts, {})
    match rest.drop (2 * n.toNat) with
    | [first, last, shift] =>
      let band : Band := ⟨first.toNat, last.toNat, (shift >>> 4).toNat, (shift &&& 15).toNat⟩
      if (band.first == 0 && band.last != 0) || band.first > band.last || band.last > 63 ||
          (band.first != 0 && parts.length != 1) || (band.high != 0 && band.high != band.low + 1)
      then none
      else return (parts, band)
    | _ => none
  | [] => none

/-- The blocks of one unit of a scan. With a single channel the blocks come row by row, and those
outside the picture are left out. -/
def unitBlocks (f : Frame) (parts : List ScanPart) (unit : Nat) : List (ScanPart × Nat) :=
  let (nx, _) := f.units
  let mx := unit % nx
  let my := unit / nx
  parts.flatMap fun p =>
    let c := f.components.getD p.channel default
    (List.range (c.h * c.v)).filterMap fun j =>
      let width := nx * c.h
      if parts.length != 1 then
        some (p, (c.v * my + j / c.h) * width + c.h * mx + j % c.h)
      else
        let k := unit * (c.h * c.v) + j
        if k % width * 8 ≥ f.width || k / width * 8 ≥ f.height then none else some (p, k)

/-- All units of a scan. -/
def scanUnits (f : Frame) (s : FileState) (parts : List ScanPart) (band : Band) : Scanning Unit := do
  let (nx, ny) := f.units
  for unit in List.range (nx * ny) do
    if s.interval > 0 && unit > 0 && unit % s.interval == 0 then
      restart (unit / s.interval - 1)
    for (p, k) in unitBlocks f parts unit do
      block (s.dc.getD p.dc none) (s.ac.getD p.ac none) band p.channel (64 * k)

/-- A scan: the state after it, and where it ends. -/
def scan (s : FileState) (data : Array UInt8) (body : Bytes) (pos : Nat) :
    Option (FileState × Nat) := do
  let f ← s.frame
  let (parts, band) ← scanHeader f body
  let start : ScanState :=
    { data, pos, means := Array.replicate f.components.size 0, blocks := s.blocks }
  let (_, after) ← (scanUnits f { s with blocks := #[] } parts band).run start
  return ({ s with blocks := after.blocks, scanned := true }, after.pos)

/-! ## Segments -/

/-- One segment after its marker. -/
def segment (s : FileState) (data : Array UInt8) (marker : UInt8) (body : Bytes) (pos : Nat) :
    Option (FileState × Nat) := do
  if marker == 0xc0 || marker == 0xc1 || marker == 0xc2 then
    if s.frame.isSome then none
    let f ← frame? marker body
    return ({ s with frame := some f, blocks := f.blank }, pos)
  else if marker == 0xc4 then
    return (← codeTables ((s.frame.map (·.baseline)).getD false) (body.length + 1) body s, pos)
  else if marker == 0xdb then
    return ({ s with steps := ← stepTables (body.length + 1) body s.steps }, pos)
  else if marker == 0xda then scan s data body pos
  else if marker == 0xdd then
    match body with
    | [a, b] => return ({ s with interval := a.toNat * 256 + b.toNat }, pos)
    | _ => none
  else if marker == 0xee then
    if body.length ≥ 12 && body.take 5 == utf8 "Adobe" then
      return ({ s with transform := body[11]?.map (·.toNat) }, pos)
    else return (s, pos)
  else if (0xe0 ≤ marker && marker ≤ 0xef) || marker == 0xfe then return (s, pos)
  else none

/-- The place of the next marker, and the marker: bytes that are none are passed over. -/
def nextMarker (data : Array UInt8) : Nat → Nat → Option (UInt8 × Nat)
  | 0, _ => none
  | fuel + 1, pos => do
    let a ← data[pos]?
    let b ← data[pos + 1]?
    if a != 0xff || b == 0xff || b == 0 then nextMarker data fuel (pos + 1) else some (b, pos + 2)

/-- The segments of a file up to its end marker. -/
def segments (data : Array UInt8) : Nat → FileState → Nat → Option FileState
  | 0, _, _ => none
  | fuel + 1, s, pos => do
    let (marker, pos) ← nextMarker data (data.size + 1) pos
    if marker == 0xd9 then some s
    else if 0xd0 ≤ marker && marker ≤ 0xd7 then segments data fuel s pos
    else
      let size := (← data[pos]?).toNat * 256 + (← data[pos + 1]?).toNat
      if size < 2 || pos + size > data.size then none
      let body := (data.extract (pos + 2) (pos + size)).toList
      let (s, pos) ← segment s data marker body (pos + size)
      segments data fuel s pos

/-! ## Pictures -/

/-- The frequencies of a block by row and column, in the order in which they are written. -/
def zigzag : Array Nat :=
  #[0, 1, 8, 16, 9, 2, 3, 10, 17, 24, 32, 25, 18, 11, 4, 5, 12, 19, 26, 33, 40, 48, 41, 34, 27, 20,
    13, 6, 7, 14, 21, 28, 35, 42, 49, 56, 57, 50, 43, 36, 29, 22, 15, 23, 30, 37, 44, 51, 58, 59, 52,
    45, 38, 31, 39, 46, 53, 60, 61, 54, 47, 55, 62, 63]

/-- The value of a wave of some frequency at a place. -/
def wave (u x : Nat) : Float :=
  (if u == 0 then 0.35355339059327376 else 0.5) *
    (Float.ofNat ((2 * x + 1) * u) * 3.141592653589793 / 16).cos

/-- All values of all waves. -/
def waves : Array Float := ((List.range 64).map fun i => wave (i / 8) (i % 8)).toArray

/-- A sum over eight places. -/
def sum8 (f : Nat → Float) : Float := (List.range 8).foldl (fun s i => s + f i) 0

/-- The brightness of the 64 places of a block from its frequencies. -/
def places (freq : Array Float) : Array UInt8 :=
  let rows := ((List.range 64).map fun i =>
    sum8 fun u => freq.getD (i / 8 * 8 + u) 0 * waves.getD (u * 8 + i % 8) 0).toArray
  ((List.range 64).map fun i =>
    let v := sum8 fun u => rows.getD (u * 8 + i % 8) 0 * waves.getD (u * 8 + i / 8) 0
    let v := v + 128.5
    (if v < 0 then 0 else if v > 255 then 255 else v).toUInt8).toArray

/-- The frequencies of a block multiplied with their steps, by row and column. -/
def scaled (block : Array Int) (steps : Array Nat) : Array Float :=
  (List.range 64).foldl (fun out k =>
    out.setIfInBounds (zigzag.getD k 0) (Float.ofInt (block.getD k 0 * (steps.getD k 0 : Int))))
    (Array.replicate 64 0)

/-- The brightness of a channel, block by block. -/
def channelPlaces (s : FileState) (i : Nat) (c : Component) : Array (Array UInt8) :=
  let all := s.blocks.getD i #[]
  let steps := s.steps.getD c.steps #[]
  ((List.range (all.size / 64)).map fun k =>
    places (scaled (all.extract (64 * k) (64 * k + 64)) steps)).toArray

/-- A channel value kept in range. -/
def clamp (x : Float) : UInt8 := (if x < 0 then 0 else if x > 255 then 255 else x + 0.5).toUInt8

/-- The color of a brightness and two color differences. -/
def colorOf (y b r : UInt8) : Color :=
  let y := Float.ofNat y.toNat
  let b := Float.ofNat b.toNat - 128
  let r := Float.ofNat r.toNat - 128
  .opaqueRgb (clamp (y + 1.402 * r)) (clamp (y - 0.344136 * b - 0.714136 * r)) (clamp (y + 1.772 * b))

/-- The color of four inks. -/
def inkColor (c m y k : UInt8) : Color :=
  let mix (x : UInt8) : UInt8 := ((255 - x.toNat) * (255 - k.toNat) / 255).toUInt8
  .opaqueRgb (mix c) (mix m) (mix y)

/-- The color of the channels at a place. -/
def channelColor (f : Frame) (transform : Option Nat) (values : List UInt8) : Color :=
  match values with
  | [y] => .grey y
  | [a, b, c] =>
    let named := (f.components.toList.map (·.id)) == [0x52, 0x47, 0x42]
    if transform == some 0 || (transform == none && named) then .opaqueRgb a b c else colorOf a b c
  | [c, m, y, k] => inkColor (255 - c) (255 - m) (255 - y) (255 - k)
  | _ => .grey 0

/-- The picture of all frequencies. -/
def picture (f : Frame) (s : FileState) : Picture :=
  let (nx, _) := f.units
  let (h, v) := f.unit
  let planes := f.components.mapIdx fun i c => (c, channelPlaces s i c)
  let value (x y : Nat) (c : Component) (plane : Array (Array UInt8)) : UInt8 :=
    let px := x * c.h / h
    let py := y * c.v / v
    (plane.getD (py / 8 * (nx * c.h) + px / 8) #[]).getD (py % 8 * 8 + px % 8) 0
  ⟨f.width, f.height, (List.range f.height).flatMap fun y => (List.range f.width).map fun x =>
    channelColor f s.transform (planes.toList.map fun (c, plane) => value x y c plane)⟩

/-- Whether a file can be a JPEG picture. -/
def matchesMagic (data : Bytes) : Bool := data.take 2 == [0xff, 0xd8]

/-- The picture of a file. -/
def decode? (data : Bytes) : Option Picture := do
  if !matchesMagic data then none
  let s ← segments data.toArray (data.length + 1) {} 2
  let f ← s.frame
  if !s.scanned then none
  return picture f s

end SceneForge.Jpeg
