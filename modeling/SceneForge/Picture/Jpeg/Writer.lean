import SceneForge.Picture.Jpeg.Reader

set_option autoImplicit false

/-!
# Writing JPEG pictures

Sequential pictures in color, every channel in full size, with the usual tables of codes.

## Main definitions

* `SceneForge.Jpeg.stepsFor` — the steps of a quality.
* `SceneForge.Jpeg.encode` — a file for a picture.
-/

namespace SceneForge.Jpeg

/-! ## Tables -/

/-- The steps of brightness at medium quality, in the order in which they are written. -/
def brightSteps : List Nat :=
  [16, 11, 12, 14, 12, 10, 16, 14, 13, 14, 18, 17, 16, 19, 24, 40, 26, 24, 22, 22, 24, 49, 35, 37, 29,
    40, 58, 51, 61, 60, 57, 51, 56, 55, 64, 72, 92, 78, 64, 68, 87, 69, 55, 56, 80, 109, 81, 87, 95,
    98, 103, 104, 103, 62, 77, 113, 121, 112, 100, 120, 92, 101, 103, 99]

/-- The steps of color at medium quality, in the order in which they are written. -/
def colorSteps : List Nat :=
  [17, 18, 18, 24, 21, 24, 47, 26, 26, 47, 99, 66, 56, 66] ++ List.replicate 50 99

/-- The steps of a quality from 1 to 100. -/
def stepsFor (quality : Nat) (table : List Nat) : List Nat :=
  let scale := if quality < 50 then 5000 / max quality 1 else 200 - 2 * quality
  table.map fun x => min (max ((x * scale + 50) / 100) 1) 255

/-- The code of the means of brightness. -/
def brightMeans : Huffman := ⟨[0, 1, 5, 1, 1, 1, 1, 1, 1, 0, 0, 0, 0, 0, 0, 0], (List.range 12).toArray⟩

/-- The code of the means of color. -/
def colorMeans : Huffman := ⟨[0, 3, 1, 1, 1, 1, 1, 1, 1, 1, 1, 0, 0, 0, 0, 0], (List.range 12).toArray⟩

/-- The code of the frequencies of brightness. -/
def brightFrequencies : Huffman :=
  ⟨[0, 2, 1, 3, 3, 2, 4, 3, 5, 5, 4, 4, 0, 0, 1, 125],
    #[0x01, 0x02, 0x03, 0x00, 0x04, 0x11, 0x05, 0x12, 0x21, 0x31, 0x41, 0x06, 0x13, 0x51, 0x61, 0x07,
      0x22, 0x71, 0x14, 0x32, 0x81, 0x91, 0xa1, 0x08, 0x23, 0x42, 0xb1, 0xc1, 0x15, 0x52, 0xd1, 0xf0,
      0x24, 0x33, 0x62, 0x72, 0x82, 0x09, 0x0a, 0x16, 0x17, 0x18, 0x19, 0x1a, 0x25, 0x26, 0x27, 0x28,
      0x29, 0x2a, 0x34, 0x35, 0x36, 0x37, 0x38, 0x39, 0x3a, 0x43, 0x44, 0x45, 0x46, 0x47, 0x48, 0x49,
      0x4a, 0x53, 0x54, 0x55, 0x56, 0x57, 0x58, 0x59, 0x5a, 0x63, 0x64, 0x65, 0x66, 0x67, 0x68, 0x69,
      0x6a, 0x73, 0x74, 0x75, 0x76, 0x77, 0x78, 0x79, 0x7a, 0x83, 0x84, 0x85, 0x86, 0x87, 0x88, 0x89,
      0x8a, 0x92, 0x93, 0x94, 0x95, 0x96, 0x97, 0x98, 0x99, 0x9a, 0xa2, 0xa3, 0xa4, 0xa5, 0xa6, 0xa7,
      0xa8, 0xa9, 0xaa, 0xb2, 0xb3, 0xb4, 0xb5, 0xb6, 0xb7, 0xb8, 0xb9, 0xba, 0xc2, 0xc3, 0xc4, 0xc5,
      0xc6, 0xc7, 0xc8, 0xc9, 0xca, 0xd2, 0xd3, 0xd4, 0xd5, 0xd6, 0xd7, 0xd8, 0xd9, 0xda, 0xe1, 0xe2,
      0xe3, 0xe4, 0xe5, 0xe6, 0xe7, 0xe8, 0xe9, 0xea, 0xf1, 0xf2, 0xf3, 0xf4, 0xf5, 0xf6, 0xf7, 0xf8,
      0xf9, 0xfa]⟩

/-- The code of the frequencies of color. -/
def colorFrequencies : Huffman :=
  ⟨[0, 2, 1, 2, 4, 4, 3, 4, 7, 5, 4, 4, 0, 1, 2, 119],
    #[0x00, 0x01, 0x02, 0x03, 0x11, 0x04, 0x05, 0x21, 0x31, 0x06, 0x12, 0x41, 0x51, 0x07, 0x61, 0x71,
      0x13, 0x22, 0x32, 0x81, 0x08, 0x14, 0x42, 0x91, 0xa1, 0xb1, 0xc1, 0x09, 0x23, 0x33, 0x52, 0xf0,
      0x15, 0x62, 0x72, 0xd1, 0x0a, 0x16, 0x24, 0x34, 0xe1, 0x25, 0xf1, 0x17, 0x18, 0x19, 0x1a, 0x26,
      0x27, 0x28, 0x29, 0x2a, 0x35, 0x36, 0x37, 0x38, 0x39, 0x3a, 0x43, 0x44, 0x45, 0x46, 0x47, 0x48,
      0x49, 0x4a, 0x53, 0x54, 0x55, 0x56, 0x57, 0x58, 0x59, 0x5a, 0x63, 0x64, 0x65, 0x66, 0x67, 0x68,
      0x69, 0x6a, 0x73, 0x74, 0x75, 0x76, 0x77, 0x78, 0x79, 0x7a, 0x82, 0x83, 0x84, 0x85, 0x86, 0x87,
      0x88, 0x89, 0x8a, 0x92, 0x93, 0x94, 0x95, 0x96, 0x97, 0x98, 0x99, 0x9a, 0xa2, 0xa3, 0xa4, 0xa5,
      0xa6, 0xa7, 0xa8, 0xa9, 0xaa, 0xb2, 0xb3, 0xb4, 0xb5, 0xb6, 0xb7, 0xb8, 0xb9, 0xba, 0xc2, 0xc3,
      0xc4, 0xc5, 0xc6, 0xc7, 0xc8, 0xc9, 0xca, 0xd2, 0xd3, 0xd4, 0xd5, 0xd6, 0xd7, 0xd8, 0xd9, 0xda,
      0xe2, 0xe3, 0xe4, 0xe5, 0xe6, 0xe7, 0xe8, 0xe9, 0xea, 0xf2, 0xf3, 0xf4, 0xf5, 0xf6, 0xf7, 0xf8,
      0xf9, 0xfa]⟩

/-- The code words of a code by symbol: value and number of bits. -/
def Huffman.words (h : Huffman) : Array (Nat × Nat) :=
  let start : Array (Nat × Nat) × Nat × Nat := (Array.replicate 256 (0, 0), 0, 0)
  (h.counts.zipIdx.foldl (fun (out, word, index) (count, i) =>
    let out := (List.range count).foldl (fun (out : Array (Nat × Nat)) k =>
      out.setIfInBounds (h.symbols.getD (index + k) 0) (word + k, i + 1)) out
    (out, 2 * (word + count), index + count)) start).1

/-! ## Bits -/

/-- Bits on their way into bytes. -/
structure BitWriter where
  /-- The bytes so far. -/
  out : Array UInt8 := #[]
  /-- Bits that do not fill a byte yet. -/
  rest : Nat := 0
  /-- How many there are. -/
  count : Nat := 0

/-- One more byte; a byte of ones is followed by a byte of zeros. -/
def BitWriter.pushByte (w : BitWriter) (b : UInt8) : BitWriter :=
  { w with out := if b == 0xff then (w.out.push b).push 0 else w.out.push b }

/-- Some more bits, the highest first. -/
def BitWriter.push (w : BitWriter) (value count : Nat) : BitWriter :=
  let rest := w.rest * Nat.pow 2 count + value
  let count := w.count + count
  let w := (List.range (count / 8)).foldl (fun (w : BitWriter) i =>
    w.pushByte (rest / Nat.pow 2 (count - 8 * (i + 1))).toUInt8) w
  { w with rest := rest % Nat.pow 2 (count % 8), count := count % 8 }

/-- The bytes, the last one filled up with ones. -/
def BitWriter.finish (w : BitWriter) : Array UInt8 :=
  if w.count == 0 then w.out else (w.push (Nat.pow 2 (8 - w.count) - 1) (8 - w.count)).out

/-- How many bits a number takes. -/
def sizeOf (v : Int) : Nat := if v == 0 then 0 else v.natAbs.log2 + 1

/-- A number after the symbol that gives its size. -/
def BitWriter.number (w : BitWriter) (words : Array (Nat × Nat)) (run : Nat) (v : Int) : BitWriter :=
  let n := sizeOf v
  let (word, bits) := words.getD (16 * run + n) (0, 0)
  (w.push word bits).push (if v < 0 then v + Nat.pow 2 n - 1 else v).toNat n

/-! ## Blocks -/

/-- The frequencies of the 64 places of a block, divided by their steps and rounded, in the order in
which they are written. -/
def frequencies (values : Array Float) (steps : Array Nat) : List Int :=
  let rows := ((List.range 64).map fun i =>
    sum8 fun x => values.getD (i / 8 * 8 + x) 0 * waves.getD (i % 8 * 8 + x) 0).toArray
  (List.range 64).map fun k =>
    let z := zigzag.getD k 0
    let v := sum8 fun y => rows.getD (y * 8 + z % 8) 0 * waves.getD (z / 8 * 8 + y) 0
    (v / Float.ofNat (steps.getD k 1)).round.toInt64.toInt

/-- The frequencies of a block above the mean; a run of zeros is written with the next number. -/
def writeFrequencies (words : Array (Nat × Nat)) : List Int → Nat → BitWriter → BitWriter
  | [], run, w =>
    if run == 0 then w
    else
      let (word, bits) := words.getD 0 (0, 0)
      w.push word bits
  | v :: rest, run, w =>
    if v == 0 then writeFrequencies words rest (run + 1) w
    else
      let w := (List.range (run / 16)).foldl (fun (w : BitWriter) _ =>
        let (word, bits) := words.getD 0xf0 (0, 0)
        w.push word bits) w
      writeFrequencies words rest 0 (w.number words (run % 16) v)

/-- Brightness and color differences of a color, around zero. -/
def channelsOf (p : Pixel) : List Float :=
  let r := Float.ofNat p.r.toNat
  let g := Float.ofNat p.g.toNat
  let b := Float.ofNat p.b.toNat
  [0.299 * r + 0.587 * g + 0.114 * b - 128, -0.168736 * r - 0.331264 * g + 0.5 * b,
    0.5 * r - 0.418688 * g - 0.081312 * b]

/-- A channel with its codes and steps. -/
structure Plane where
  /-- Which channel it is. -/
  index : Nat
  /-- The code of means. -/
  means : Array (Nat × Nat)
  /-- The code of frequencies. -/
  frequencies : Array (Nat × Nat)
  /-- The steps. -/
  steps : Array Nat

/-- The 64 values of a channel in a block; beyond the edge the last ones go on. -/
def blockValues (width height : Nat) (pixels : Array Pixel) (channel bx by' : Nat) : Array Float :=
  ((List.range 64).map fun i =>
    let x := min (8 * bx + i % 8) (width - 1)
    let y := min (8 * by' + i / 8) (height - 1)
    (channelsOf (pixels.getD (y * width + x) default)).getD channel 0).toArray

/-- One block of one channel; a mean is written as its difference to the one before. -/
def writeBlock (width height : Nat) (pixels : Array Pixel) (bx by' : Nat)
    (s : BitWriter × List Int) (p : Plane) : BitWriter × List Int :=
  let freq := frequencies (blockValues width height pixels p.index bx by') p.steps
  let mean := freq.headD 0
  let w := s.1.number p.means 0 (mean - s.2.getD p.index 0)
  (writeFrequencies p.frequencies (freq.drop 1) 0 w, s.2.set p.index mean)

/-! ## Files -/

/-- A segment with its marker and length. -/
def segmentBytes (marker : UInt8) (body : Bytes) : Bytes :=
  let n := body.length + 2
  [0xff, marker, (n / 256).toUInt8, n.toUInt8] ++ body

/-- A table of codes. -/
def codeBytes (number : UInt8) (h : Huffman) : Bytes :=
  number :: (h.counts.map Nat.toUInt8 ++ h.symbols.toList.map Nat.toUInt8)

/-- A file for a picture of given quality. -/
def encode (quality width height : Nat) (pixels : List Pixel) : Bytes :=
  let bright := stepsFor quality brightSteps
  let color := stepsFor quality colorSteps
  let planes : List Plane :=
    [⟨0, brightMeans.words, brightFrequencies.words, bright.toArray⟩,
      ⟨1, colorMeans.words, colorFrequencies.words, color.toArray⟩,
      ⟨2, colorMeans.words, colorFrequencies.words, color.toArray⟩]
  let nx := (width + 7) / 8
  let ny := (height + 7) / 8
  let all := pixels.toArray
  let (w, _) := (List.range (nx * ny)).foldl (fun s k =>
    planes.foldl (writeBlock width height all (k % nx) (k / nx)) s)
    ((({} : BitWriter), [0, 0, 0]) : BitWriter × List Int)
  [0xff, 0xd8] ++ segmentBytes 0xdb (0 :: bright.map Nat.toUInt8 ++ 1 :: color.map Nat.toUInt8) ++
    segmentBytes 0xc0 ([8, (height / 256).toUInt8, height.toUInt8, (width / 256).toUInt8,
      width.toUInt8, 3, 1, 0x11, 0, 2, 0x11, 1, 3, 0x11, 1]) ++
    segmentBytes 0xc4 (codeBytes 0x00 brightMeans ++ codeBytes 0x10 brightFrequencies ++
      codeBytes 0x01 colorMeans ++ codeBytes 0x11 colorFrequencies) ++
    segmentBytes 0xda [3, 1, 0x00, 2, 0x11, 3, 0x11, 0, 63, 0] ++ w.finish.toList ++ [0xff, 0xd9]

end SceneForge.Jpeg
