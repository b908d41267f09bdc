import SceneForge.Picture.Basic

set_option autoImplicit false

/-!
# JPEG scans

A JPEG picture consists of blocks of 64 frequencies. A scan brings some bits of some frequencies of
some channels, written in prefix codes.

## Main definitions

* `SceneForge.Jpeg.Huffman` — a prefix code.
* `SceneForge.Jpeg.ScanState`, `SceneForge.Jpeg.Scanning` — the state of reading a scan.
* `SceneForge.Jpeg.firstBits`, `SceneForge.Jpeg.refine` — the first and the later bits of a block.
-/

namespace SceneForge.Jpeg

/-- A prefix code: how many code words each length has, and the symbols in order of their code
words. -/
structure Huffman where
  /-- Code words by length, from one bit on. -/
  counts : List Nat
  /-- Symbols by code word. -/
  symbols : Array Nat
deriving Inhabited

/-- The state of reading a scan. -/
structure ScanState where
  /-- The bytes of the file. -/
  data : Array UInt8
  /-- The place of the next byte. -/
  pos : Nat
  /-- The byte that is being read. -/
  byte : Nat := 0
  /-- How many of its bits are left. -/
  left : Nat := 0
  /-- How many blocks have no more frequencies. -/
  idle : Nat := 0
  /-- The last mean of each channel. -/
  means : Array Int
  /-- The frequencies of each channel, block after block, lowest first. -/
  blocks : Array (Array Int)

/-- Reading a scan, or finding that it is broken. -/
abbrev Scanning (α : Type) := StateT ScanState Option α

/-- The next bit, the highest of a byte first. A byte of ones is followed by a byte of zeros;
anything else ends the scan. -/
def bit : Scanning Nat := fun s =>
  if s.left > 0 then
    some (s.byte / Nat.pow 2 (s.left - 1) % 2, { s with left := s.left - 1 })
  else
    match s.data[s.pos]? with
    | none => none
    | some b =>
      let next (n : Nat) : Option (Nat × ScanState) :=
        some (b.toNat / 128, { s with pos := s.pos + n, byte := b.toNat, left := 7 })
      if b == 0xff then (if s.data[s.pos + 1]? == some 0 then next 2 else none) else next 1

/-- The next bits as a number, the highest first. -/
def bits : Nat → Scanning Nat
  | 0 => return 0
  | n + 1 => do
    let b ← bit
    return b * Nat.pow 2 n + (← bits n)

/-- A number of some bits whose first bit is its sign. -/
def signedBits (n : Nat) : Scanning Int := do
  let v ← bits n
  return if n > 0 && v < Nat.pow 2 (n - 1) then (v : Int) - Nat.pow 2 n + 1 else v

/-- The next symbol of a code. -/
def symbol (h : Huffman) : Scanning Nat :=
  go h.counts 0 0 0
where
  /-- With the word so far, the first word of its length and the symbols before it. -/
  go : List Nat → Nat → Nat → Nat → Scanning Nat
    | [], _, _, _ => failure
    | count :: rest, word, first, index => do
      let word := word + (← bit)
      if word < first + count then
        match h.symbols[index + (word - first)]? with
        | some s => return s
        | none => failure
      else go rest (2 * word) (2 * (first + count)) (index + count)

/-- A frequency of a block. -/
def getAt (channel place : Nat) : Scanning Int := do
  return ((← get).blocks.getD channel #[]).getD place 0

/-- A frequency of a block is set. -/
def setAt (channel place : Nat) (v : Int) : Scanning Unit :=
  modify fun s => { s with blocks := s.blocks.modify channel fun b => b.setIfInBounds place v }

/-- Which bits of which frequencies a scan brings. -/
structure Band where
  /-- The first frequency. -/
  first : Nat := 0
  /-- The last frequency. -/
  last : Nat := 63
  /-- The bit that was brought last, or zero in a first scan. -/
  high : Nat := 0
  /-- The lowest bit that is brought. -/
  low : Nat := 0

/-- How many blocks have no more frequencies, by the symbol that says so. -/
def idleBlocks (n : Nat) : Scanning Nat := do
  return Nat.pow 2 n + (← bits n)

/-- The frequencies of a block above the mean, from a place on. -/
def firstFrequencies (code : Huffman) (band : Band) (channel base : Nat) : Nat → Nat → Scanning Unit
  | 0, _ => return ()
  | fuel + 1, place => do
    if place > band.last then return ()
    let s ← symbol code
    let run := s / 16
    let size := s % 16
    if size != 0 then
      let place := place + run
      if place > band.last then return ()
      let v ← signedBits size
      setAt channel (base + place) (v * Nat.pow 2 band.low)
      firstFrequencies code band channel base fuel (place + 1)
    else if run != 15 then
      let n ← idleBlocks run
      modify fun st => { st with idle := n - 1 }
    else firstFrequencies code band channel base fuel (place + 16)

/-- The first bits of a block. -/
def firstBits (dc ac : Option Huffman) (band : Band) (channel base : Nat) : Scanning Unit := do
  if band.first == 0 then
    let some code := dc | failure
    let size ← symbol code
    if size > 16 then failure
    let delta ← signedBits size
    let mean := (← get).means.getD channel 0 + delta
    modify fun s => { s with means := s.means.setIfInBounds channel mean }
    setAt channel base (mean * Nat.pow 2 band.low)
  let start := max band.first 1
  if start ≤ band.last then
    let idle := (← get).idle
    if idle > 0 then modify fun s => { s with idle := idle - 1 }
    else
      let some code := ac | failure
      firstFrequencies code band channel base 64 start

/-- The frequencies that are already there get one more bit, up to the given number of places that
hold none. -/
def refineRun (band : Band) (channel base : Nat) (zeros : Option Nat) : Nat → Nat → Scanning Nat
  | 0, place => return place
  | fuel + 1, place => do
    if place > band.last then return place
    let v ← getAt channel (base + place)
    if v == 0 then
      match zeros with
      | some 0 => return place
      | some (n + 1) => refineRun band channel base (some n) fuel (place + 1)
      | none => refineRun band channel base none fuel (place + 1)
    else
      if (← bit) == 1 then
        setAt channel (base + place) (if v ≥ 0 then v + Nat.pow 2 band.low else v - Nat.pow 2 band.low)
      refineRun band channel base zeros fuel (place + 1)

/-- One more bit for the frequencies of a block, and new ones among them: where it stopped. -/
def refineFrequencies (code : Huffman) (band : Band) (channel base : Nat) : Nat → Nat →
    Scanning Nat
  | 0, place => return place
  | fuel + 1, place => do
    if place > band.last then return place
    let s ← symbol code
    let run := s / 16
    let size := s % 16
    if size == 0 && run != 15 then
      let n ← idleBlocks run
      modify fun st => { st with idle := n }
      return place
    else if size > 1 then failure
    else
      let v : Int ← if size == 1 then
          (do return if (← bit) == 1 then Nat.pow 2 band.low else -(Nat.pow 2 band.low))
        else pure 0
      let place ← refineRun band channel base (some run) 65 place
      if place > band.last then failure
      if v != 0 then setAt channel (base + place) v
      refineFrequencies code band channel base fuel (place + 1)

/-- The later bits of a block. -/
def refine (ac : Option Huffman) (band : Band) (channel base : Nat) : Scanning Unit := do
  if band.first == 0 then
    if (← bit) == 1 then
      let v ← getAt channel base
      setAt channel base (if v / Nat.pow 2 band.low % 2 == 0 then v + Nat.pow 2 band.low else v)
  else
    let some code := ac | failure
    let place ← if (← get).idle == 0 then refineFrequencies code band channel base 65 band.first
      else pure band.first
    let idle := (← get).idle
    if idle > 0 then
      modify fun s => { s with idle := idle - 1 }
      let _ ← refineRun band channel base none 65 place

/-- The bits of a block. -/
def block (dc ac : Option Huffman) (band : Band) (channel base : Nat) : Scanning Unit :=
  if band.high == 0 then firstBits dc ac band channel base else refine ac band channel base

/-- Past a restart marker: the next bit starts a byte, and the means start from zero. -/
def restart (n : Nat) : Scanning Unit := do
  let s ← get
  if s.data[s.pos]? == some 0xff && s.data[s.pos + 1]? == some (0xd0 + n % 8).toUInt8 then
    set { s with pos := s.pos + 2, left := 0, idle := 0, means := s.means.map fun _ => 0 }
  else failure

end SceneForge.Jpeg
