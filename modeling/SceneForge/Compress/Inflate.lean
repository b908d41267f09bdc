import SceneForge.Compress.Checksum

set_option autoImplicit false

/-!
# Inflating

The format of compressed data inside PNG pictures: blocks of stored bytes, or of symbols in a
canonical prefix code with references to bytes already written.

## Main definitions

* `SceneForge.Inflate.Code` — a canonical prefix code.
* `SceneForge.Inflate.inflate` — the bytes of a deflate stream, and where it ends.
* `SceneForge.Zlib.decode` — the bytes of a zlib stream; its sum has to be right.
* `SceneForge.Zlib.store` — a zlib stream that only stores.
-/

namespace SceneForge.Inflate

/-! ## Bits -/

/-- A position in the compressed bytes, counted in bits from the start. -/
structure Reader where
  /-- The compressed bytes. -/
  data : Array UInt8
  /-- Bits read so far. -/
  pos : Nat := 0

/-- The next bit; the lowest of a byte comes first. -/
def Reader.bit (r : Reader) : Option (Nat × Reader) :=
  (r.data[r.pos / 8]?).map fun b =>
    (b.toNat / Nat.pow 2 (r.pos % 8) % 2, { r with pos := r.pos + 1 })

/-- The next bits as a number, the lowest first. -/
def Reader.bits : Nat → Reader → Option (Nat × Reader)
  | 0, r => some (0, r)
  | n + 1, r => do
    let (low, r) ← r.bit
    let (high, r) ← r.bits n
    return (low + 2 * high, r)

/-- The start of the next byte. -/
def Reader.align (r : Reader) : Reader := { r with pos := (r.pos + 7) / 8 * 8 }

/-! ## Prefix codes -/

/-- A canonical prefix code: how many code words each length has, and the symbols in order of their
code words. -/
structure Code where
  /-- Code words by length, from one bit on. -/
  counts : List Nat
  /-- Symbols by code word. -/
  symbols : Array Nat

/-- The greatest length of a code word. -/
def maxLength : Nat := 15

/-- Whether the code words of given lengths leave no gap; a single word of one bit is also accepted,
and so is no word at all. -/
def complete (counts : List Nat) : Bool :=
  let used := counts.zipIdx.foldl (fun n (c, i) => n + c * Nat.pow 2 (maxLength - 1 - i)) 0
  used == Nat.pow 2 maxLength || used == 0 || counts == 1 :: List.replicate (maxLength - 1) 0

/-- The code with given lengths of code words; a length of zero means that a symbol is not used. -/
def Code.ofLengths (lengths : List Nat) : Option Code :=
  let lens := (List.range maxLength).map (· + 1)
  let counts := lens.map fun l => lengths.count l
  let symbols := lens.flatMap fun l =>
    lengths.zipIdx.filterMap fun (n, s) => if n == l then some s else none
  if complete counts then some ⟨counts, symbols.toArray⟩ else none

/-- The next symbol: longer and longer code words are compared with the first of their length. -/
def Code.next (c : Code) (r : Reader) : Option (Nat × Reader) :=
  go c.counts 0 0 0 r
where
  /-- With the word so far, the first word of its length and the symbols before it. -/
  go : List Nat → Nat → Nat → Nat → Reader → Option (Nat × Reader)
    | [], _, _, _, _ => none
    | count :: rest, word, first, index, r => do
      let (b, r) ← r.bit
      let word := word + b
      if word < first + count then (c.symbols[index + (word - first)]?).map fun s => (s, r)
      else go rest (2 * word) (2 * (first + count)) (index + count) r

/-! ## Blocks -/

/-- Base and extra bits of the length symbols. -/
def lengthCodes : Array (Nat × Nat) :=
  #[(3, 0), (4, 0), (5, 0), (6, 0), (7, 0), (8, 0), (9, 0), (10, 0), (11, 1), (13, 1), (15, 1),
    (17, 1), (19, 2), (23, 2), (27, 2), (31, 2), (35, 3), (43, 3), (51, 3), (59, 3), (67, 4),
    (83, 4), (99, 4), (115, 4), (131, 5), (163, 5), (195, 5), (227, 5), (258, 0)]

/-- Base and extra bits of the distance symbols. -/
def distanceCodes : Array (Nat × Nat) :=
  #[(1, 0), (2, 0), (3, 0), (4, 0), (5, 1), (7, 1), (9, 2), (13, 2), (17, 3), (25, 3), (33, 4),
    (49, 4), (65, 5), (97, 5), (129, 6), (193, 6), (257, 7), (385, 7), (513, 8), (769, 8),
    (1025, 9), (1537, 9), (2049, 10), (3073, 10), (4097, 11), (6145, 11), (8193, 12), (12289, 12),
    (16385, 13), (24577, 13)]

/-- A base with its extra bits. -/
def extended (table : Array (Nat × Nat)) (symbol : Nat) (r : Reader) : Option (Nat × Reader) := do
  let (base, extra) ← table[symbol]?
  let (more, r) ← r.bits extra
  return (base + more, r)

/-- Bytes from some distance back are written again, one by one. -/
def copyBack (distance : Nat) : Nat → Array UInt8 → Option (Array UInt8)
  | 0, out => some out
  | n + 1, out =>
    if distance > out.size then none
    else (out[out.size - distance]?).bind fun b => copyBack distance n (out.push b)

/-- The symbols of a block up to its end. -/
def symbols (literals distances : Code) : Nat → Reader → Array UInt8 →
    Option (Reader × Array UInt8)
  | 0, _, _ => none
  | fuel + 1, r, out => do
    let (s, r) ← literals.next r
    if s < 256 then symbols literals distances fuel r (out.push s.toUInt8)
    else if s == 256 then return (r, out)
    else
      let (length, r) ← extended lengthCodes (s - 257) r
      let (d, r) ← distances.next r
      let (distance, r) ← extended distanceCodes d r
      symbols literals distances fuel r (← copyBack distance length out)

/-- A block of stored bytes. -/
def stored (r : Reader) (out : Array UInt8) : Option (Reader × Array UInt8) := do
  let (size, r) ← r.align.bits 16
  let (check, r) ← r.bits 16
  let start := r.pos / 8
  if size + check != 65535 || start + size > r.data.size then none
  else return ({ r with pos := r.pos + 8 * size }, out ++ r.data.extract start (start + size))

/-- The fixed code of literals and lengths. -/
def fixedLiterals : List Nat :=
  List.replicate 144 8 ++ List.replicate 112 9 ++ List.replicate 24 7 ++ List.replicate 8 8

/-- The order in which the lengths of the code for lengths are written. -/
def lengthOrder : List Nat := [16, 17, 18, 0, 8, 7, 9, 6, 10, 5, 11, 4, 12, 3, 13, 2, 14, 1, 15]

/-- The lengths of code words, themselves written in a code. -/
def lengthsFrom (code : Code) (total : Nat) : Nat → List Nat → Reader →
    Option (List Nat × Reader)
  | 0, _, _ => none
  | fuel + 1, acc, r =>
    if acc.length == total then some (acc.reverse, r)
    else do
      let (s, r) ← code.next r
      if s < 16 then lengthsFrom code total fuel (s :: acc) r
      else
        let (value, count, r) ←
          if s == 16 then do
            let previous ← acc.head?
            let (n, r) ← r.bits 2
            some (previous, n + 3, r)
          else if s == 17 then (r.bits 3).map fun (n, r) => (0, n + 3, r)
          else (r.bits 7).map fun (n, r) => (0, n + 11, r)
        if acc.length + count > total then none
        else lengthsFrom code total fuel (List.replicate count value ++ acc) r

/-- The codes of a block that brings its own. -/
def ownCodes (r : Reader) : Option (Code × Code × Reader) := do
  let (a, r) ← r.bits 5
  let (b, r) ← r.bits 5
  let (c, r) ← r.bits 4
  let literals := a + 257
  let distances := b + 1
  if literals > 286 || distances > 30 then none
  let (lens, r) ← (List.range (c + 4)).foldlM (fun (ls, r) _ =>
    (Reader.bits 3 r).map fun (n, r) => (n :: ls, r)) ([], r)
  let given := lengthOrder.zip lens.reverse
  let code ← Code.ofLengths ((List.range 19).map fun i => (given.lookup i).getD 0)
  let (all, r) ← lengthsFrom code (literals + distances) (literals + distances + 1) [] r
  return (← Code.ofLengths (all.take literals), ← Code.ofLengths (all.drop literals), r)

/-- Block after block up to the last one. -/
def blocks : Nat → Reader → Array UInt8 → Option (Reader × Array UInt8)
  | 0, _, _ => none
  | fuel + 1, r, out => do
    let (last, r) ← r.bit
    let (kind, r) ← r.bits 2
    let budget := 8 * r.data.size + 1
    let (r, out) ← match kind with
      | 0 => stored r out
      | 1 => do
        let literals ← Code.ofLengths fixedLiterals
        let distances ← Code.ofLengths (List.replicate 32 5)
        symbols literals distances budget r out
      | 2 => do
        let (literals, distances, r) ← ownCodes r
        symbols literals distances budget r out
      | _ => none
    if last == 1 then return (r, out) else blocks fuel r out

/-- The bytes of a deflate stream, and where it ends. -/
def inflate (r : Reader) : Option (Reader × Array UInt8) := blocks (8 * r.data.size + 1) r #[]

end SceneForge.Inflate

namespace SceneForge.Zlib

/-- The bytes of a zlib stream: two bytes of header, the compressed bytes, and their sum. -/
def decode (data : Bytes) : Option Bytes :=
  match data with
  | cmf :: flags :: rest => do
    if cmf &&& 0x0f != 8 || cmf >>> 4 > 7 || (cmf.toNat * 256 + flags.toNat) % 31 != 0 ||
        flags &&& 0x20 != 0 then none
    let (r, out) ← Inflate.inflate { data := rest.toArray }
    match rest.drop (r.align.pos / 8) with
    | a :: b :: c :: d :: _ =>
      let bytes := out.toList
      if adler32 bytes == bigEndian32 a b c d then some bytes else none
    | _ => none
  | _ => none

/-- Stored blocks of at most 65535 bytes. -/
def storedBlocks : Nat → Bytes → Bytes
  | 0, _ => []
  | fuel + 1, bytes =>
    let part := bytes.take 65535
    let rest := bytes.drop 65535
    let n := part.length.toUInt16
    [if rest.isEmpty then 1 else 0, n.toUInt8, (n >>> 8).toUInt8, (~~~n).toUInt8,
      (~~~n >>> 8).toUInt8] ++ part ++ (if rest.isEmpty then [] else storedBlocks fuel rest)

/-- A zlib stream that only stores. -/
def store (bytes : Bytes) : Bytes :=
  [0x78, 0x01] ++ storedBlocks (bytes.length + 1) bytes ++ bigEndianBytes (adler32 bytes)

end SceneForge.Zlib
