import SceneForge.Text.Utf8

set_option autoImplicit false

/-!
# Checksums

## Main definitions

* `SceneForge.crc32` — the cyclic checksum of PNG chunks.
* `SceneForge.adler32` — the sum at the end of a zlib stream.
* `SceneForge.bigEndian32` — four bytes, the highest first.
-/

namespace SceneForge

/-- One bit of a cyclic checksum. -/
def crcBit (c : UInt32) : UInt32 :=
  if c &&& 1 != 0 then (c >>> 1) ^^^ 0xedb88320 else c >>> 1

/-- One byte of a cyclic checksum. -/
def crcByte (c : UInt32) (b : UInt8) : UInt32 :=
  (List.range 8).foldl (fun c _ => crcBit c) (c ^^^ b.toUInt32)

/-- The cyclic checksum of some bytes. -/
def crc32 (bytes : Bytes) : UInt32 := bytes.foldl crcByte 0xffffffff ^^^ 0xffffffff

/-- The pair of sums of some bytes, as one word. -/
def adler32 (bytes : Bytes) : UInt32 :=
  let (a, b) := bytes.foldl (fun (a, b) x =>
    let a := (a + x.toNat) % 65521
    (a, (b + a) % 65521)) (1, 0)
  (b * 65536 + a).toUInt32

/-- Four bytes as a word, the highest first. -/
def bigEndian32 (a b c d : UInt8) : UInt32 :=
  a.toUInt32 <<< 24 ||| b.toUInt32 <<< 16 ||| c.toUInt32 <<< 8 ||| d.toUInt32

/-- A word as four bytes, the highest first. -/
def bigEndianBytes (w : UInt32) : Bytes :=
  [(w >>> 24).toUInt8, (w >>> 16).toUInt8, (w >>> 8).toUInt8, w.toUInt8]

end SceneForge
