import SceneForge.Picture.Bitmap
import SceneForge.Picture.Jpeg.Reader
import SceneForge.Picture.Png

set_option autoImplicit false

/-!
# Picture formats

The format of a picture is told by its first bytes, and they decide which decoder reads it.

## Main definitions

* `SceneForge.Signature` — bytes that files of a format have at fixed places.
* `SceneForge.Signature.recognize` — the format that the first bytes of a file tell.
* `SceneForge.Picture.read` — the picture in a PNG, JPEG or BMP file.
-/

namespace SceneForge

/-- Bytes that every file of a format has at fixed places. -/
structure Signature where
  /-- The format, named by its usual extension. -/
  format : String
  /-- Places and the bytes there. -/
  marks : List (Nat × Bytes)
  /-- The fewest bytes such a file has. -/
  least : Nat := 0

namespace Signature

/-- Whether some bytes have the signature. -/
def holds (s : Signature) (data : Bytes) : Bool :=
  s.least ≤ data.length && s.marks.all fun (start, mark) => (data.drop start).take mark.length == mark

/-- A signature that stands at the start of a file. -/
def leading (format : String) (mark : Bytes) : Signature := ⟨format, [(0, mark)], 0⟩

/-- The signatures that are known, in the order in which they are tried. -/
def known : List Signature := [
  leading "jpg" [0xff, 0xd8, 0xff],
  leading "png" [0x89, 0x50, 0x4e, 0x47],
  leading "gif" [0x47, 0x49, 0x46],
  ⟨"webp", [(8, [0x57, 0x45, 0x42, 0x50])], 0⟩,
  ⟨"cr2", [(0, [0x49, 0x49, 0x2a, 0x00]), (8, [0x43, 0x52, 0x02])], 0⟩,
  ⟨"tif", [(0, [0x49, 0x49, 0x2a, 0x00])], 11⟩,
  ⟨"tif", [(0, [0x4d, 0x4d, 0x00, 0x2a])], 11⟩,
  leading "bmp" [0x42, 0x4d],
  leading "jxr" [0x49, 0x49, 0xbc],
  leading "psd" [0x38, 0x42, 0x50, 0x53],
  leading "ico" [0x00, 0x00, 0x01, 0x00],
  leading "zip" [0x50, 0x4b, 0x03, 0x04],
  leading "gz" [0x1f, 0x8b, 0x08],
  leading "pdf" [0x25, 0x50, 0x44, 0x46],
  leading "exe" [0x4d, 0x5a],
  leading "ps" [0x25, 0x21],
  leading "ttf" [0x00, 0x01, 0x00, 0x00, 0x00]]

/-- The format that the first bytes of a file tell, if they tell any. -/
def recognize (data : Bytes) : Option String := (known.find? (·.holds data)).map (·.format)

end Signature

namespace Picture

/-- The decoder for files that start like these. -/
def decoderFor? (data : Bytes) : Option (Bytes → Option Picture) :=
  if data.take 8 == Png.magic then some Png.decode?
  else if Jpeg.matchesMagic data then some Jpeg.decode?
  else if Bitmap.matchesMagic data then some Bitmap.decode?
  else none

/-- The picture in a file, or why it cannot be read. The first bytes alone decide how it is read. -/
def read (data : Bytes) : Except String Picture :=
  match decoderFor? data with
  | none => .error "image: unknown format"
  | some decode? =>
    match decode? data with
    | none => .error "malformed picture"
    | some p => .ok p

end Picture

end SceneForge
