import SceneForge.Depot.Files
import SceneForge.Picture.Format
import SceneForge.Picture.Jpeg.Writer
import SceneForge.Picture.Resize
import SceneForge.Picture.Targa
import SceneForge.Text.Case

set_option autoImplicit false

/-!
# Converting pictures to textures

A texture is a PNG or JPEG file whose longer side keeps to a limit. A picture that is one already is
passed through byte by byte; any other is decoded, made smaller if need be, and written anew. Apart
from TGA files, telling formats, decoding, resizing and encoding are the work of libraries, so a
conversion takes them as a parameter.

## Main definitions

* `SceneForge.Texture.Limits` — the largest side and the quality of a texture.
* `SceneForge.Texture.Codecs`, `SceneForge.Texture.Codecs.builtin` — libraries for pictures, and
  those that a run has: PNG, JPEG and BMP.
* `SceneForge.Texture.Tools` — limits and libraries.
* `SceneForge.Texture.encode` — the texture of a picture file.
* `SceneForge.Texture.convert` — the same from file to file, by way of a scratch directory.
-/

namespace SceneForge.Texture

/-- What textures are held to. -/
structure Limits where
  /-- The longest side in pixels; without limit if it is not positive. -/
  maxSize : Int := 2048
  /-- The quality of JPEG textures, 1 to 100; any other number stands for the default. -/
  quality : Int := 90
deriving DecidableEq, Inhabited

/-- The quality that counts. -/
def Limits.effectiveQuality (l : Limits) : Nat :=
  if l.quality ≤ 0 ∨ l.quality > 100 then 90 else l.quality.toNat

/-- Libraries for pictures, which have a type of their own for decoded ones. -/
structure Codecs where
  /-- Decoded pictures. -/
  Image : Type
  /-- The width of a picture. -/
  width : Image → Nat
  /-- The height of a picture. -/
  height : Image → Nat
  /-- The format that the first bytes of a file tell, named by its usual extension. -/
  recognize : Bytes → Option String
  /-- The picture in a file, or why it cannot be read. -/
  read : Bytes → Except String Image
  /-- The picture that was read from a TGA file. -/
  ofTarga : Picture → Image
  /-- A picture in another width and height. -/
  resize : Image → Nat → Nat → Image
  /-- The PNG file of a picture, or why there is none. -/
  writePng : Image → Except String Bytes
  /-- The JPEG file of a picture in some quality, or why there is none. -/
  writeJpeg : Nat → Image → Except String Bytes

/-- The libraries that a run has. -/
def Codecs.builtin : Codecs where
  Image := Picture
  width := Picture.width
  height := Picture.height
  recognize := Signature.recognize
  read := Picture.read
  ofTarga p := p
  resize p width height := ⟨width, height, (p.resize width height).map fun q => .narrow q.divided⟩
  writePng p :=
    if p.width = 0 ∨ p.height = 0 then
      .error ("png: invalid format: invalid image size: " ++ toString p.width ++ "x" ++
        toString p.height)
    else .ok (Png.encode p.width p.height (p.colors.map Color.straight))
  writeJpeg quality p :=
    if p.width ≥ 0x10000 ∨ p.height ≥ 0x10000 then .error "jpeg: image is too large to encode"
    else .ok (Jpeg.encode quality p.width p.height (p.colors.map Color.straight))

/-- What a conversion is done with. -/
structure Tools where
  /-- What textures are held to. -/
  limits : Limits := {}
  /-- The libraries for pictures. -/
  codecs : Codecs := .builtin

/-- A converter: a picture file and a directory for scratch files to a texture in a directory. -/
abbrev Converter := (source scratchDir targetDir : String) → Job Unit

/-- A failed conversion of a file. -/
def failed (source : String) (f : Failure) : Failure := ⟨.conversion, [source, f.message]⟩

/-- The extension of the texture made from a format: JPEG stays JPEG, all else becomes PNG. -/
def extensionFor (format : String) : String := if format == "jpg" then "jpg" else "png"

/-- Whether a format is one that textures have. -/
def isTextureFormat (format : String) : Bool := format == "png" || format == "jpg"

/-- The format of a file: by its first bytes, otherwise by the extension of its name. -/
def formatOf (c : Codecs) (name : String) (data : Bytes) : String :=
  match c.recognize data with
  | some format => format
  | none =>
    let ext := String.ofList ((Text.toLower (Path.ext name)).toList.drop 1)
    if ext == "jpeg" then "jpg" else ext

/-- The picture in a file of a known format. Apart from TGA the bytes alone decide how they are
read. -/
def decode (c : Codecs) (format : String) (data : Bytes) : Except Failure c.Image :=
  if format == "tga" then (Targa.decode data).map c.ofTarga
  else (c.read data).mapError fun reason => .within ("decoding " ++ format) (.plain reason)

/-- The PNG or JPEG file of a picture. -/
def encodeImage (t : Tools) (format : String) (image : t.codecs.Image) : Except Failure Bytes :=
  (if format == "jpg" then t.codecs.writeJpeg t.limits.effectiveQuality image
    else t.codecs.writePng image).mapError fun reason => .within "encoding" (.plain reason)

/-- The texture of a picture file. -/
def encode (t : Tools) (format : String) (data : Bytes) : Except Failure Bytes := do
  let image ← decode t.codecs format data
  match Picture.fitted t.limits.maxSize (t.codecs.width image) (t.codecs.height image) with
  | some (width, height) => encodeImage t format (t.codecs.resize image width height)
  | none => if isTextureFormat format then return data else encodeImage t format image

/-- The name of a file without its extension. -/
def stem (uri : String) : String :=
  String.ofList (Path.dropEnding (Path.baseChars uri.toList) (Path.extChars uri.toList))

/-- A picture file is converted to a texture of the same name. The texture is written to the scratch
directory first. -/
def convert (t : Tools) : Converter := fun source scratchDir targetDir =>
  Job.mapFailure (failed source) do
    let data ← Job.readAll source
    let format := formatOf t.codecs source data
    let ext := extensionFor format
    let scratch := scratchDir ++ "/" ++ stem source ++ "_out." ++ ext
    let texture ← Job.ofExcept (encode t format data)
    Job.writeAll scratch texture
    Job.writeAll (targetDir ++ "/" ++ stem source ++ "." ++ ext) (← Job.readAll scratch)

end SceneForge.Texture
