import SceneForge.Path.Basic
import SceneForge.Text.Quoted

set_option autoImplicit false

/-!
# Locations in glTF documents

A buffer outside a document is named by a reference relative to the document. The file that is
looked for has the name of the reference with all unusual characters percent-encoded.

## Main definitions

* `SceneForge.Gltf.isAllowed` — whether a reference stays next to the document.
* `SceneForge.Gltf.fileFor?` — the file that a reference stands for.
* `SceneForge.Gltf.payload?` — the bytes of a reference that holds them itself.
-/

namespace SceneForge.Gltf

/-- Whether a reference stays next to the document. -/
def isAllowed (uri : String) : Bool :=
  !uri.isEmpty && !uri.startsWith "/" && !uri.startsWith "\\" && !uri.contains ".."

/-- Every `/./`, from the left and without overlaps, becomes a slash. -/
def dropDots : List Char → List Char
  | '/' :: '.' :: '/' :: rest => '/' :: dropDots rest
  | c :: rest => c :: dropDots rest
  | [] => []

/-- A reference with slashes only and without steps that lead nowhere. -/
def tidy (uri : String) : List Char :=
  match dropDots (Path.slashed uri.toList) with
  | '.' :: '/' :: rest => rest
  | cs => cs

/-- Whether a character may be part of a scheme. -/
def isSchemeChar (c : Char) : Bool := c.isAlphanum || c == '+' || c == '-' || c == '.'

/-- Whether a reference names a scheme or leaves it out in front of a colon. -/
def hasScheme (cs : List Char) : Bool :=
  match cs with
  | [] => false
  | c :: _ => (c.isAlpha || c == ':') && (cs.dropWhile isSchemeChar).head? == some ':'

/-- Whether the first part of a path has a colon. -/
def colonFirst (cs : List Char) : Bool := (cs.takeWhile (· != '/')).contains ':'

/-- The value of a hexadecimal digit. -/
def hexValue? (b : UInt8) : Option Nat :=
  let n := b.toNat
  if 48 ≤ n && n ≤ 57 then some (n - 48)
  else if 97 ≤ n && n ≤ 102 then some (n - 87)
  else if 65 ≤ n && n ≤ 70 then some (n - 55)
  else none

/-- Bytes with percent codes resolved; every percent sign has to start a code. -/
def unescape? : Bytes → Option Bytes
  | 0x25 :: a :: b :: rest => do
    let high ← hexValue? a
    let low ← hexValue? b
    return (high * 16 + low).toUInt8 :: (← unescape? rest)
  | b :: rest => if b == 0x25 then none else do return b :: (← unescape? rest)
  | [] => some []

/-- Whether a byte of a path stands for itself. -/
def isPlain (b : UInt8) : Bool :=
  let c := Char.ofNat b.toNat
  b < 128 && (c.isAlphanum || "-_.~$&+,/:;=@".toList.contains c)

/-- Whether a byte may stand in an encoded path. -/
def isEncoded (b : UInt8) : Bool :=
  isPlain b || (b < 128 && "!'()*[]%".toList.contains (Char.ofNat b.toNat))

/-- The two digits of a percent code. -/
def codeDigits (b : UInt8) : List Char :=
  (Text.hex 2 b.toNat).toList.map Char.toUpper

/-- A path with every unusual byte percent-encoded. -/
def escapeBytes (bs : Bytes) : List Char :=
  bs.flatMap fun b => if isPlain b then [Char.ofNat b.toNat] else '%' :: codeDigits b

/-- The encoded path of a path as it was written. -/
def encodedPath? (cs : List Char) : Option (List Char) := do
  let raw := utf8 (String.ofList cs)
  let plain ← unescape? raw
  return if raw.all isEncoded then cs else escapeBytes plain

/-- A text cut at the first of a character: in front of it, and behind it if it is there. -/
def cutAt (c : Char) (cs : List Char) : List Char × Option (List Char) :=
  (cs.takeWhile (· != c), match cs.dropWhile (· != c) with
    | [] => none
    | _ :: rest => some rest)

/-- The path behind a leading host name. -/
def withoutHost (cs : List Char) : List Char :=
  match cs with
  | '/' :: '/' :: '/' :: _ => cs
  | '/' :: '/' :: rest => rest.dropWhile (· != '/')
  | _ => cs

/-- Whether a character controls rather than shows something. -/
def isControl (c : Char) : Bool := c.toNat < 32 || c.toNat == 127

/-- The file that a reference stands for: its encoded path, and its query if it has one. Absolute
and malformed references stand for no file. -/
def fileFor? (uri : String) : Option String := do
  let (cs, fragment) := cutAt '#' (tidy uri)
  if cs.any isControl || hasScheme cs then none
  let (path, query) := cutAt '?' cs
  if path.head? != some '/' && colonFirst path then none
  let encoded ← encodedPath? (withoutHost path)
  let _ ← unescape? (utf8 (String.ofList (fragment.getD [])))
  let file := match encoded with
    | '/' :: rest => rest
    | file => file
  return String.ofList (file ++ (query.map ('?' :: ·)).getD [])

/-- Whether a name is that of a file next to or below the document. -/
def isFileName (name : String) : Bool :=
  name == "." || (Path.split name.toList).all fun p => p != [] && p != Path.dot && p != Path.dotDot

/-- The part of a location in front of its last name: up to the last slash, or else up to the
colon. -/
def directoryOf (uri : String) : String :=
  let cs := uri.toList
  if cs.contains '/' then String.ofList (Path.uptoSlash cs).dropLast
  else
    match Path.cutColon cs with
    | some (tag, _) => String.ofList (tag ++ [':'])
    | none => ""

/-- The location of a name in a directory. -/
def inDirectory (dir name : String) : String :=
  if dir.isEmpty || dir.endsWith ":" then dir ++ name else dir ++ "/" ++ name

/-! ## References that hold their own bytes -/

/-- The start of a buffer that holds its own bytes. -/
def bufferScheme : String := "data:application/octet-stream;base64"

/-- The starts of images that hold their own bytes. -/
def imageSchemes : List String := ["data:image/jpeg;base64", "data:image/png;base64"]

/-- What follows one of some starts and the comma behind it. -/
def payload? (starts : List String) (uri : String) : Option (List Char) :=
  (starts.find? fun s => uri.startsWith s).map fun s => uri.toList.drop (s.length + 1)

/-- The media type of a reference that holds its own bytes. -/
def mediaType (uri : String) : String :=
  if uri.startsWith "data:" then String.ofList ((uri.toList.drop 5).takeWhile (· != ';')) else ""

end SceneForge.Gltf
