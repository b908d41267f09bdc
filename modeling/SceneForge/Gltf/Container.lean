import SceneForge.Failure
import SceneForge.Text.Utf8

set_option autoImplicit false

/-!
# Binary containers

A document comes as JSON text, or in a container that holds the text and behind it the contents of
the first buffer.

## Main definitions

* `SceneForge.Gltf.Container` — the text of a document and what follows it in the container.
* `SceneForge.Gltf.Container.split` — the parts of a file.
* `SceneForge.Gltf.Container.chunk` — the contents of the first buffer.
-/

namespace SceneForge.Gltf

/-- The parts of a document file. -/
structure Container where
  /-- The text. -/
  text : Bytes
  /-- What follows the text, if the file is a container. -/
  rest : Option Bytes
deriving DecidableEq, Inhabited

/-- The word of four bytes, low byte first. -/
def word (bs : Bytes) : Nat := (bs.take 4).foldr (fun b w => b.toNat + 256 * w) 0

namespace Container

/-- The first bytes of a container. -/
def magic : Bytes := [0x67, 0x6c, 0x54, 0x46]

/-- The size of a container's header. -/
def headerSize : Nat := 20

/-- The kind of a chunk of text. -/
def textChunk : Nat := 0x4e4f534a

/-- The kind of a chunk of bytes. -/
def bytesChunk : Nat := 0x004e4942

/-- The parts of a file. What does not start like a container is text throughout. The header counts
in words, and the sum of its lengths is cut to one. -/
def split (data : Bytes) : Except Failure Container :=
  if data.length < headerSize || data.take 4 != magic then .ok ⟨data, none⟩
  else
    let total := word (data.drop 8)
    let length := word (data.drop 12)
    let body := data.drop headerSize
    if word (data.drop 16) != textChunk then .error (.plain "gltf: Invalid GLB JSON header")
    else if (length + headerSize) % 0x100000000 > total then
      .error (.plain "gltf: Invalid GLB JSON header")
    else .ok ⟨body.take length, some (body.drop length)⟩

/-- So many bytes of the chunk that follows the text. -/
def chunk (rest : Bytes) (length : Nat) : Except Failure Bytes :=
  let body := rest.drop 8
  if rest.length < 8 then .error (.plain "unexpected EOF")
  else if word (rest.drop 4) != bytesChunk || word rest < length then
    .error (.plain "gltf: Invalid GLB BIN header")
  else if body.length < length then .error (.plain "unexpected EOF")
  else .ok (body.take length)

end Container

end SceneForge.Gltf
