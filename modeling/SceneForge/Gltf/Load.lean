import SceneForge.Depot.Files
import SceneForge.Document.Validity
import SceneForge.Gltf.Accessor
import SceneForge.Gltf.Container
import SceneForge.Gltf.Location
import SceneForge.Gltf.Schema
import SceneForge.Picture.Format
import SceneForge.Text.Base64

set_option autoImplicit false

/-!
# Loading documents

A document file is split, its text is read and held to the shape of documents, its buffers are
fetched, and what it says is put together as a `Document`, which then has to be valid.

## Main definitions

* `SceneForge.Gltf.fetchBuffers` — the contents of the buffers of a document.
* `SceneForge.Gltf.assemble` — the document that a value and its buffers describe.
* `SceneForge.Document.load` — the document at a location.
-/

namespace SceneForge.Gltf

open Json (Value)

/-! ## Buffers -/

/-- The bytes written behind one of some starts. -/
def inlineBytes (starts : List String) (uri : String) : Except Failure Bytes :=
  match Text.Base64.decode? ((payload? starts uri).getD []) with
  | some data => .ok data
  | none => .error (.plain "illegal base64 data")

/-- The contents of a file next to the document. -/
def readBeside (dir name : String) : Job Bytes :=
  if !isFileName name then Job.fail (.onPath "read" name "invalid argument")
  else Job.mapFailure (fun _ => .onPath "read" name "file does not exist")
    (Job.readAll (inDirectory dir name))

/-- The contents of a buffer that is not part of the container. A reference that stands for no file
leaves the buffer empty. -/
def fetchBuffer (dir : String) (v : Value) : Job Bytes := do
  let length := (v.field "byteLength").naturalD
  let uri := (v.field "uri").textD
  if length = 0 then Job.fail (.plain "gltf: Invalid buffer.byteLength value = 0")
  else if uri.isEmpty then Job.fail (.plain "gltf: buffer without URI")
  else if uri.startsWith bufferScheme then Job.ofExcept (inlineBytes [bufferScheme] uri)
  else if !isAllowed uri then
    Job.fail (.plain ("gltf: Invalid buffer.uri value '" ++ uri ++ "'"))
  else
    match fileFor? uri with
    | none => return []
    | some name => return (← readBeside dir name).take length

/-- The contents of the first buffer of a container. -/
def embeddedBuffer (rest : Bytes) (v : Value) : Except Failure Bytes :=
  let length := (v.field "byteLength").naturalD
  if length = 0 then .error (.plain "gltf: Invalid buffer.byteLength value = 0")
  else Container.chunk rest length

/-- The contents of all buffers. The first one is part of the container, if there is one. -/
def fetchBuffers (dir : String) (rest : Option Bytes) (vs : List Value) : Job (List Bytes) := do
  match rest, vs with
  | some bytes, v :: vs =>
    let first ← Job.ofExcept (embeddedBuffer bytes v)
    return first :: (← vs.mapM (fetchBuffer dir))
  | _, vs => vs.mapM (fetchBuffer dir)

/-! ## Entries -/

/-- An optional index. -/
def ref (v : Value) (name : String) : Ref := (v.get? name).map fun i => (i.naturalD : Int)

/-- A list of indices. -/
def indexList (v : Value) : List Int := v.items.map fun i => (i.naturalD : Int)

/-- Whether numbers are pairwise equal; zero equals its negative. -/
def allSame (xs ys : List Single) : Bool :=
  xs.length == ys.length && (xs.zip ys).all fun (x, y) => x.same y

/-- The numbers of a vector, or its defaults if they are all zero. -/
def vectorOr (v : Value) (defaults : List Single) : List Single :=
  let xs := v.vector defaults
  if xs.all fun x => x.same 0 then defaults else xs

/-- The columns of a list of sixteen numbers. -/
def toMat4 (xs : List Single) : Mat4 Single :=
  let column (i : Nat) : Vec4 Single := Source.toVec4 (xs.drop (4 * i))
  ⟨column 0, column 1, column 2, column 3⟩

/-- A rotation of four numbers. -/
def toQuat (xs : List Single) : Quat Single :=
  ⟨xs.getD 0 0, xs.getD 1 0, xs.getD 2 0, xs.getD 3 0⟩

/-- The numbers of the matrix that moves nothing. -/
def identityNumbers : List Single := (Mat4.identity : Mat4 Single).toList

/-- The placement of a node. The matrix that moves nothing counts as none. -/
def placement (v : Value) : Document.Placement :=
  let numbers := vectorOr (v.field "matrix") identityNumbers
  { matrix := if allSame numbers identityNumbers then none else some (toMat4 numbers)
    shift := Source.toVec3 ((v.field "translation").vector [0, 0, 0])
    rotation := toQuat (vectorOr (v.field "rotation") [0, 0, 0, 1])
    scale := Source.toVec3 (vectorOr (v.field "scale") [1, 1, 1]) }

/-- A node. -/
def node (v : Value) : Document.Node where
  name := (v.field "name").textD
  children := indexList (v.field "children")
  mesh := ref v "mesh"
  skin := ref v "skin"
  placement := placement v

/-- A material. -/
def material (v : Value) : Document.Material :=
  let pbr := v.field "pbrMetallicRoughness"
  let slot (name : String) : Ref :=
    (pbr.get? name).map fun use => ((use.field "index").naturalD : Int)
  { name := (v.field "name").textD
    baseColorTexture := slot "baseColorTexture"
    metallicRoughnessTexture := slot "metallicRoughnessTexture"
    normalTexture := ref (v.field "normalTexture") "index"
    baseColorFactor := match pbr.get? "baseColorFactor" with
      | some f => Source.toVec4 (f.vector [0, 0, 0, 0])
      | none => ⟨1, 1, 1, 1⟩
    metallicFactor := (pbr.field "metallicFactor").single?.getD 1
    roughnessFactor := (pbr.field "roughnessFactor").single?.getD 1 }

/-- The accessor that a primitive names for an attribute. Names of attributes are exact. -/
def attribute? (v : Value) (name : String) : Option Nat :=
  match v.field "attributes" with
  | .object fields => (fields.reverse.find? fun f => f.1 == name).map fun f => f.2.naturalD
  | _ => none

/-- What an accessor outside the document amounts to. -/
def missingAccessor (i : Nat) : Failure := Document.badReference ("accessor " ++ toString i)

/-- The stream of an attribute; one whose accessor is not there is left out. -/
def stream {α : Type} (s : Source) (v : Value) (name context : String)
    (read : Source → Accessor → Except Failure (List α)) : Except Failure (List α) :=
  match (attribute? v name).bind fun i => s.accessors[i]? with
  | none => .ok []
  | some a => inContext ("reading " ++ context) (read s a)

/-- The vertex numbers of a primitive. -/
def vertexNumbers (s : Source) (v : Value) : Except Failure (Option (List UInt32)) :=
  match v.get? "indices" with
  | none => .ok none
  | some i =>
    match s.accessors[i.naturalD]? with
    | none => .error (missingAccessor i.naturalD)
    | some a => inContext "reading indices" (s.indices a)

/-- Whether a mode of drawing is that of single triangles, as every unknown mode is. -/
def drawsTriangles (v : Value) : Bool :=
  match (v.field "mode").natural? with
  | some n => !([0, 1, 2, 3, 5, 6].contains n)
  | none => true

/-- A primitive. One without positions has no other streams either. -/
def primitive (s : Source) (v : Value) : Except Failure Document.Primitive := do
  let bare : Document.Primitive := { material := ref v "material", triangles := drawsTriangles v }
  match attribute? v "POSITION" with
  | none => return bare
  | some i =>
    if s.accessors.length ≤ i then throw (missingAccessor i)
    return { bare with
      positions := ← stream s v "POSITION" "positions" Source.vectors3
      normals := ← stream s v "NORMAL" "normals" Source.vectors3
      texCoords := ← stream s v "TEXCOORD_0" "texture coordinates" Source.coordinates
      joints := ← stream s v "JOINTS_0" "joints" Source.joints
      weights := ← stream s v "WEIGHTS_0" "weights" Source.weights
      indices := ← vertexNumbers s v }

/-- A mesh by its number. -/
def shape (s : Source) (v : Value) (i : Nat) : Except Failure Document.Shape := do
  let primitives ← (v.field "primitives").items.zipIdx.mapM fun (p, j) =>
    inContext ("mesh " ++ toString i ++ " primitive " ++ toString j) (primitive s p)
  return ⟨(v.field "name").textD, primitives⟩

/-- An image by its number. -/
def image (v : Value) (i : Nat) : Except Failure Document.Image := do
  let uri := (v.field "uri").textD
  let mime := (v.field "mimeType").textD
  let bare : Document.Image := { name := (v.field "name").textD, mime, view := ref v "bufferView" }
  if (payload? imageSchemes uri).isNone then return { bare with uri }
  else
    let data ← inContext ("image " ++ toString i) (inlineBytes imageSchemes uri)
    return { bare with data, mime := if mime.isEmpty then mediaType uri else mime }

/-- The encoding that the first bytes of an image show. -/
def sniffed (data : Bytes) : ImageType :=
  match Signature.recognize data with
  | some "jpg" => .jpg
  | some "png" => .png
  | _ => .unknown

/-- The encoding that the extension of a location promises. -/
def promised (uri : String) : ImageType :=
  match Text.toLower (Path.ext uri) with
  | ".jpg" => .jpg
  | ".jpeg" => .jpg
  | ".png" => .png
  | _ => .unknown

/-- The first encoding that is known. -/
def firstKnown (types : List ImageType) : ImageType :=
  (types.find? (· != .unknown)).getD .unknown

/-- The encoding of an image: by its media type, its bytes, or its location. -/
def imageType (doc : Document) (image : Document.Image) (i : Nat) : ImageType :=
  let shown := if !image.embedded then .unknown
    else
      match doc.imageData i with
      | .ok data => sniffed data
      | .error _ => .unknown
  firstKnown [.ofMime image.mime, shown, promised image.uri]

/-- The document that a value and the contents of its buffers describe. -/
def assemble (v : Value) (buffers : List Bytes) : Except Failure Document := do
  let entries (name : String) : List Value := (v.field name).items
  let views := (entries "bufferViews").map ViewRange.ofValue
  let source : Source := ⟨(entries "accessors").map Accessor.ofValue, views, buffers⟩
  let meshes ← (entries "meshes").zipIdx.mapM fun (m, i) => shape source m i
  let images ← (entries "images").zipIdx.mapM fun (m, i) => image m i
  let doc : Document :=
    { scenes := (entries "scenes").map fun s => ⟨(s.field "name").textD, indexList (s.field "nodes")⟩
      defaultScene := ref v "scene"
      nodes := (entries "nodes").map node
      meshes
      materials := (entries "materials").map material
      textures := (entries "textures").map fun t => ⟨(t.field "name").textD, ref t "source"⟩
      images
      views := views.map fun r =>
        ⟨Int64.ofNat r.buffer, Int64.ofNat r.offset, Int64.ofNat r.length⟩
      buffers := ((entries "buffers").zip buffers).map fun (b, data) =>
        ⟨(b.field "uri").textD, data⟩
      skins := (entries "skins").map fun s =>
        ⟨(s.field "name").textD, indexList (s.field "joints")⟩ }
  return { doc with
    images := doc.images.zipIdx.map fun (m, i) => { m with type := imageType doc m i } }

/-- The value that a document's text holds, if it has the shape of a document. -/
def readText (text : Bytes) : Except Failure Value :=
  match Json.parse? text with
  | none => .error (.plain "invalid JSON")
  | some v => if documentShape v then .ok v else .error (.plain "unexpected type in document")

/-- The document in a file that lies in a directory. -/
def decode (dir : String) (data : Bytes) : Job Document := do
  let parts ← Job.ofExcept (Container.split data)
  let v ← Job.ofExcept (readText parts.text)
  let buffers ← fetchBuffers dir parts.rest (v.field "buffers").items
  let doc ← Job.ofExcept (assemble v buffers)
  Job.ofExcept doc.validate
  return doc

end SceneForge.Gltf

namespace SceneForge

/-- The valid document at a location. Whatever goes wrong, the document cannot be read. -/
def Document.load (uri : String) : Job Document := do
  let data ← Job.mapFailure (fun f => ⟨.documentParse, [f.message]⟩) (Job.readAll uri)
  Job.mapFailure (fun f => ⟨.documentParse, [uri, f.message]⟩) (Gltf.decode (Gltf.directoryOf uri) data)

end SceneForge
