import SceneForge.Failure
import SceneForge.Geometry.Quat
import SceneForge.Text.Case
import SceneForge.Text.Utf8

set_option autoImplicit false

/-!
# Scene documents

A document is a scene graph as it was read: sequences of nodes, meshes, materials, images and so
on that refer to one another by index. Nothing here promises that the indices are in range; that is
what validation is for.

## Main definitions

* `SceneForge.Document` and the entries of its sequences.
* `SceneForge.at?` — the entry of a sequence at an arbitrary integer.
* `SceneForge.Document.imageData`, `SceneForge.Document.viewData` — the bytes of an embedded image.
* `SceneForge.Document.roots` — the nodes from which a scene is traversed.
-/

namespace SceneForge

/-- An optional index into a sequence. -/
abbrev Ref := Option Int

/-- A reference as shown in messages. -/
def Ref.text : Ref → String
  | none => "none"
  | some i => "#" ++ toString i

/-- Whether a reference is absent or lies within a sequence of length `n`. -/
def Ref.validFor (r : Ref) (n : Nat) : Bool :=
  match r with
  | none => true
  | some i => 0 ≤ i && i < n

/-- The entry at an index, if the index lies in the sequence. -/
def at? {α : Type} (xs : List α) (i : Int) : Option α :=
  if i < 0 then none else xs[i.toNat]?

/-- The declared encoding of an image. -/
inductive ImageType where
  /-- Not declared. -/
  | unknown
  /-- PNG. -/
  | png
  /-- JPEG. -/
  | jpg
deriving DecidableEq, Inhabited

namespace ImageType

/-- The extension under which an image is written out: whatever is not JPEG is written as PNG. -/
def ext : ImageType → String
  | jpg => "jpg"
  | _ => "png"

/-- The type that a media type stands for. -/
def ofMime (mime : String) : ImageType :=
  match Text.toLower mime with
  | "image/jpeg" => jpg
  | "image/jpg" => jpg
  | "image/png" => png
  | _ => unknown

end ImageType

namespace Document

/-- A scene: its root nodes. -/
structure SceneRoots where
  /-- Name. -/
  name : String := ""
  /-- Root nodes. -/
  nodes : List Int := []
deriving DecidableEq, Inhabited

/-- The transform of a node relative to its parent. -/
structure Placement where
  /-- The matrix, if one is given outright. -/
  matrix : Option (Mat4 Single) := none
  /-- Shift, along each axis. -/
  shift : Vec3 Single := .zero
  /-- Rotation. -/
  rotation : Quat Single := .identity
  /-- Scale. -/
  scale : Vec3 Single := ⟨1, 1, 1⟩
deriving DecidableEq, Inhabited

/-- A node of the scene graph. -/
structure Node where
  /-- Name. -/
  name : String := ""
  /-- Child nodes. -/
  children : List Int := []
  /-- The mesh shown at the node. -/
  mesh : Ref := none
  /-- The skin that deforms the mesh. -/
  skin : Ref := none
  /-- The transform relative to the parent. -/
  placement : Placement := {}
deriving DecidableEq, Inhabited

/-- The transform of a node relative to its parent: the matrix if there is one, otherwise
shift after rotation after scale. -/
def Node.local (n : Node) : Mat4 Single :=
  match n.placement.matrix with
  | some m => m
  | none => Mat4.ofTRS n.placement.shift n.placement.rotation n.placement.scale

/-- Vertex streams with the triangles or other shapes drawn from them. -/
structure Primitive where
  /-- Positions. -/
  positions : List (Vec3 Single) := []
  /-- Normals. -/
  normals : List (Vec3 Single) := []
  /-- Texture coordinates. -/
  texCoords : List (Vec2 Single) := []
  /-- Joint numbers, four per vertex. -/
  joints : List (Vec4 UInt16) := []
  /-- Joint weights, four per vertex. -/
  weights : List (Vec4 Single) := []
  /-- Vertex numbers; absent when the vertices are used in order. -/
  indices : Option (List UInt32) := none
  /-- Material. -/
  material : Ref := none
  /-- Whether the primitive is a list of triangles. -/
  triangles : Bool := true
deriving DecidableEq, Inhabited

/-- A mesh: a list of primitives. -/
structure Shape where
  /-- Name. -/
  name : String := ""
  /-- Primitives. -/
  primitives : List Primitive := []
deriving DecidableEq, Inhabited

/-- A metallic-roughness material. -/
structure Material where
  /-- Name. -/
  name : String := ""
  /-- Texture of the base colour. -/
  baseColorTexture : Ref := none
  /-- Texture of metalness and roughness. -/
  metallicRoughnessTexture : Ref := none
  /-- Normal map. -/
  normalTexture : Ref := none
  /-- Factor of the base colour. -/
  baseColorFactor : Vec4 Single := ⟨1, 1, 1, 1⟩
  /-- Factor of the metalness. -/
  metallicFactor : Single := 1
  /-- Factor of the roughness. -/
  roughnessFactor : Single := 1
deriving DecidableEq, Inhabited

/-- A texture: a use of an image. -/
structure Texture where
  /-- Name. -/
  name : String := ""
  /-- Image. -/
  source : Ref := none
deriving DecidableEq, Inhabited

/-- An image. Its bytes are in the document if they were given inline or lie behind a view;
otherwise `uri` names a file outside. -/
structure Image where
  /-- Name. -/
  name : String := ""
  /-- Location of an external file. -/
  uri : String := ""
  /-- Declared media type. -/
  mime : String := ""
  /-- Encoding, as far as it is known. -/
  type : ImageType := .unknown
  /-- View that holds the bytes. -/
  view : Ref := none
  /-- Bytes given inline. -/
  data : Bytes := []
deriving DecidableEq, Inhabited

/-- Whether the document owns the bytes of an image. -/
def Image.embedded (i : Image) : Bool := !i.data.isEmpty || i.view.isSome

/-- A range of a buffer, in machine integers. -/
structure View where
  /-- Buffer. -/
  buffer : Int64 := 0
  /-- First byte. -/
  offset : Int64 := 0
  /-- Number of bytes. -/
  length : Int64 := 0
deriving DecidableEq, Inhabited

/-- A block of binary data. -/
structure Buffer where
  /-- Where the data came from. -/
  uri : String := ""
  /-- The data. -/
  data : Bytes := []
deriving DecidableEq, Inhabited

/-- A skin: the nodes that act as joints. -/
structure Skin where
  /-- Name. -/
  name : String := ""
  /-- Joint nodes. -/
  joints : List Int := []
deriving DecidableEq, Inhabited

end Document

/-- A scene document. -/
structure Document where
  /-- Scenes. -/
  scenes : List Document.SceneRoots := []
  /-- The scene to show. -/
  defaultScene : Ref := none
  /-- Nodes. -/
  nodes : List Document.Node := []
  /-- Meshes. -/
  meshes : List Document.Shape := []
  /-- Materials. -/
  materials : List Document.Material := []
  /-- Textures. -/
  textures : List Document.Texture := []
  /-- Images. -/
  images : List Document.Image := []
  /-- Views into the buffers. -/
  views : List Document.View := []
  /-- Buffers. -/
  buffers : List Document.Buffer := []
  /-- Skins. -/
  skins : List Document.Skin := []
deriving DecidableEq, Inhabited

namespace Document

/-! ## Image bytes -/

/-- A failure by a reference that leads nowhere. -/
def badReference (text : String) : Failure := ⟨.invalidReference, [text]⟩

/-- The failure of cutting out a range that ends before it starts. -/
def badSlice : Failure := .plain "slice bounds out of range"

/-- The bytes of a view. The end of the range is a machine sum; a range that starts or extends below
zero, or ends beyond the data, is refused. A sum that wraps around passes as the end of a range that
cannot be cut out. -/
def viewData (d : Document) (i : Int) : Except Failure Bytes :=
  let here := "buffer view " ++ toString i
  match at? d.views i with
  | none => .error (badReference here)
  | some v =>
    match at? d.buffers v.buffer.toInt with
    | none => .error (badReference (here ++ ": buffer " ++ toString v.buffer.toInt))
    | some b =>
      let stop := v.offset + v.length
      if v.offset < 0 || v.length < 0 || stop.toInt > b.data.length then
        .error (badReference (here ++ ": range [" ++ toString v.offset.toInt ++ ":" ++
          toString stop.toInt ++ "] of " ++ toString b.data.length ++ " bytes"))
      else if stop < v.offset then .error badSlice
      else .ok ((b.data.drop v.offset.toInt.toNat).take (stop.toInt - v.offset.toInt).toNat)

/-- The bytes of an embedded image. -/
def imageData (d : Document) (i : Int) : Except Failure Bytes :=
  match at? d.images i with
  | none => .error (badReference ("image " ++ toString i))
  | some image =>
    if !image.data.isEmpty then .ok image.data
    else
      match image.view with
      | none => .error ⟨.externalImage, ["image " ++ toString i ++ " (" ++ image.uri ++ ")"]⟩
      | some v => d.viewData v

/-- How many images are embedded. -/
def embeddedCount (d : Document) : Nat := (d.images.filter (·.embedded)).length

/-! ## Roots -/

/-- The nodes that occur in no list of children. -/
def orphans (d : Document) : List Int :=
  (List.range d.nodes.length).map Int.ofNat |>.filter fun i =>
    !d.nodes.any fun n => n.children.contains i

/-- The nodes from which the document is traversed: those of the default scene, or of the first
scene, or without any scene every node that is nobody's child. -/
def roots (d : Document) : List Int :=
  let first := match d.scenes with
    | s :: _ => s.nodes
    | [] => d.orphans
  match d.defaultScene with
  | none => first
  | some i =>
    match at? d.scenes i with
    | some s => s.nodes
    | none => first

end Document

end SceneForge
