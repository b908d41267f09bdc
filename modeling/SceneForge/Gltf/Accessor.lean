import SceneForge.Document.Basic
import SceneForge.Json.Shape

set_option autoImplicit false

/-!
# Accessors

An accessor gives a meaning to a range of a buffer: so many elements of so many components. A sparse
accessor replaces some of its elements, or fills some in where there were none.

## Main definitions

* `SceneForge.Gltf.Component`, `SceneForge.Gltf.ElementKind` — what elements consist of.
* `SceneForge.Gltf.Accessor`, `SceneForge.Gltf.Source` — accessors and the data they refer to.
* `SceneForge.Gltf.Source.elements` — the elements of an accessor as lists of words.
* `SceneForge.Gltf.Source.vectors3` and its companions — the elements as vectors or numbers.
-/

namespace SceneForge.Gltf

open Json (Value)

/-- The component types. -/
inductive Component where
  /-- Single precision. -/
  | float
  /-- Signed, eight bits. -/
  | int8
  /-- Unsigned, eight bits. -/
  | uint8
  /-- Signed, sixteen bits. -/
  | int16
  /-- Unsigned, sixteen bits. -/
  | uint16
  /-- Unsigned, thirty-two bits. -/
  | uint32
deriving DecidableEq, Inhabited

namespace Component

/-- The component type of a code; unknown codes stand for single precision. -/
def ofCode : Nat → Component
  | 5120 => int8
  | 5121 => uint8
  | 5122 => int16
  | 5123 => uint16
  | 5125 => uint32
  | _ => float

/-- The size in bytes. -/
def size : Component → Nat
  | int8 | uint8 => 1
  | int16 | uint16 => 2
  | uint32 | float => 4

/-- The number that a word stands for as an index. -/
def index (c : Component) (word : Nat) : Int :=
  match c with
  | float => (Single.mk word.toUInt32).toFloat.toInt64.toInt
  | int8 => if word < 128 then word else (word : Int) - 256
  | int16 => if word < 32768 then word else (word : Int) - 65536
  | _ => word

/-- The fraction that a word stands for. -/
def fraction (c : Component) (word : Nat) : Single :=
  match c with
  | float => ⟨word.toUInt32⟩
  | uint8 => Single.ofNat word / Single.ofNat 255
  | _ => Single.ofNat word / Single.ofNat 65535

end Component

/-- The element kinds. -/
inductive ElementKind where
  /-- One number. -/
  | scalar
  /-- Two numbers. -/
  | vec2
  /-- Three numbers. -/
  | vec3
  /-- Four numbers. -/
  | vec4
  /-- A matrix of two columns. -/
  | mat2
  /-- A matrix of three columns. -/
  | mat3
  /-- A matrix of four columns. -/
  | mat4
deriving DecidableEq, Inhabited

namespace ElementKind

/-- The element kind of a name; unknown names stand for numbers. -/
def ofName : String → ElementKind
  | "VEC2" => vec2
  | "VEC3" => vec3
  | "VEC4" => vec4
  | "MAT2" => mat2
  | "MAT3" => mat3
  | "MAT4" => mat4
  | _ => scalar

/-- The number of components. -/
def count : ElementKind → Nat
  | scalar => 1
  | vec2 => 2
  | vec3 => 3
  | vec4 => 4
  | mat2 => 4
  | mat3 => 9
  | mat4 => 16

/-- The bytes that an element of a kind takes: those of vectors and columns fill up four bytes. -/
def size (k : ElementKind) (c : Component) : Nat :=
  match k, c.size with
  | vec2, 1 => 4
  | vec3, 1 => 4
  | vec3, 2 => 8
  | mat2, 1 => 8
  | mat3, 1 => 12
  | mat3, 2 => 24
  | k, s => k.count * s

end ElementKind

/-- A part of a sparse accessor's data. -/
structure Part where
  /-- The view that holds it. -/
  view : Nat
  /-- Where it starts in the view. -/
  offset : Nat
deriving DecidableEq, Inhabited

/-- The elements that a sparse accessor replaces. -/
structure Sparse where
  /-- How many there are. -/
  count : Nat
  /-- The numbers of the elements. -/
  indices : Part
  /-- The type of those numbers. -/
  indexType : Component
  /-- The new elements. -/
  values : Part
deriving DecidableEq, Inhabited

/-- An accessor. -/
structure Accessor where
  /-- The data, unless all of it is sparse. -/
  part : Option Part
  /-- What the components are. -/
  component : Component
  /-- How many elements there are. -/
  count : Nat
  /-- What the elements are. -/
  kind : ElementKind
  /-- The elements that are replaced. -/
  sparse : Option Sparse
deriving DecidableEq, Inhabited

/-- A part of an accessor's data. -/
def Part.ofValue (v : Value) : Part :=
  ⟨(v.field "bufferView").naturalD, (v.field "byteOffset").naturalD⟩

/-- The accessor that a value describes. -/
def Accessor.ofValue (v : Value) : Accessor where
  part := (v.get? "bufferView").map fun _ => .ofValue v
  component := .ofCode (v.field "componentType").naturalD
  count := (v.field "count").naturalD
  kind := .ofName (v.field "type").textD
  sparse := (v.get? "sparse").map fun s =>
    let indices := s.field "indices"
    { count := (s.field "count").naturalD
      indices := .ofValue indices
      indexType := .ofCode (indices.field "componentType").naturalD
      values := .ofValue (s.field "values") }

/-- A range of a buffer. -/
structure ViewRange where
  /-- Buffer. -/
  buffer : Nat
  /-- First byte. -/
  offset : Nat
  /-- Number of bytes. -/
  length : Nat
  /-- Bytes from one element to the next; zero if the elements follow each other closely. -/
  stride : Nat
deriving DecidableEq, Inhabited

/-- The range that a value describes. -/
def ViewRange.ofValue (v : Value) : ViewRange where
  buffer := (v.field "buffer").naturalD
  offset := (v.field "byteOffset").naturalD
  length := (v.field "byteLength").naturalD
  stride := (v.field "byteStride").naturalD

/-- What accessors refer to. -/
structure Source where
  /-- The accessors. -/
  accessors : List Accessor
  /-- The ranges of buffers. -/
  views : List ViewRange
  /-- The contents of the buffers. -/
  buffers : List Bytes
deriving Inhabited

/-- The failure of an accessor that needs more bytes than there are. -/
def shortBuffer : Failure := .plain "short buffer"

namespace Source

/-- The bytes of a range. -/
def viewBytes (s : Source) (v : ViewRange) : Except Failure Bytes :=
  match s.buffers[v.buffer]? with
  | none => .error (.plain "gltf: buffer out of range")
  | some data =>
    if v.offset + v.length > data.length then .error shortBuffer
    else .ok ((data.drop v.offset).take v.length)

/-- Pieces of a given size at regular distances. -/
def strided (size stride : Nat) : Nat → Bytes → List Bytes
  | 0, _ => []
  | n + 1, bs => bs.take size :: strided size stride n (bs.drop stride)

/-- The words of some bytes, low byte first. -/
def words (size : Nat) : Nat → Bytes → List Nat
  | 0, _ => []
  | n + 1, bs =>
    (bs.take size).foldr (fun b w => b.toNat + 256 * w) 0 :: words size n (bs.drop size)

/-- Elements that lie in a part of the data. -/
def readPart (s : Source) (p : Part) (c : Component) (k : ElementKind) (count : Nat) :
    Except Failure (List (List Nat)) := do
  match s.views[p.view]? with
  | none => throw (.plain "gltf: buffer view out of range")
  | some v =>
    let data ← s.viewBytes v
    let size := k.size c
    let stride := if v.stride = 0 then size else v.stride
    let needed := if count = 0 then 0 else (count - 1) * stride + size
    if p.offset > data.length || needed > data.length - p.offset then throw shortBuffer
    else return (strided size stride count (data.drop p.offset)).map (words c.size k.count)

/-- Elements with some replaced. -/
def replace (elements : List (List Nat)) :
    List (Int × List Nat) → Except Failure (List (List Nat))
  | [] => .ok elements
  | (i, e) :: rest =>
    if i < 0 || i.toNat ≥ elements.length then .error (.plain "gltf: sparse index out of range")
    else replace (elements.set i.toNat e) rest

/-- The elements of an accessor, each a list of words. -/
def elements (s : Source) (a : Accessor) : Except Failure (List (List Nat)) := do
  let start ← match a.part with
    | some p => s.readPart p a.component a.kind a.count
    | none => pure (List.replicate a.count (List.replicate a.kind.count 0))
  match a.sparse with
  | none => return start
  | some sp =>
    let indices ← s.readPart sp.indices sp.indexType .scalar sp.count
    let values ← s.readPart sp.values a.component a.kind sp.count
    replace start ((indices.map fun ws => sp.indexType.index (ws.headD 0)).zip values)

/-- The elements of an accessor that has to have one of some component types and a kind. -/
def elementsOf (s : Source) (components : List Component) (k : ElementKind) (a : Accessor) :
    Except Failure (List (List Nat)) :=
  if !components.contains a.component then .error (.plain "gltf: unexpected component type")
  else if a.kind != k then .error (.plain "gltf: unexpected accessor type")
  else s.elements a

/-- Three numbers. -/
def toVec3 (xs : List Single) : Vec3 Single := ⟨xs.getD 0 0, xs.getD 1 0, xs.getD 2 0⟩

/-- Four numbers. -/
def toVec4 (xs : List Single) : Vec4 Single :=
  ⟨xs.getD 0 0, xs.getD 1 0, xs.getD 2 0, xs.getD 3 0⟩

/-- Component types that hold fractions. -/
def fractional : List Component := [.float, .uint8, .uint16]

/-- Positions or directions. -/
def vectors3 (s : Source) (a : Accessor) : Except Failure (List (Vec3 Single)) := do
  return (← s.elementsOf [.float] .vec3 a).map fun ws => toVec3 (ws.map a.component.fraction)

/-- Texture coordinates. -/
def coordinates (s : Source) (a : Accessor) : Except Failure (List (Vec2 Single)) := do
  return (← s.elementsOf fractional .vec2 a).map fun ws =>
    let xs := ws.map a.component.fraction
    ⟨xs.getD 0 0, xs.getD 1 0⟩

/-- Weights. -/
def weights (s : Source) (a : Accessor) : Except Failure (List (Vec4 Single)) := do
  return (← s.elementsOf fractional .vec4 a).map fun ws => toVec4 (ws.map a.component.fraction)

/-- Joint numbers. -/
def joints (s : Source) (a : Accessor) : Except Failure (List (Vec4 UInt16)) := do
  return (← s.elementsOf [.uint8, .uint16] .vec4 a).map fun ws =>
    let at' (i : Nat) : UInt16 := (ws.getD i 0).toUInt16
    ⟨at' 0, at' 1, at' 2, at' 3⟩

/-- Vertex numbers; an accessor without any counts as absent. -/
def indices (s : Source) (a : Accessor) : Except Failure (Option (List UInt32)) := do
  let found ← s.elementsOf [.uint8, .uint16, .uint32] .scalar a
  return if found.isEmpty then none else some (found.map fun ws => (ws.headD 0).toUInt32)

end Source

end SceneForge.Gltf
