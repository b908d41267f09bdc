import SceneForge.Depot.Files
import SceneForge.Mesh.Basic
import SceneForge.Mesh.Platform

set_option autoImplicit false

/-!
# The mesh file format

A mesh file is, in this order and in the byte order of its platform: the magic `AMSH`, the platform
code, the version, the flags (bit 0: skinned), the numbers of vertices, of vertex numbers and of
groups, the bounds, the groups, the vertices and the vertex numbers. A group is its name, preceded
by the length of the name, its material or -1, its first position and its count. Floating-point
numbers go through double precision on their way in and out, which makes NaNs quiet.

## Main definitions

* `SceneForge.MeshFile` — what a mesh file holds.
* `SceneForge.MeshFile.encode` — the bytes of a mesh for a platform.
* `SceneForge.MeshFile.decode` — the reader; bytes after the last vertex number are ignored.
* `SceneForge.MeshFile.save`, `SceneForge.MeshFile.load` — mesh files in a depot.
-/

namespace SceneForge

/-- What a mesh file holds. -/
structure MeshFile where
  /-- The platform it was written for. -/
  platform : Platform
  /-- The version of the format. -/
  version : UInt8
  /-- The mesh. -/
  mesh : Mesh
deriving DecidableEq, Inhabited

namespace MeshFile

/-- The first bytes of every mesh file. -/
def magic : Bytes := [0x41, 0x4d, 0x53, 0x48]

/-- The version that is written, and the only one that is read. -/
def currentVersion : UInt8 := 1

/-! ## Writing -/

section Writing

variable (o : ByteOrder)

/-- A number; a NaN is written as a quiet one. -/
def putSingle (a : Single) : Bytes := o.put32 a.settled.bits

/-- Two numbers. -/
def putVec2 (v : Vec2 Single) : Bytes := v.toList.flatMap (putSingle o)

/-- Three numbers. -/
def putVec3 (v : Vec3 Single) : Bytes := v.toList.flatMap (putSingle o)

/-- Four numbers. -/
def putVec4 (v : Vec4 Single) : Bytes := v.toList.flatMap (putSingle o)

/-- The low 32 bits of an integer. -/
def cut32 (n : Int) : UInt32 := (n % 4294967296).toNat.toUInt32

/-- A group. -/
def putGroup (g : Group) : Bytes :=
  o.put16 g.name.length.toUInt16 ++ g.name ++ o.put32 (cut32 (g.material.getD (-1))) ++
    o.put32 (cut32 g.firstIndex) ++ o.put32 (cut32 g.indexCount)

/-- A vertex; joints and weights only if the mesh is skinned. -/
def putVertex (skinned : Bool) (v : Vertex) : Bytes :=
  putVec3 o v.position ++ putVec3 o v.normal ++ putVec2 o v.texCoord ++
    if skinned then v.joints.toList.flatMap o.put16 ++ putVec4 o v.weights else []

/-- Everything after the version. -/
def putBody (m : Mesh) : Bytes :=
  o.put16 (if m.skinned then 1 else 0) ++ o.put32 m.vertices.length.toUInt32 ++
    o.put32 m.indices.length.toUInt32 ++ o.put32 m.groups.length.toUInt32 ++
    putVec3 o m.bounds.min ++ putVec3 o m.bounds.max ++ m.groups.flatMap (putGroup o) ++
    m.vertices.flatMap (putVertex o m.skinned) ++ m.indices.flatMap o.put32

end Writing

/-- The bytes of a mesh for a platform. Unknown platforms and what does not fit the counters are
refused. -/
def encode (m : Mesh) (p : Platform) : Except Failure Bytes :=
  if !p.isKnown then .error ⟨.meshPlatform, [toString p.code.toNat]⟩
  else if m.vertices.length > 0xffffffff || m.indices.length > 0xffffffff then
    .error ⟨.meshTooLarge, []⟩
  else
    match m.groups.find? fun g => g.name.length > 0xffff with
    | some g => .error ⟨.meshTooLarge, ["group name " ++ Text.quoteBytes g.name]⟩
    | none => .ok (magic ++ [p.code, currentVersion] ++ putBody p.order m)

/-! ## Reading -/

section Reading

variable (o : ByteOrder)

/-- A number; a NaN is read as a quiet one. -/
def getSingle (bs : Bytes) : Option (Single × Bytes) := do
  let (w, bs) ← o.get32 bs
  return ((⟨w⟩ : Single).settled, bs)

/-- Two numbers. -/
def getVec2 (bs : Bytes) : Option (Vec2 Single × Bytes) := do
  let (x, bs) ← getSingle o bs
  let (y, bs) ← getSingle o bs
  return (⟨x, y⟩, bs)

/-- Three numbers. -/
def getVec3 (bs : Bytes) : Option (Vec3 Single × Bytes) := do
  let (x, bs) ← getSingle o bs
  let (y, bs) ← getSingle o bs
  let (z, bs) ← getSingle o bs
  return (⟨x, y, z⟩, bs)

/-- Four numbers. -/
def getVec4 (bs : Bytes) : Option (Vec4 Single × Bytes) := do
  let (x, bs) ← getSingle o bs
  let (y, bs) ← getSingle o bs
  let (z, bs) ← getSingle o bs
  let (w, bs) ← getSingle o bs
  return (⟨x, y, z, w⟩, bs)

/-- Four joint numbers. -/
def getJoints (bs : Bytes) : Option (Vec4 UInt16 × Bytes) := do
  let (x, bs) ← o.get16 bs
  let (y, bs) ← o.get16 bs
  let (z, bs) ← o.get16 bs
  let (w, bs) ← o.get16 bs
  return (⟨x, y, z, w⟩, bs)

/-- A given number of bytes. -/
def getBytes (n : Nat) (bs : Bytes) : Option (Bytes × Bytes) :=
  if n ≤ bs.length then some (bs.take n, bs.drop n) else none

/-- A given number of records. -/
def getMany {α : Type} (get : Bytes → Option (α × Bytes)) : Nat → Bytes → Option (List α × Bytes)
  | 0, bs => some ([], bs)
  | n + 1, bs => do
    let (a, bs) ← get bs
    let (as, bs) ← getMany get n bs
    return (a :: as, bs)

/-- The material of a group: negative codes mean none. -/
def materialOf (w : UInt32) : Ref := if w.toNat < 2147483648 then some w.toNat else none

/-- A group. -/
def getGroup (bs : Bytes) : Option (Group × Bytes) := do
  let (n, bs) ← o.get16 bs
  let (name, bs) ← getBytes n.toNat bs
  let (material, bs) ← o.get32 bs
  let (first, bs) ← o.get32 bs
  let (count, bs) ← o.get32 bs
  return (⟨name, materialOf material, first.toNat, count.toNat⟩, bs)

/-- A vertex. -/
def getVertex (skinned : Bool) (bs : Bytes) : Option (Vertex × Bytes) := do
  let (position, bs) ← getVec3 o bs
  let (normal, bs) ← getVec3 o bs
  let (texCoord, bs) ← getVec2 o bs
  if skinned then
    let (joints, bs) ← getJoints o bs
    let (weights, bs) ← getVec4 o bs
    return (⟨position, normal, texCoord, joints, weights⟩, bs)
  else return ({ position, normal, texCoord }, bs)

/-- Everything after the version. Before any record is read the counts are held against the bytes
that are left: each record takes at least four. -/
def getBody (bs : Bytes) : Option (Mesh × Bytes) := do
  let (flags, bs) ← o.get16 bs
  let (vertexCount, bs) ← o.get32 bs
  let (indexCount, bs) ← o.get32 bs
  let (groupCount, bs) ← o.get32 bs
  let (min, bs) ← getVec3 o bs
  let (max, bs) ← getVec3 o bs
  if groupCount.toNat + vertexCount.toNat + indexCount.toNat > bs.length / 4 then none
  let skinned := flags.toNat % 2 == 1
  let (groups, bs) ← getMany (getGroup o) groupCount.toNat bs
  let (vertices, bs) ← getMany (getVertex o skinned) vertexCount.toNat bs
  let (indices, bs) ← getMany o.get32 indexCount.toNat bs
  return ({ vertices, indices, groups, bounds := ⟨min, max⟩, skinned }, bs)

end Reading

/-- The contents of a mesh file. -/
def decode : Bytes → Except Failure MeshFile
  | m0 :: m1 :: m2 :: m3 :: code :: version :: rest =>
    if [m0, m1, m2, m3] ≠ magic then .error ⟨.meshMagic, []⟩
    else if !(⟨code⟩ : Platform).isKnown then .error ⟨.meshPlatform, [toString code.toNat]⟩
    else if version ≠ currentVersion then .error ⟨.meshVersion, [toString version.toNat]⟩
    else
      match getBody (⟨code⟩ : Platform).order rest with
      | none => .error ⟨.meshTruncated, []⟩
      | some (mesh, _) => .ok ⟨⟨code⟩, version, mesh⟩
  | _ => .error ⟨.meshTruncated, []⟩

/-! ## Files in a depot -/

/-- A mesh is written for a platform. -/
def save (uri : String) (m : Mesh) (p : Platform) : Job Unit := do
  let data ← Job.ofExcept (encode m p)
  Job.writeAll uri data

/-- A mesh file is read. -/
def load (uri : String) : Job MeshFile := do
  let data ← Job.readAll uri
  Job.ofExcept (inContext ("decoding " ++ uri) (decode data))

end MeshFile

end SceneForge
