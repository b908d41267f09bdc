import Mathlib.Tactic.Common
import SceneForge.Proofs.Mesh.Codec

set_option autoImplicit false

/-!
# Mesh files field by field

A reader of mesh files takes one field after the other off the front of the bytes and leaves what
follows the last one. So the bytes that it accepts are those of a layout, whatever follows them, and
it gives the file that the layout means. A layout says more than its file in three places only: of
its flags one bit has a meaning, all negative materials mean the same, and a signaling NaN means the
quiet one. What is written for the file is the layout with these places in their canonical form. A
layout cannot be cut short, since whatever is accepted of it would be a layout of the same file and
so just as long.

## Main definitions

* `SceneForge.MeshFile.Reads` — a reader accepts exactly the bytes of some records.
* `SceneForge.MeshFile.Record`, `SceneForge.MeshFile.Layout` — groups and files as they stand in the
  bytes, with the `file` that a layout means.
* `SceneForge.MeshFile.Layout.canonical` — a layout without the bits that mean nothing.

## Main results

* `SceneForge.MeshFile.Reads.getMany_eq_some_iff` — records one after the other.
* `SceneForge.MeshFile.Layout.getBody_eq_some_iff`, `SceneForge.MeshFile.Layout.decode_eq_ok_iff` —
  what is accepted.
* `SceneForge.MeshFile.encode_decode` — a file that was read is written canonically.
* `SceneForge.MeshFile.decode_cut` — a file that was written is not read from a part of it.
-/

namespace SceneForge

/-! ## Words -/

namespace ByteOrder

/-- The bytes of a 16-bit word are those that it was put together from. -/
lemma bytes_word16 (low high : UInt8) :
    (word16 low high).toUInt8 = low ∧ (word16 low high >>> 8).toUInt8 = high := by
  constructor <;>
  · apply UInt8.toBitVec_inj.mp
    apply BitVec.eq_of_getLsbD_eq
    intro i hi
    simp only [word16, UInt16.toBitVec_or, UInt16.toBitVec_shiftLeft, UInt8.toBitVec_toUInt16,
      UInt16.toBitVec_toUInt8, UInt16.toBitVec_shiftRight, UInt16.toBitVec_ofNat,
      BitVec.ofNat_eq_ofNat, BitVec.reduceMod, BitVec.ushiftRight_eq', BitVec.shiftLeft_eq',
      BitVec.toNat_ofNat, Nat.reducePow, Nat.reduceMod, BitVec.getLsbD_or,
      BitVec.getLsbD_shiftLeft, BitVec.getLsbD_setWidth, BitVec.getLsbD_ushiftRight]
    grind

/-- The bytes of a 32-bit word are those that it was put together from. -/
lemma bytes_word32 (b0 b1 b2 b3 : UInt8) :
    (word32 b0 b1 b2 b3).toUInt8 = b0 ∧ (word32 b0 b1 b2 b3 >>> 8).toUInt8 = b1 ∧
      (word32 b0 b1 b2 b3 >>> 16).toUInt8 = b2 ∧ (word32 b0 b1 b2 b3 >>> 24).toUInt8 = b3 := by
  refine ⟨?_, ?_, ?_, ?_⟩ <;>
  · apply UInt8.toBitVec_inj.mp
    apply BitVec.eq_of_getLsbD_eq
    intro i hi
    simp only [word32, UInt32.toBitVec_or, UInt32.toBitVec_shiftLeft, UInt8.toBitVec_toUInt32,
      UInt32.toBitVec_toUInt8, UInt32.toBitVec_shiftRight, UInt32.toBitVec_ofNat,
      BitVec.ofNat_eq_ofNat, BitVec.reduceMod, BitVec.ushiftRight_eq', BitVec.shiftLeft_eq',
      BitVec.toNat_ofNat, Nat.reducePow, Nat.reduceMod, BitVec.getLsbD_or,
      BitVec.getLsbD_shiftLeft, BitVec.getLsbD_setWidth, BitVec.getLsbD_ushiftRight]
    grind

variable {o : ByteOrder} {bs rest : Bytes}

/-- A 16-bit word is read from its own bytes only. -/
lemma get16_eq_some_iff {w : UInt16} : o.get16 bs = some (w, rest) ↔ bs = o.put16 w ++ rest := by
  constructor
  · intro h
    match bs, h with
    | a :: b :: tail, h =>
      obtain ⟨rfl, rfl⟩ := Prod.mk.inj (Option.some.inj h)
      cases o <;> simp [put16, bytes_word16]
  · rintro rfl
    exact get16_put16 o w rest

/-- A 32-bit word is read from its own bytes only. -/
lemma get32_eq_some_iff {w : UInt32} : o.get32 bs = some (w, rest) ↔ bs = o.put32 w ++ rest := by
  constructor
  · intro h
    match bs, h with
    | a :: b :: c :: d :: tail, h =>
      obtain ⟨rfl, rfl⟩ := Prod.mk.inj (Option.some.inj h)
      cases o <;> simp [put32, bytes_word32]
  · rintro rfl
    exact get32_put32 o w rest

end ByteOrder

namespace MeshFile

/-! ## Records one after the other -/

section Reading

variable {α ρ : Type} {get : Bytes → Option (α × Bytes)} {bytes : ρ → Bytes} {value : ρ → α}

/-- A reader accepts exactly the bytes of some records, whatever follows them, and gives what the
record means. -/
def Reads (get : Bytes → Option (α × Bytes)) (bytes : ρ → Bytes) (value : ρ → α) : Prop :=
  ∀ bs a rest, get bs = some (a, rest) ↔ ∃ r, bs = bytes r ++ rest ∧ value r = a

/-- **Records one after the other** are accepted and give what they mean. -/
lemma Reads.getMany_eq_some_iff (h : Reads get bytes value) {n : Nat} {bs rest : Bytes}
    {as : List α} : getMany get n bs = some (as, rest) ↔
      ∃ rs : List ρ, rs.length = n ∧ bs = rs.flatMap bytes ++ rest ∧ rs.map value = as := by
  induction n generalizing bs as with
  | zero =>
    constructor
    · intro hget
      cases hget
      exact ⟨[], rfl, rfl, rfl⟩
    · rintro ⟨rs, hlen, rfl, rfl⟩
      obtain rfl := List.length_eq_zero_iff.mp hlen
      rfl
  | succ n ih =>
    have hfirst : ∀ bs a rest, get bs = some (a, rest) ↔ ∃ r, bs = bytes r ++ rest ∧ value r = a := h
    simp only [getMany, Option.bind_eq_bind, Option.bind_eq_some_iff, Prod.exists, hfirst,
      Option.pure_def, Option.some.injEq, Prod.mk.injEq]
    constructor
    · rintro ⟨a, tail, ⟨r, rfl, rfl⟩, as', _, hrest, rfl, rfl⟩
      obtain ⟨rs, rfl, rfl, rfl⟩ := ih.mp hrest
      exact ⟨r :: rs, rfl, by rw [List.flatMap_cons, List.append_assoc], rfl⟩
    · rintro ⟨rs, hlen, rfl, rfl⟩
      cases rs with
      | nil => cases hlen
      | cons r rs =>
        refine ⟨value r, rs.flatMap bytes ++ rest, ⟨r, ?_, rfl⟩, rs.map value, rest,
          ih.mpr ⟨rs, Nat.succ_inj.mp hlen, rfl, rfl⟩, rfl, rfl⟩
        rw [List.flatMap_cons, List.append_assoc]

/-- Records one after the other are read in front of any bytes. -/
lemma Reads.getMany_append (h : Reads get bytes value) (rs : List ρ) (rest : Bytes) :
    getMany get rs.length (rs.flatMap bytes ++ rest) = some (rs.map value, rest) :=
  h.getMany_eq_some_iff.mpr ⟨rs, rfl, rfl, rfl⟩

end Reading

/-! ## Numbers -/

/-- A word as it stands in a file. -/
def word (o : ByteOrder) (a : Single) : Bytes := o.put32 a.bits

/-- A word takes four bytes. -/
@[simp] lemma length_word (o : ByteOrder) (a : Single) : (word o a).length = 4 := by simp [word]

section Numbers

variable {o : ByteOrder} {bs rest : Bytes}

/-- A number is read from any word that settles to it. -/
lemma getSingle_eq_some_iff {a : Single} :
    getSingle o bs = some (a, rest) ↔ ∃ w, bs = word o w ++ rest ∧ w.settled = a := by
  simp only [getSingle, Option.bind_eq_bind, Option.bind_eq_some_iff, Prod.exists,
    ByteOrder.get32_eq_some_iff, Option.pure_def, Option.some.injEq, Prod.mk.injEq]
  constructor
  · rintro ⟨w, _, rfl, rfl, rfl⟩
    exact ⟨⟨w⟩, rfl, rfl⟩
  · rintro ⟨w, rfl, rfl⟩
    exact ⟨w.bits, rest, rfl, rfl, rfl⟩

/-- Two numbers are read from words that settle to them. -/
lemma getVec2_eq_some_iff {v : Vec2 Single} : getVec2 o bs = some (v, rest) ↔
    ∃ u : Vec2 Single, bs = u.toList.flatMap (word o) ++ rest ∧ u.map Single.settled = v := by
  simp only [getVec2, Option.bind_eq_bind, Option.bind_eq_some_iff, Prod.exists,
    getSingle_eq_some_iff, Option.pure_def, Option.some.injEq, Prod.mk.injEq]
  constructor
  · rintro ⟨_, _, ⟨x, rfl, rfl⟩, _, _, ⟨y, rfl, rfl⟩, rfl, rfl⟩
    exact ⟨⟨x, y⟩, by simp [Vec2.toList], rfl⟩
  · rintro ⟨⟨x, y⟩, rfl, rfl⟩
    exact ⟨_, _, ⟨x, by simp [Vec2.toList], rfl⟩, _, _, ⟨y, rfl, rfl⟩, rfl, rfl⟩

/-- Three numbers are read from words that settle to them. -/
lemma getVec3_eq_some_iff {v : Vec3 Single} : getVec3 o bs = some (v, rest) ↔
    ∃ u : Vec3 Single, bs = u.toList.flatMap (word o) ++ rest ∧ u.map Single.settled = v := by
  simp only [getVec3, Option.bind_eq_bind, Option.bind_eq_some_iff, Prod.exists,
    getSingle_eq_some_iff, Option.pure_def, Option.some.injEq, Prod.mk.injEq]
  constructor
  · rintro ⟨_, _, ⟨x, rfl, rfl⟩, _, _, ⟨y, rfl, rfl⟩, _, _, ⟨z, rfl, rfl⟩, rfl, rfl⟩
    exact ⟨⟨x, y, z⟩, by simp [Vec3.toList], rfl⟩
  · rintro ⟨⟨x, y, z⟩, rfl, rfl⟩
    exact ⟨_, _, ⟨x, by simp [Vec3.toList], rfl⟩, _, _, ⟨y, rfl, rfl⟩, _, _, ⟨z, rfl, rfl⟩, rfl, rfl⟩

/-- Four numbers are read from words that settle to them. -/
lemma getVec4_eq_some_iff {v : Vec4 Single} : getVec4 o bs = some (v, rest) ↔
    ∃ u : Vec4 Single, bs = u.toList.flatMap (word o) ++ rest ∧ u.map Single.settled = v := by
  simp only [getVec4, Option.bind_eq_bind, Option.bind_eq_some_iff, Prod.exists,
    getSingle_eq_some_iff, Option.pure_def, Option.some.injEq, Prod.mk.injEq]
  constructor
  · rintro ⟨_, _, ⟨x, rfl, rfl⟩, _, _, ⟨y, rfl, rfl⟩, _, _, ⟨z, rfl, rfl⟩, _, _, ⟨w, rfl, rfl⟩, rfl,
      rfl⟩
    exact ⟨⟨x, y, z, w⟩, by simp [Vec4.toList], rfl⟩
  · rintro ⟨⟨x, y, z, w⟩, rfl, rfl⟩
    exact ⟨_, _, ⟨x, by simp [Vec4.toList], rfl⟩, _, _, ⟨y, rfl, rfl⟩, _, _, ⟨z, rfl, rfl⟩, _, _,
      ⟨w, rfl, rfl⟩, rfl, rfl⟩

/-- Three words take twelve bytes. -/
@[simp] lemma length_words (o : ByteOrder) (u : Vec3 Single) :
    (u.toList.flatMap (word o)).length = 12 := by
  simp [Vec3.toList]

/-- Two words are read as the numbers that they settle to. -/
lemma getVec2_words (u : Vec2 Single) (rest : Bytes) :
    getVec2 o (u.toList.flatMap (word o) ++ rest) = some (u.map Single.settled, rest) :=
  getVec2_eq_some_iff.mpr ⟨u, rfl, rfl⟩

/-- Three words are read as the numbers that they settle to. -/
lemma getVec3_words (u : Vec3 Single) (rest : Bytes) :
    getVec3 o (u.toList.flatMap (word o) ++ rest) = some (u.map Single.settled, rest) :=
  getVec3_eq_some_iff.mpr ⟨u, rfl, rfl⟩

/-- Four words are read as the numbers that they settle to. -/
lemma getVec4_words (u : Vec4 Single) (rest : Bytes) :
    getVec4 o (u.toList.flatMap (word o) ++ rest) = some (u.map Single.settled, rest) :=
  getVec4_eq_some_iff.mpr ⟨u, rfl, rfl⟩

/-- Four joint numbers are read from their own bytes only. -/
lemma getJoints_eq_some_iff {v : Vec4 UInt16} :
    getJoints o bs = some (v, rest) ↔ bs = v.toList.flatMap o.put16 ++ rest := by
  constructor
  · intro h
    simp only [getJoints, Option.bind_eq_bind, Option.bind_eq_some_iff, Prod.exists,
      ByteOrder.get16_eq_some_iff, Option.pure_def, Option.some.injEq, Prod.mk.injEq] at h
    obtain ⟨x, _, rfl, y, _, rfl, z, _, rfl, w, _, rfl, rfl, rfl⟩ := h
    simp [Vec4.toList]
  · rintro rfl
    exact getJoints_put16 o v rest

/-- Bytes whose number is known are those in front. -/
lemma getBytes_eq_some_iff {n : Nat} {name : Bytes} :
    getBytes n bs = some (name, rest) ↔ bs = name ++ rest ∧ name.length = n := by
  constructor
  · intro h
    unfold getBytes at h
    split_ifs at h with hle
    obtain ⟨rfl, rfl⟩ := Prod.mk.inj (Option.some.inj h)
    exact ⟨(List.take_append_drop n bs).symm, List.length_take_of_le hle⟩
  · rintro ⟨rfl, rfl⟩
    exact getBytes_append name rest

end Numbers

/-! ## Groups and vertices -/

/-- A group as it stands in a file: its material is any word. -/
structure Record where
  /-- Name. -/
  name : Bytes
  /-- The code of the material; codes with the sign bit mean none. -/
  material : UInt32
  /-- Position of the first vertex number. -/
  first : UInt32
  /-- How many vertex numbers there are. -/
  count : UInt32
  /-- The bytes of the name can be counted. -/
  fits : name.length ≤ 0xffff

namespace Record

/-- The bytes of a record. -/
def bytes (o : ByteOrder) (r : Record) : Bytes :=
  o.put16 r.name.length.toUInt16 ++ r.name ++ o.put32 r.material ++ o.put32 r.first ++
    o.put32 r.count

/-- The group that a record means. -/
def group (r : Record) : Group := ⟨r.name, materialOf r.material, r.first.toNat, r.count.toNat⟩

/-- A record with the code -1 in place of any other negative material. -/
def canonical (r : Record) : Record :=
  { r with material := if r.material.toNat < 2147483648 then r.material else 0xffffffff }

/-- The record that is written for a group. -/
def ofGroup (g : Group) (fits : g.name.length ≤ 0xffff) : Record :=
  ⟨g.name, cut32 (g.material.getD (-1)), cut32 g.firstIndex, cut32 g.indexCount, fits⟩

/-- A record takes fourteen bytes and its name. -/
@[simp] lemma length_bytes (o : ByteOrder) (r : Record) :
    (r.bytes o).length = 14 + r.name.length := by
  simp [bytes]
  omega

/-- The length of a name is read back. -/
lemma toNat_length (r : Record) : r.name.length.toUInt16.toNat = r.name.length := by
  have hfits := r.fits
  simp only [Nat.toUInt16_eq, UInt16.toNat_ofNat']
  omega

end Record

/-- A word is what is left of it as an unsigned number. -/
lemma cut32_toNat (w : UInt32) : cut32 w.toNat = w := by
  have hlt : w.toNat < 4294967296 := w.toNat_lt
  have hmod : ((w.toNat : Int) % 4294967296).toNat = w.toNat := by omega
  rw [cut32, hmod]
  exact UInt32.ofNat_toNat

/-- What is written for the material of a record is its canonical code. -/
lemma cut32_materialOf (w : UInt32) :
    cut32 ((materialOf w).getD (-1)) = if w.toNat < 2147483648 then w else 0xffffffff := by
  unfold materialOf
  split_ifs with h
  · exact cut32_toNat w
  · rfl

/-- The canonical code means the same material. -/
lemma materialOf_canonical (w : UInt32) :
    materialOf (if w.toNat < 2147483648 then w else 0xffffffff) = materialOf w := by
  unfold materialOf
  split_ifs with h h'
  · rfl
  · exact absurd h' (by decide)
  · rfl

section Records

variable (o : ByteOrder)

/-- **A group is read from a record**, whatever its material. -/
lemma getGroup_reads : Reads (getGroup o) (Record.bytes o) Record.group := by
  intro bs g rest
  simp only [getGroup, Option.bind_eq_bind, Option.bind_eq_some_iff, Prod.exists,
    ByteOrder.get16_eq_some_iff, ByteOrder.get32_eq_some_iff, getBytes_eq_some_iff, Option.pure_def,
    Option.some.injEq, Prod.mk.injEq]
  constructor
  · rintro ⟨n, _, rfl, name, _, ⟨rfl, hn⟩, material, _, rfl, first, _, rfl, count, _, rfl, rfl, rfl⟩
    have hlt : n.toNat < 65536 := n.toNat_lt
    refine ⟨⟨name, material, first, count, by omega⟩, ?_, rfl⟩
    have hcode : name.length.toUInt16 = n := by
      rw [hn]
      exact UInt16.ofNat_toNat
    simp only [Record.bytes, hcode, List.append_assoc]
  · rintro ⟨r, rfl, rfl⟩
    refine ⟨_, _, ?_, r.name, _, ⟨rfl, r.toNat_length.symm⟩, r.material, _, rfl, r.first, _, rfl,
      r.count, rest, rfl, rfl, rfl⟩
    simp only [Record.bytes, List.append_assoc]

/-- What is written for the group of a record is the canonical record. -/
lemma putGroup_group (r : Record) : putGroup o r.group = r.canonical.bytes o := by
  simp only [putGroup, Record.bytes, Record.group, Record.canonical, cut32_materialOf, cut32_toNat]

/-- A canonical record means the same group. -/
lemma group_canonical (r : Record) : r.canonical.group = r.group := by
  simp only [Record.group, Record.canonical, materialOf_canonical]

end Records

end MeshFile

/-- What a file keeps of a vertex: joints and weights only if the mesh is skinned. -/
def Vertex.kept (skinned : Bool) (v : Vertex) : Vertex :=
  if skinned then v else { v with joints := .fill 0, weights := .fill 0 }

/-- What a file keeps of a settled vertex is settled. -/
lemma Vertex.settled_kept_settled (skinned : Bool) (v : Vertex) :
    (v.settled.kept skinned).settled = (v.kept skinned).settled := by
  cases skinned
  · simp [kept, settled, Vec2.map, Vec3.map]
  · exact v.settled_settled

namespace MeshFile

variable (o : ByteOrder)

/-- A vertex as it stands in a file, its numbers any words. -/
def vertexBytes (skinned : Bool) (v : Vertex) : Bytes :=
  v.position.toList.flatMap (word o) ++ v.normal.toList.flatMap (word o) ++
    v.texCoord.toList.flatMap (word o) ++
    if skinned then v.joints.toList.flatMap o.put16 ++ v.weights.toList.flatMap (word o) else []

/-- A vertex takes 56 bytes with joints and weights, 32 without. -/
@[simp] lemma length_vertexBytes (skinned : Bool) (v : Vertex) :
    (vertexBytes o skinned v).length = if skinned then 56 else 32 := by
  cases skinned <;> simp [vertexBytes, Vec2.toList, Vec3.toList, Vec4.toList]

/-- **A vertex is read from any words** that settle to its numbers, up to what a file does not
keep. -/
lemma getVertex_reads (skinned : Bool) :
    Reads (getVertex o skinned) (vertexBytes o skinned) fun v => (v.kept skinned).settled := by
  intro bs v rest
  constructor
  · intro h
    cases skinned with
    | true =>
      simp only [getVertex, if_true, Option.bind_eq_bind, Option.bind_eq_some_iff, Prod.exists,
        getVec3_eq_some_iff, getVec2_eq_some_iff, getVec4_eq_some_iff, getJoints_eq_some_iff,
        Option.pure_def, Option.some.injEq, Prod.mk.injEq] at h
      obtain ⟨_, _, ⟨p, rfl, rfl⟩, _, _, ⟨n, rfl, rfl⟩, _, _, ⟨t, rfl, rfl⟩, j, _, rfl, _, _,
        ⟨w, rfl, rfl⟩, rfl, rfl⟩ := h
      exact ⟨⟨p, n, t, j, w⟩, by simp [vertexBytes], rfl⟩
    | false =>
      simp only [getVertex, Bool.false_eq_true, if_false, Option.bind_eq_bind,
        Option.bind_eq_some_iff, Prod.exists, getVec3_eq_some_iff, getVec2_eq_some_iff,
        Option.pure_def, Option.some.injEq, Prod.mk.injEq] at h
      obtain ⟨_, _, ⟨p, rfl, rfl⟩, _, _, ⟨n, rfl, rfl⟩, _, _, ⟨t, rfl, rfl⟩, rfl, rfl⟩ := h
      exact ⟨{ position := p, normal := n, texCoord := t }, by simp [vertexBytes], by
        simp [Vertex.kept, Vertex.settled, Vec4.fill, Vec4.map]⟩
  · rintro ⟨v, rfl, rfl⟩
    cases skinned <;> simp [getVertex, vertexBytes, getVec3_words, getVec2_words, getVec4_words,
      Vertex.kept, Vertex.settled, Vec4.fill, Vec4.map]

/-- What is written for three numbers are their words, settled. -/
lemma putVec3_eq_words (v : Vec3 Single) :
    putVec3 o v = (v.map Single.settled).toList.flatMap (word o) := by
  simp [putVec3, putSingle, word, Vec3.map, Vec3.toList]

/-- **What is written for a vertex** are its words, settled. -/
lemma putVertex_eq_bytes (skinned : Bool) (v : Vertex) :
    putVertex o skinned v = vertexBytes o skinned v.settled := by
  cases skinned <;> simp [putVertex, putVec2, putVec3, putVec4, putSingle, vertexBytes, word,
    Vertex.settled, Vec2.map, Vec2.toList, Vec3.map, Vec3.toList, Vec4.map, Vec4.toList]

/-- What a file does not keep of a vertex is not written. -/
lemma putVertex_kept (skinned : Bool) (v : Vertex) :
    putVertex o skinned (v.kept skinned).settled = vertexBytes o skinned v.settled := by
  rw [putVertex_eq_bytes, Vertex.settled_settled]
  cases skinned <;> rfl

/-- Vertex numbers are read from their own bytes only. -/
lemma get32_reads : Reads o.get32 o.put32 id := by
  intro bs w rest
  simp [ByteOrder.get32_eq_some_iff]

/-! ## Layouts -/

/-- A mesh file as it stands in its bytes: its flags and its numbers are any words, its counts are
those of the records that follow. -/
structure Layout where
  /-- The platform. -/
  platform : Platform
  /-- The platform is known. -/
  known : platform.isKnown
  /-- The flags; the lowest bit says whether the mesh is skinned. -/
  flags : UInt16
  /-- The box around all vertices. -/
  bounds : Bounds
  /-- The groups. -/
  records : List Record
  /-- The vertices. -/
  vertices : List Vertex
  /-- The vertex numbers. -/
  indices : List UInt32
  /-- The groups can be counted. -/
  recordCount : records.length ≤ 0xffffffff
  /-- The vertices can be counted. -/
  vertexCount : vertices.length ≤ 0xffffffff
  /-- The vertex numbers can be counted. -/
  indexCount : indices.length ≤ 0xffffffff

namespace Layout

section Meaning

variable (l : Layout)

/-- Whether the vertices carry joints and weights. -/
def skinned : Bool := l.flags.toNat % 2 == 1

/-- The bytes after the version. -/
def body : Bytes :=
  let o := l.platform.order
  o.put16 l.flags ++ o.put32 l.vertices.length.toUInt32 ++ o.put32 l.indices.length.toUInt32 ++
    o.put32 l.records.length.toUInt32 ++ l.bounds.min.toList.flatMap (word o) ++
    l.bounds.max.toList.flatMap (word o) ++ l.records.flatMap (Record.bytes o) ++
    l.vertices.flatMap (vertexBytes o l.skinned) ++ l.indices.flatMap o.put32

/-- All bytes. -/
def bytes : Bytes := magic ++ [l.platform.code, currentVersion] ++ l.body

/-- The mesh that a layout means. -/
def mesh : Mesh where
  vertices := l.vertices.map fun v => (v.kept l.skinned).settled
  indices := l.indices
  groups := l.records.map Record.group
  bounds := l.bounds.settled
  skinned := l.skinned

/-- The file that a layout means. -/
def file : MeshFile := ⟨l.platform, currentVersion, l.mesh⟩

/-- The layout with the fifteen flags that mean nothing cleared, -1 in place of every other negative
material, and every signaling NaN made quiet. -/
def canonical : Layout :=
  { l with
    flags := l.flags &&& 1
    bounds := l.bounds.settled
    records := l.records.map Record.canonical
    vertices := l.vertices.map Vertex.settled
    recordCount := by
      rw [List.length_map]
      exact l.recordCount
    vertexCount := by
      rw [List.length_map]
      exact l.vertexCount }

/-- A layout is as long as what is written for its mesh. -/
lemma length_body : l.body.length = (putBody l.platform.order l.mesh).length := by
  have hrecords : (l.records.flatMap (Record.bytes l.platform.order)).length =
      ((l.records.map Record.group).flatMap (putGroup l.platform.order)).length := by
    simp [List.length_flatMap, Function.comp_def, Record.group]
  have hvertices : (l.vertices.flatMap (vertexBytes l.platform.order l.skinned)).length =
      ((l.vertices.map fun v => (v.kept l.skinned).settled).flatMap
        (putVertex l.platform.order l.skinned)).length := by
    simp [List.length_flatMap, Function.comp_def]
  simp only [body, putBody, mesh, List.length_append, ByteOrder.length_put16,
    ByteOrder.length_put32, length_putVec3, length_words, List.length_map, hrecords, hvertices]

/-- The counts of a layout pass the guard. -/
lemma counts_le_quarter : l.records.length + l.vertices.length + l.indices.length ≤
    (l.body.length - 38) / 4 := by
  have hcounts := MeshFile.counts_le_quarter l.platform.order l.mesh
  rw [← length_body] at hcounts
  simpa only [mesh, List.length_map] using hcounts

end Meaning

/-- **What follows the version** is accepted exactly if it starts with a layout.

**Proof sketch.** Forwards, each step that gave a value consumed the bytes of one entry; the lists
do so entry by entry (`getMany_eq_some_iff`), and a count is that of the list it was read for.
Backwards, each step reads what was laid out (`getMany_append`), and the check of the counts passes
since every entry takes at least four bytes (`counts_le_quarter`). -/
lemma getBody_eq_some_iff {p : Platform} (hp : p.isKnown) {bs rest : Bytes} {m : Mesh} :
    getBody p.order bs = some (m, rest) ↔
      ∃ l : Layout, l.platform = p ∧ bs = l.body ++ rest ∧ l.mesh = m := by
  constructor
  · intro h
    simp only [getBody, Option.bind_eq_bind, Option.bind_eq_some_iff, Prod.exists,
      ByteOrder.get16_eq_some_iff, ByteOrder.get32_eq_some_iff, getVec3_eq_some_iff] at h
    obtain ⟨flags, _, rfl, vertexCount, _, rfl, indexCount, _, rfl, recordCount, _, rfl, _, _,
      ⟨min, rfl, rfl⟩, _, tail, ⟨max, rfl, rfl⟩, h⟩ := h
    split_ifs at h
    · cases h
    obtain ⟨⟨gs, _⟩, hgs, h⟩ := Option.bind_eq_some_iff.mp h
    obtain ⟨rs, hrs, rfl, rfl⟩ := (getGroup_reads p.order).getMany_eq_some_iff.mp hgs
    obtain ⟨⟨vs, _⟩, hvs, h⟩ := Option.bind_eq_some_iff.mp h
    obtain ⟨us, hus, rfl, rfl⟩ := (getVertex_reads p.order _).getMany_eq_some_iff.mp hvs
    obtain ⟨⟨is, _⟩, his, h⟩ := Option.bind_eq_some_iff.mp h
    obtain ⟨ws, hws, rfl, rfl⟩ := (get32_reads p.order).getMany_eq_some_iff.mp his
    cases h
    have hcount : ∀ {n : Nat} {w : UInt32}, n = w.toNat → n ≤ 0xffffffff ∧ n.toUInt32 = w := by
      rintro n w rfl
      exact ⟨Nat.le_of_lt_succ w.toNat_lt, UInt32.ofNat_toNat⟩
    refine ⟨⟨p, hp, flags, ⟨min, max⟩, rs, us, ws, (hcount hrs).1, (hcount hus).1,
      (hcount hws).1⟩, rfl, ?_, ?_⟩
    · simp only [body, skinned, (hcount hrs).2, (hcount hus).2, (hcount hws).2, List.append_assoc]
    · simp only [mesh, skinned, List.map_id]
      rfl
  · rintro ⟨l, rfl, rfl, rfl⟩
    have hrecords := (getGroup_reads l.platform.order).getMany_append l.records
      (l.vertices.flatMap (vertexBytes l.platform.order l.skinned) ++
        (l.indices.flatMap l.platform.order.put32 ++ rest))
    have hvertices := (getVertex_reads l.platform.order l.skinned).getMany_append l.vertices
      (l.indices.flatMap l.platform.order.put32 ++ rest)
    have hindices := (get32_reads l.platform.order).getMany_append l.indices rest
    have hguard : ¬ l.records.length + l.vertices.length + l.indices.length >
        (l.records.flatMap (Record.bytes l.platform.order) ++
          (l.vertices.flatMap (vertexBytes l.platform.order l.skinned) ++
            (l.indices.flatMap l.platform.order.put32 ++ rest))).length / 4 := by
      have hcounts := l.counts_le_quarter
      simp only [body, List.length_append, ByteOrder.length_put16, ByteOrder.length_put32,
        length_words] at hcounts ⊢
      omega
    simp only [skinned] at hrecords hvertices hguard
    simp only [getBody, body, skinned, List.append_assoc, ByteOrder.get16_put16,
      ByteOrder.get32_put32, getVec3_words, Option.bind_eq_bind, Option.bind_some,
      toNat_toUInt32 (Nat.lt_succ_of_le l.recordCount),
      toNat_toUInt32 (Nat.lt_succ_of_le l.vertexCount),
      toNat_toUInt32 (Nat.lt_succ_of_le l.indexCount), if_neg hguard, hrecords, hvertices, hindices,
      List.map_id]
    rfl

/-- **What is accepted** is what starts with a layout, and the file is the one that the layout
means. -/
lemma decode_eq_ok_iff {data : Bytes} {f : MeshFile} :
    decode data = .ok f ↔
      ∃ (l : Layout) (trailing : Bytes), data = l.bytes ++ trailing ∧ l.file = f := by
  constructor
  · intro h
    unfold decode at h
    split at h
    · rename_i m0 m1 m2 m3 code version rest
      split_ifs at h with hmagic hknown hversion
      split at h
      · cases h
      · rename_i mesh trailing hbody
        cases h
        rw [ne_eq, not_not] at hmagic hversion
        have hp : (⟨code⟩ : Platform).isKnown := by simpa using hknown
        obtain ⟨l, hl, rfl, rfl⟩ := (getBody_eq_some_iff hp).mp hbody
        refine ⟨l, trailing, ?_, ?_⟩
        · rw [bytes, hl, ← hmagic, ← hversion]
          rfl
        · rw [file, hl, hversion]
    · cases h
  · rintro ⟨l, trailing, rfl, rfl⟩
    have hbody : getBody l.platform.order (l.body ++ trailing) = some (l.mesh, trailing) :=
      (getBody_eq_some_iff l.known).mpr ⟨l, rfl, rfl, rfl⟩
    rw [bytes, List.append_assoc]
    exact decode_of_getBody l.known hbody

/-- A layout is read as the file that it means, whatever follows it. -/
lemma decode_bytes (l : Layout) (trailing : Bytes) : decode (l.bytes ++ trailing) = .ok l.file :=
  decode_eq_ok_iff.mpr ⟨l, trailing, rfl, rfl⟩

/-! ## Canonical layouts -/

section Canonical

variable (l : Layout)

/-- The flag that has a meaning is kept. -/
lemma skinned_canonical : l.canonical.skinned = l.skinned := by
  simp only [skinned, canonical, UInt16.toNat_and, UInt16.toNat_one, Nat.and_one_is_mod,
    Nat.mod_mod]

/-- The canonical layout means the same file. -/
lemma file_canonical : l.canonical.file = l.file := by
  have hgroups : l.canonical.records.map Record.group = l.records.map Record.group := by
    rw [canonical, List.map_map]
    exact List.map_congr_left fun r _ => group_canonical r
  have hvertices : (l.vertices.map Vertex.settled).map (fun v => (v.kept l.skinned).settled) =
      l.vertices.map fun v => (v.kept l.skinned).settled := by
    rw [List.map_map]
    exact List.map_congr_left fun v _ => Vertex.settled_kept_settled l.skinned v
  simp only [file, mesh, skinned_canonical, hgroups]
  simp only [canonical, hvertices, Bounds.settled_settled]

/-- The flags that are written say whether the mesh is skinned. -/
lemma flags_canonical : l.canonical.flags = if l.skinned then 1 else 0 := by
  apply UInt16.toNat_inj.mp
  rw [canonical, UInt16.toNat_and, UInt16.toNat_one, Nat.and_one_is_mod]
  by_cases h : l.flags.toNat % 2 = 1
  · simp [skinned, h]
  · have hzero : l.flags.toNat % 2 = 0 := by omega
    simp [skinned, hzero]

/-- What is written for the mesh of a layout is the canonical layout. -/
lemma putBody_mesh : putBody l.platform.order l.mesh = l.canonical.body := by
  have hgroups : (l.records.map Record.group).flatMap (putGroup l.platform.order) =
      (l.records.map Record.canonical).flatMap (Record.bytes l.platform.order) := by
    simp only [List.flatMap_map, putGroup_group]
  have hvertices : (l.vertices.map fun v => (v.kept l.skinned).settled).flatMap
      (putVertex l.platform.order l.skinned) =
        (l.vertices.map Vertex.settled).flatMap (vertexBytes l.platform.order l.skinned) := by
    simp only [List.flatMap_map, putVertex_kept]
  rw [body, flags_canonical, skinned_canonical]
  have hbounds : ∀ v : Vec3 Single, putVec3 l.platform.order (v.map Single.settled) =
      (v.map Single.settled).toList.flatMap (word l.platform.order) := by
    simp [putVec3_eq_words, Vec3.map]
  simp only [putBody, mesh, canonical, Bounds.settled, List.length_map, hgroups, hvertices, hbounds]
  rfl

/-- **The canonical layout is what is written** for the file that a layout means. -/
lemma encode_file : encode l.file.mesh l.file.platform = .ok l.canonical.bytes := by
  refine encode_eq_ok_iff.mpr ⟨l.known, ?_, l.indexCount, ?_, ?_⟩
  · rw [file, mesh, List.length_map]
    exact l.vertexCount
  · intro g hg
    obtain ⟨r, -, rfl⟩ := List.mem_map.mp hg
    exact r.fits
  · rw [bytes, ← putBody_mesh]
    rfl

/-- The canonical layout is just as long. -/
lemma length_canonical : l.canonical.bytes.length = l.bytes.length := by
  simp only [bytes, List.length_append, length_body l, putBody_mesh]
  rfl

end Canonical

/-- **Layouts mean the same file** exactly if they have the same canonical form. -/
lemma file_eq_iff {l l' : Layout} : l.file = l'.file ↔ l.canonical.bytes = l'.canonical.bytes := by
  constructor
  · intro h
    have hwritten := l.encode_file
    rw [h, l'.encode_file] at hwritten
    exact (Except.ok.inj hwritten).symm
  · intro h
    have hread := l.canonical.decode_bytes []
    rw [h, l'.canonical.decode_bytes, file_canonical, file_canonical] at hread
    exact (Except.ok.inj hread).symm

/-- Layouts of the same file are of the same length. -/
lemma length_eq_of_file_eq {l l' : Layout} (h : l.file = l'.file) :
    l.bytes.length = l'.bytes.length := by
  rw [← length_canonical l, ← length_canonical l', file_eq_iff.mp h]

end Layout

/-- **A file that was read is written canonically.**

Whatever is read starts with a layout. What is written for it again is as long as that layout, and
the same bytes but for the flags without a meaning, which are cleared, the negative materials, which
become -1, and the signaling NaNs, which become quiet; it is read as the same file. Conversely every
layout is read, whatever follows it, and two layouts are read as the same file exactly if the same
bytes are written for both.

**Proof sketch.** A reader accepts exactly the bytes of some records and leaves the rest (`Reads`),
  so that a file is accepted exactly if it starts with a layout (`Layout.decode_eq_ok_iff`). The
  writer inverts the meaning of a record up to its canonical code (`putGroup_group`), it settles
  numbers that are settled already (`putVec3_eq_words`), and what it leaves out of vertices was not
  read (`putVertex_kept`). -/
theorem encode_decode :
    (∀ (data : Bytes) (f : MeshFile), decode data = .ok f →
      ∃ (l : Layout) (trailing : Bytes), data = l.bytes ++ trailing ∧
        encode f.mesh f.platform = .ok l.canonical.bytes ∧
        l.canonical.bytes.length = l.bytes.length ∧ decode l.canonical.bytes = .ok f) ∧
    (∀ (l : Layout) (trailing : Bytes), decode (l.bytes ++ trailing) = .ok l.file) ∧
    ∀ l l' : Layout, l.file = l'.file ↔ l.canonical.bytes = l'.canonical.bytes := by
  refine ⟨fun data f h => ?_, Layout.decode_bytes, fun l l' => Layout.file_eq_iff⟩
  obtain ⟨l, trailing, rfl, rfl⟩ := Layout.decode_eq_ok_iff.mp h
  have hread := l.canonical.decode_bytes []
  rw [List.append_nil, l.file_canonical] at hread
  exact ⟨l, trailing, rfl, l.encode_file, l.length_canonical, hread⟩

/-- A big-endian file with all flags set but the one that has a meaning, a group named by one byte
with the material -2, and a byte behind its end. -/
def strayBits : Bytes :=
  [0x41, 0x4d, 0x53, 0x48, 1, 1, 0xff, 0xfe, 0, 0, 0, 0, 0, 0, 0, 0, 0, 0, 0, 1] ++
    List.replicate 24 0 ++ [0, 1, 0x61, 0xff, 0xff, 0xff, 0xfe, 0, 0, 0, 7, 0, 0, 0, 3, 9]

/-- The file is written without its stray flags and its last byte, and with the material -1. -/
theorem encode_decode_strayBits :
    ∃ f, decode strayBits = .ok f ∧ (∃ (l : Layout) (trailing : Bytes),
      strayBits = l.bytes ++ trailing ∧ encode f.mesh f.platform = .ok l.canonical.bytes ∧
        decode l.canonical.bytes = .ok f) ∧
      encode f.mesh f.platform =
        .ok ([0x41, 0x4d, 0x53, 0x48, 1, 1, 0, 0, 0, 0, 0, 0, 0, 0, 0, 0, 0, 0, 0, 1] ++
          List.replicate 24 0 ++ [0, 1, 0x61, 0xff, 0xff, 0xff, 0xff, 0, 0, 0, 7, 0, 0, 0, 3]) := by
  have hdecode : decode strayBits = .ok ⟨⟨1⟩, 1,
      { groups := [{ name := [0x61], firstIndex := 7, indexCount := 3 }],
        bounds := ⟨⟨⟨0⟩, ⟨0⟩, ⟨0⟩⟩, ⟨⟨0⟩, ⟨0⟩, ⟨0⟩⟩⟩ }⟩ := rfl
  obtain ⟨l, trailing, hbytes, hencode, -, hread⟩ := encode_decode.1 strayBits _ hdecode
  exact ⟨_, hdecode, ⟨l, trailing, hbytes, hencode, hread⟩, rfl⟩

/-- A big-endian file of an empty mesh whose box starts at a signaling NaN: no flag is set, and
there is no group. -/
def signalingBox : Bytes :=
  [0x41, 0x4d, 0x53, 0x48, 1, 1, 0, 0] ++ List.replicate 12 0 ++ [0x7f, 0xa0, 0, 0] ++
    List.replicate 20 0

/-- The file is written with a quiet NaN, so with other bytes although it has no stray flags and no
materials. -/
theorem encode_decode_signalingBox :
    ∃ f data, decode signalingBox = .ok f ∧ f.mesh.groups = [] ∧
      (signalingBox.drop 6).take 2 = [0, 0] ∧ encode f.mesh f.platform = .ok data ∧
      data.length = signalingBox.length ∧ data ≠ signalingBox ∧
      data = signalingBox.set 21 0xe0 :=
  ⟨⟨⟨1⟩, 1, { bounds := ⟨⟨⟨0x7fe00000⟩, ⟨0⟩, ⟨0⟩⟩, ⟨⟨0⟩, ⟨0⟩, ⟨0⟩⟩⟩ }⟩, _, by decide +kernel, rfl, rfl,
    rfl, by decide +kernel, by decide +kernel, by decide +kernel⟩

/-! ## Files that are cut short -/

/-- The records that are written for groups. -/
lemma exists_records {o : ByteOrder} {gs : List Group} (h : ∀ g ∈ gs, g.name.length ≤ 0xffff) :
    ∃ rs : List Record, rs.length = gs.length ∧
      rs.flatMap (Record.bytes o) = gs.flatMap (putGroup o) := by
  induction gs with
  | nil => exact ⟨[], rfl, rfl⟩
  | cons g gs ih =>
    obtain ⟨hg, hgs⟩ := List.forall_mem_cons.mp h
    obtain ⟨rs, hlen, hbytes⟩ := ih hgs
    refine ⟨.ofGroup g hg :: rs, by rw [List.length_cons, hlen, List.length_cons], ?_⟩
    rw [List.flatMap_cons, List.flatMap_cons, hbytes]
    rfl

/-- **What is written is a layout** as long as the groups can be counted. -/
lemma exists_layout_of_encode {m : Mesh} {p : Platform} {data : Bytes} (h : encode m p = .ok data)
    (hgroups : m.groups.length < 2 ^ 32) : ∃ l : Layout, l.bytes = data := by
  obtain ⟨hp, hv, hi, hname, rfl⟩ := encode_eq_ok_iff.mp h
  obtain ⟨rs, hlen, hrecords⟩ := exists_records (o := p.order) hname
  have hcount : rs.length ≤ 0xffffffff := by omega
  have hvertices : m.vertices.flatMap (putVertex p.order m.skinned) =
      (m.vertices.map Vertex.settled).flatMap (vertexBytes p.order m.skinned) := by
    rw [List.flatMap_map, funext (putVertex_eq_bytes p.order m.skinned)]
  refine ⟨⟨p, hp, if m.skinned then 1 else 0, m.bounds.settled, rs, m.vertices.map Vertex.settled,
    m.indices, hcount, by rwa [List.length_map], hi⟩, ?_⟩
  simp only [Layout.bytes, Layout.body, Layout.skinned, flags_skinned, putBody, hlen, hrecords,
    hvertices, putVec3_eq_words, List.length_map]
  rfl

/-- A part of what follows a proper start is either read or cut short. -/
lemma decode_take_cases {p : Platform} (hp : p.isKnown) (body : Bytes) (k : Nat) :
    decode ((magic ++ [p.code, currentVersion] ++ body).take k) = .error ⟨.meshTruncated, []⟩ ∨
      ∃ f, decode ((magic ++ [p.code, currentVersion] ++ body).take k) = .ok f := by
  match k with
  | 0 | 1 | 2 | 3 | 4 | 5 => exact Or.inl rfl
  | k + 6 =>
    have hstart : (magic ++ [p.code, currentVersion] ++ body).take (k + 6) =
        magic ++ [p.code, currentVersion] ++ body.take k := rfl
    rw [hstart]
    cases hbody : getBody p.order (body.take k) with
    | none => exact Or.inl (by simp [decode, magic, hp, hbody])
    | some r => exact Or.inr ⟨_, decode_of_getBody hp hbody⟩

/-- **A layout is not read from a part of it.**

**Proof sketch.** What is read of a part starts with a layout. The whole starts with that layout
  too, so both mean the same file and are of the same length (`Layout.length_eq_of_file_eq`), and
  the part is the whole. -/
lemma Layout.decode_take (l : Layout) {k : Nat} (hk : k < l.bytes.length) :
    decode (l.bytes.take k) = .error ⟨.meshTruncated, []⟩ := by
  refine (decode_take_cases l.known l.body k).resolve_right ?_
  rintro ⟨f, hf⟩
  obtain ⟨l', trailing, hfront, rfl⟩ := decode_eq_ok_iff.mp hf
  have hwhole : l.bytes = l'.bytes ++ (trailing ++ l.bytes.drop k) := by
    rw [← List.append_assoc, ← hfront]
    exact (List.take_append_drop k l.bytes).symm
  have hread := l.decode_bytes []
  rw [List.append_nil, hwhole, l'.decode_bytes] at hread
  have hlen := length_eq_of_file_eq (Except.ok.inj hread)
  have hshort : (l.bytes.take k).length = l'.bytes.length + trailing.length := by
    rw [bytes, hfront, List.length_append]
  rw [List.length_take_of_le (Nat.le_of_lt hk)] at hshort
  omega

/-- **A file that was written is read as a whole only.**

Its size is that of its header, groups, vertices and vertex numbers. Every shorter part of it from
the start is refused as cut short, and it is read as the same file whatever follows it. -/
theorem decode_cut {m : Mesh} {p : Platform} {data : Bytes} (h : encode m p = .ok data)
    (hgroups : m.groups.length < 2 ^ 32) :
    data.length = 44 + (m.groups.map fun g => 14 + g.name.length).sum +
        (if m.skinned then 56 else 32) * m.vertices.length + 4 * m.indices.length ∧
      (∀ front, front <+: data → front ≠ data →
        decode front = .error ⟨.meshTruncated, []⟩) ∧
      ∃ f, decode data = .ok f ∧ ∀ trailing, decode (data ++ trailing) = .ok f := by
  refine ⟨?_, ?_⟩
  · obtain ⟨-, -, -, -, rfl⟩ := encode_eq_ok_iff.mp h
    simp only [magic, List.length_append, length_putBody, List.length_cons, List.length_nil]
    omega
  · obtain ⟨l, rfl⟩ := exists_layout_of_encode h hgroups
    refine ⟨fun front hfront hne => ?_, l.file, ?_, l.decode_bytes⟩
    · obtain ⟨rest, hrest⟩ := hfront
      have hlen : front.length < l.bytes.length := by
        rw [← hrest, List.length_append]
        have hrest' : rest ≠ [] := by
          rintro rfl
          exact hne (by rw [← hrest, List.append_nil])
        have := List.length_pos_iff.mpr hrest'
        omega
      have htake : l.bytes.take front.length = front := by
        rw [← hrest, List.take_left]
      rw [← htake]
      exact l.decode_take hlen
    · rw [← List.append_nil l.bytes]
      exact l.decode_bytes []

/-- A skinned mesh with an odd group is refused without its last byte. -/
theorem decode_cut_oddCharacter :
    ∃ data, encode oddCharacter ⟨2⟩ = .ok data ∧ oddCharacter.groups.length < 2 ^ 32 ∧
      data.length = 142 ∧ decode data.dropLast = .error ⟨.meshTruncated, []⟩ := by
  have hgroups : oddCharacter.groups.length < 2 ^ 32 := by decide
  obtain ⟨data, hdata⟩ : ∃ data, encode oddCharacter ⟨2⟩ = .ok data := ⟨_, rfl⟩
  obtain ⟨hlen, hcut, -⟩ := decode_cut hdata hgroups
  have hlen' : data.length = 142 := hlen
  refine ⟨data, hdata, hgroups, hlen', hcut _ (List.dropLast_prefix _) fun heq => ?_⟩
  have hshort := congrArg List.length heq
  rw [List.length_dropLast, hlen'] at hshort
  omega

end MeshFile

end SceneForge
