import Mathlib.Algebra.Order.Ring.Int
import Mathlib.Tactic.Common
import SceneForge.Mesh.Codec

set_option autoImplicit false

/-!
# Reading back a mesh file

Every record of the mesh file format is read by a function that returns the record and the bytes
after it. The reader of a record inverts its writer whatever follows, so a sequence of records is
inverted record by record, and a whole file is the composition. What is read is what was written but
for NaNs, which are quiet afterwards.

## Main definitions

* `SceneForge.MeshFile.Inverts` — a reader gives back what a writer put in front of any bytes, up to
  what the format keeps.
* `SceneForge.Mesh.Representable` — the meshes whose fields all fit the format.
* `SceneForge.Mesh.settled`, `SceneForge.Mesh.Quiet` — a mesh with its NaNs made quiet, and the
  meshes without any other NaN.

## Main results

* `SceneForge.MeshFile.encode_eq_ok_iff` — when a mesh is written, and which bytes.
* `SceneForge.MeshFile.length_putBody` — the size of a file, record by record.
* `SceneForge.MeshFile.getBody_inverts` — the reader inverts the writer, in front of any bytes.
* `SceneForge.MeshFile.decode_of_encode` — a written mesh is read back.
* `SceneForge.MeshFile.decode_encode` — a file that was written reads back as the mesh with its NaNs
  made quiet.
-/

namespace SceneForge

/-! ## Quiet words -/

namespace Single

/-- A word has its quiet bit already exactly if setting it changes nothing. -/
lemma quiet_eq_self_iff {a : Single} : a.quiet = a ↔ a.bits.toNat.testBit 22 := by
  have hbits : a.quiet = a ↔ a.bits.toNat ||| 2 ^ 22 = a.bits.toNat := by
    cases a
    simp [quiet, ← UInt32.toNat_inj]
  rw [hbits]
  constructor
  · intro h
    rw [← h, Nat.testBit_or, Nat.testBit_two_pow_self, Bool.or_true]
  · intro h
    apply Nat.eq_of_testBit_eq
    intro i
    rw [Nat.testBit_or, Nat.testBit_two_pow]
    by_cases hi : 22 = i
    · rw [← hi, h, Bool.true_or]
    · simp [hi]

/-- A word is settled exactly if it is not a signaling NaN. -/
lemma settled_eq_self_iff {a : Single} : a.settled = a ↔ a.isSignaling = false := by
  unfold settled isSignaling
  cases a.isNaN <;> simp [quiet_eq_self_iff]

/-- Zero is a settled number. -/
@[simp] lemma settled_zero : (0 : Single).settled = 0 := by decide +kernel

/-- What is settled stays as it is. -/
@[simp] lemma settled_settled (a : Single) : a.settled.settled = a.settled := by
  rw [settled_eq_self_iff, settled, isSignaling]
  split_ifs with h
  · have hbit : a.quiet.quiet = a.quiet := by
      rw [quiet, quiet, UInt32.or_assoc, UInt32.or_self]
    simp [quiet_eq_self_iff.mp hbit]
  · simp [h]

end Single

/-! ## Words -/

namespace ByteOrder

/-- A 16-bit word is put together from its two bytes. -/
lemma word16_bytes (w : UInt16) : word16 w.toUInt8 (w >>> 8).toUInt8 = w := by
  apply UInt16.toBitVec_inj.mp
  apply BitVec.eq_of_getLsbD_eq
  intro i hi
  simp only [word16, UInt16.toBitVec_or, UInt16.toBitVec_shiftLeft, UInt8.toBitVec_toUInt16,
    UInt16.toBitVec_toUInt8, UInt16.toBitVec_shiftRight, UInt16.toBitVec_ofNat, BitVec.ofNat_eq_ofNat,
    BitVec.reduceMod, BitVec.ushiftRight_eq', BitVec.shiftLeft_eq', BitVec.toNat_ofNat,
    Nat.reducePow, Nat.reduceMod, BitVec.getLsbD_or, BitVec.getLsbD_shiftLeft,
    BitVec.getLsbD_setWidth, BitVec.getLsbD_ushiftRight]
  grind

/-- A 32-bit word is put together from its four bytes. -/
lemma word32_bytes (w : UInt32) :
    word32 w.toUInt8 (w >>> 8).toUInt8 (w >>> 16).toUInt8 (w >>> 24).toUInt8 = w := by
  apply UInt32.toBitVec_inj.mp
  apply BitVec.eq_of_getLsbD_eq
  intro i hi
  simp only [word32, UInt32.toBitVec_or, UInt32.toBitVec_shiftLeft, UInt8.toBitVec_toUInt32,
    UInt32.toBitVec_toUInt8, UInt32.toBitVec_shiftRight, UInt32.toBitVec_ofNat, BitVec.ofNat_eq_ofNat,
    BitVec.reduceMod, BitVec.ushiftRight_eq', BitVec.shiftLeft_eq', BitVec.toNat_ofNat,
    Nat.reducePow, Nat.reduceMod, BitVec.getLsbD_or, BitVec.getLsbD_shiftLeft,
    BitVec.getLsbD_setWidth, BitVec.getLsbD_ushiftRight]
  grind

variable (o : ByteOrder)

/-- A 16-bit word takes two bytes. -/
@[simp] lemma length_put16 (w : UInt16) : (o.put16 w).length = 2 := by cases o <;> rfl

/-- A 32-bit word takes four bytes. -/
@[simp] lemma length_put32 (w : UInt32) : (o.put32 w).length = 4 := by cases o <;> rfl

/-- A 16-bit word is read back in either order. -/
@[simp] lemma get16_put16 (w : UInt16) (rest : Bytes) :
    o.get16 (o.put16 w ++ rest) = some (w, rest) := by
  cases o <;> simp [put16, get16, word16_bytes]

/-- A 32-bit word is read back in either order. -/
@[simp] lemma get32_put32 (w : UInt32) (rest : Bytes) :
    o.get32 (o.put32 w ++ rest) = some (w, rest) := by
  cases o <;> simp [put32, get32, word32_bytes]

end ByteOrder

/-! ## Meshes with quiet numbers -/

/-- A vertex with its NaNs made quiet. -/
def Vertex.settled (v : Vertex) : Vertex :=
  ⟨v.position.map Single.settled, v.normal.map Single.settled, v.texCoord.map Single.settled,
    v.joints, v.weights.map Single.settled⟩

/-- A box with its NaNs made quiet. -/
def Bounds.settled (b : Bounds) : Bounds := ⟨b.min.map Single.settled, b.max.map Single.settled⟩

/-- A mesh with its NaNs made quiet. -/
def Mesh.settled (m : Mesh) : Mesh :=
  { m with vertices := m.vertices.map Vertex.settled, bounds := m.bounds.settled }

/-- All floating-point numbers of a vertex. -/
def Vertex.numbers (v : Vertex) : List Single :=
  v.position.toList ++ v.normal.toList ++ v.texCoord.toList ++ v.weights.toList

/-- All floating-point numbers of a mesh. -/
def Mesh.numbers (m : Mesh) : List Single :=
  m.bounds.min.toList ++ m.bounds.max.toList ++ m.vertices.flatMap Vertex.numbers

/-- No number of a mesh is a signaling NaN. -/
def Mesh.Quiet (m : Mesh) : Prop := ∀ a ∈ m.numbers, a.isSignaling = false

instance (m : Mesh) : Decidable m.Quiet :=
  inferInstanceAs (Decidable (∀ a ∈ m.numbers, a.isSignaling = false))

/-- A vertex that is settled stays as it is. -/
@[simp] lemma Vertex.settled_settled (v : Vertex) : v.settled.settled = v.settled := by
  simp [settled, Vec2.map, Vec3.map, Vec4.map]

/-- A box that is settled stays as it is. -/
@[simp] lemma Bounds.settled_settled (b : Bounds) : b.settled.settled = b.settled := by
  simp [settled, Vec3.map]

/-- A vertex is settled exactly if none of its numbers is a signaling NaN. -/
lemma Vertex.settled_eq_self_iff {v : Vertex} :
    v.settled = v ↔ ∀ a ∈ v.numbers, a.isSignaling = false := by
  obtain ⟨⟨px, py, pz⟩, ⟨nx, ny, nz⟩, ⟨tx, ty⟩, joints, ⟨wx, wy, wz, ww⟩⟩ := v
  simp [settled, numbers, Vec2.map, Vec3.map, Vec4.map, Vec2.toList, Vec3.toList, Vec4.toList,
    Single.settled_eq_self_iff, and_assoc]

/-- **A mesh is settled** exactly if none of its numbers is a signaling NaN. -/
lemma Mesh.settled_eq_self_iff {m : Mesh} : m.settled = m ↔ m.Quiet := by
  have hvertices : m.vertices.map Vertex.settled = m.vertices ↔
      ∀ v ∈ m.vertices, ∀ a ∈ v.numbers, a.isSignaling = false := by
    conv_lhs => rhs; rw [← List.map_id m.vertices]
    simp only [List.map_inj_left, id_eq, Vertex.settled_eq_self_iff]
  have hbounds : m.bounds.settled = m.bounds ↔
      ∀ a ∈ m.bounds.min.toList ++ m.bounds.max.toList, a.isSignaling = false := by
    obtain ⟨-, -, -, ⟨⟨ax, ay, az⟩, ⟨bx, by', bz⟩⟩, -⟩ := m
    simp [Bounds.settled, Vec3.map, Vec3.toList, Single.settled_eq_self_iff, and_assoc]
  have hparts : m.settled = m ↔
      m.vertices.map Vertex.settled = m.vertices ∧ m.bounds.settled = m.bounds := by
    cases m
    simp [settled]
  rw [hparts, hvertices, hbounds, and_comm]
  simp only [Quiet, numbers, List.forall_mem_append, List.mem_flatMap, forall_exists_index, and_imp]
  exact and_congr_right fun _ => ⟨fun h a v hv ha => h v hv a ha, fun h v hv a ha => h a v hv ha⟩

namespace MeshFile

/-! ## Readers and writers -/

/-- A reader gives what the format keeps of a record that a writer put in front of any bytes, and
those bytes. -/
def Inverts {α : Type} (get : Bytes → Option (α × Bytes)) (put : α → Bytes) (kept : α → α) (a : α) :
    Prop :=
  ∀ rest, get (put a ++ rest) = some (kept a, rest)

/-- A sequence of records is read back if each of them is. -/
lemma getMany_flatMap {α : Type} {get : Bytes → Option (α × Bytes)} {put : α → Bytes} {kept : α → α}
    {as : List α} (h : ∀ a ∈ as, Inverts get put kept a) (rest : Bytes) :
    getMany get as.length (as.flatMap put ++ rest) = some (as.map kept, rest) := by
  induction as with
  | nil => rfl
  | cons a as ih =>
    have ha := h a (by simp) (as.flatMap put ++ rest)
    have has := ih fun b hb => h b (by simp [hb])
    simp [getMany, ha, has]

/-- Bytes are read back if their number is known. -/
lemma getBytes_append (bs rest : Bytes) : getBytes bs.length (bs ++ rest) = some (bs, rest) := by
  simp [getBytes]

section Records

variable (o : ByteOrder)

/-- A number is read back as a quiet one. -/
@[simp] lemma getSingle_putSingle (a : Single) (rest : Bytes) :
    getSingle o (putSingle o a ++ rest) = some (a.settled, rest) := by
  have hword : (⟨a.settled.bits⟩ : Single).settled = a.settled := a.settled_settled
  simp [getSingle, putSingle, hword]

/-- Two numbers are read back as quiet ones. -/
@[simp] lemma getVec2_putVec2 (v : Vec2 Single) (rest : Bytes) :
    getVec2 o (putVec2 o v ++ rest) = some (v.map Single.settled, rest) := by
  simp [getVec2, putVec2, Vec2.toList, Vec2.map]

/-- Three numbers are read back as quiet ones. -/
@[simp] lemma getVec3_putVec3 (v : Vec3 Single) (rest : Bytes) :
    getVec3 o (putVec3 o v ++ rest) = some (v.map Single.settled, rest) := by
  simp [getVec3, putVec3, Vec3.toList, Vec3.map]

/-- Four numbers are read back as quiet ones. -/
@[simp] lemma getVec4_putVec4 (v : Vec4 Single) (rest : Bytes) :
    getVec4 o (putVec4 o v ++ rest) = some (v.map Single.settled, rest) := by
  simp [getVec4, putVec4, Vec4.toList, Vec4.map]

/-- Four joint numbers are read back. -/
@[simp] lemma getJoints_put16 (v : Vec4 UInt16) (rest : Bytes) :
    getJoints o (v.toList.flatMap o.put16 ++ rest) = some (v, rest) := by
  simp [getJoints, Vec4.toList]

/-- Two numbers take eight bytes. -/
@[simp] lemma length_putVec2 (v : Vec2 Single) : (putVec2 o v).length = 8 := by
  simp [putVec2, Vec2.toList, putSingle]

/-- Three numbers take twelve bytes. -/
@[simp] lemma length_putVec3 (v : Vec3 Single) : (putVec3 o v).length = 12 := by
  simp [putVec3, Vec3.toList, putSingle]

/-- Four numbers take sixteen bytes. -/
@[simp] lemma length_putVec4 (v : Vec4 Single) : (putVec4 o v).length = 16 := by
  simp [putVec4, Vec4.toList, putSingle]

/-- A group takes fourteen bytes and its name. -/
@[simp] lemma length_putGroup (g : Group) : (putGroup o g).length = 14 + g.name.length := by
  simp [putGroup]
  omega

/-- A vertex takes 56 bytes with joints and weights, 32 without. -/
@[simp] lemma length_putVertex (skinned : Bool) (v : Vertex) :
    (putVertex o skinned v).length = if skinned then 56 else 32 := by
  cases skinned <;> simp [putVertex, Vec4.toList]

end Records

/-! ## Fields that fit -/

end MeshFile

/-- A group whose numbers are codes of the format: its material is a non-negative signed word, its
first position and its count are unsigned words. -/
structure Group.Representable (g : Group) : Prop where
  /-- The material is absent or a non-negative signed word. -/
  material : ∀ i, g.material = some i → 0 ≤ i ∧ i < 2 ^ 31
  /-- The first position is an unsigned word. -/
  firstIndex : 0 ≤ g.firstIndex ∧ g.firstIndex < 2 ^ 32
  /-- The count is an unsigned word. -/
  indexCount : 0 ≤ g.indexCount ∧ g.indexCount < 2 ^ 32

/-- A mesh whose fields the format does not cut: groups can be counted and have codes, and vertices
have joints and weights only if the mesh is skinned. -/
structure Mesh.Representable (m : Mesh) : Prop where
  /-- The groups can be counted. -/
  groupCount : m.groups.length < 2 ^ 32
  /-- The numbers of every group are codes. -/
  groups : ∀ g ∈ m.groups, g.Representable
  /-- The vertices of a static mesh have neither joints nor weights. -/
  vertices : m.skinned = false → ∀ v ∈ m.vertices, v.joints = .fill 0 ∧ v.weights = .fill 0

namespace MeshFile

/-- The low 32 bits of an unsigned word are the word. -/
lemma toNat_cut32 {n : Int} (h : 0 ≤ n ∧ n < 2 ^ 32) : ((cut32 n).toNat : Int) = n := by
  have hmod : n % 4294967296 = n := Int.emod_eq_of_lt h.1 h.2
  have hlt : n.toNat < 4294967296 := by omega
  rw [cut32, hmod]
  simp only [Nat.toUInt32_eq, UInt32.toNat_ofNat', Nat.mod_eq_of_lt hlt]
  omega

/-- The material of a group is read back from its code; none has a negative code. -/
lemma materialOf_cut32 {r : Ref} (h : ∀ i, r = some i → 0 ≤ i ∧ i < 2 ^ 31) :
    materialOf (cut32 (r.getD (-1))) = r := by
  cases r with
  | none => rfl
  | some i =>
    obtain ⟨h0, h1⟩ := h i rfl
    have hi : ((cut32 i).toNat : Int) = i := toNat_cut32 ⟨h0, by omega⟩
    have hlt : (cut32 i).toNat < 2147483648 := by omega
    simp [materialOf, hlt, hi]

/-- A count that fits is read back. -/
lemma toNat_toUInt32 {n : Nat} (h : n < 2 ^ 32) : n.toUInt32.toNat = n := by
  simp only [Nat.toUInt32_eq, UInt32.toNat_ofNat', Nat.mod_eq_of_lt h]

variable (o : ByteOrder)

/-- A group is read back if its name can be counted and its numbers are codes. -/
lemma getGroup_inverts {g : Group} (hname : g.name.length ≤ 0xffff) (hg : g.Representable) :
    Inverts (getGroup o) (putGroup o) id g := by
  intro rest
  have hlen : g.name.length.toUInt16.toNat = g.name.length := by
    simp only [Nat.toUInt16_eq, UInt16.toNat_ofNat']
    omega
  have hfirst := toNat_cut32 hg.firstIndex
  have hcount := toNat_cut32 hg.indexCount
  simp only [getGroup, putGroup, List.append_assoc, ByteOrder.get16_put16, Option.bind_eq_bind,
    Option.bind_some, hlen, getBytes_append, ByteOrder.get32_put32, materialOf_cut32 hg.material,
    hfirst, hcount]
  rfl

/-- A vertex is read back in the layout of its mesh, with quiet numbers. -/
lemma getVertex_inverts {skinned : Bool} {v : Vertex}
    (hv : skinned = false → v.joints = .fill 0 ∧ v.weights = .fill 0) :
    Inverts (getVertex o skinned) (putVertex o skinned) Vertex.settled v := by
  intro rest
  cases skinned with
  | true => simp [getVertex, putVertex, Vertex.settled]
  | false =>
    obtain ⟨hj, hw⟩ := hv rfl
    simp [getVertex, putVertex, Vertex.settled, hj, hw, Vec4.fill, Vec4.map]

/-! ## The body -/

/-- The groups take fourteen bytes each and their names. -/
lemma length_groups (gs : List Group) :
    (gs.flatMap (putGroup o)).length = (gs.map fun g => 14 + g.name.length).sum := by
  simp [List.length_flatMap]

/-- **The size of a file** after its version: 38 bytes of flags, counts and bounds, then the groups,
the vertices and the vertex numbers. -/
lemma length_putBody (m : Mesh) :
    (putBody o m).length = 38 + (m.groups.map fun g => 14 + g.name.length).sum +
      (if m.skinned then 56 else 32) * m.vertices.length + 4 * m.indices.length := by
  have hv : (m.vertices.flatMap (putVertex o m.skinned)).length =
      (if m.skinned then 56 else 32) * m.vertices.length := by
    simp [List.length_flatMap, List.map_const', Nat.mul_comm]
  have hi : (m.indices.flatMap o.put32).length = 4 * m.indices.length := by
    simp [List.length_flatMap, List.map_const', Nat.mul_comm]
  simp only [putBody, List.length_append, ByteOrder.length_put16, ByteOrder.length_put32,
    length_putVec3, length_groups, hv, hi]

/-- Every group takes at least four bytes. -/
lemma four_mul_length_le_sum (gs : List Group) :
    4 * gs.length ≤ (gs.map fun g => 14 + g.name.length).sum := by
  induction gs with
  | nil => exact Nat.le_refl _
  | cons g gs ih =>
    simp only [List.length_cons, List.map_cons, List.sum_cons]
    omega

/-- **The counts pass the guard**: after flags, counts and bounds there are at least four bytes for
every group, vertex and vertex number. -/
lemma counts_le_quarter (m : Mesh) :
    m.groups.length + m.vertices.length + m.indices.length ≤
      ((putBody o m).length - 38) / 4 := by
  have hlen := length_putBody o m
  have hg := four_mul_length_le_sum m.groups
  have hv : 4 * m.vertices.length ≤ (if m.skinned then 56 else 32) * m.vertices.length :=
    Nat.mul_le_mul_right _ (by split <;> omega)
  omega

/-- The flags of a mesh say whether it is skinned. -/
lemma flags_skinned (skinned : Bool) :
    ((if skinned then 1 else 0 : UInt16).toNat % 2 == 1) = skinned := by
  cases skinned <;> rfl

/-- **The reader inverts the writer**, in front of any bytes and up to NaNs.

**Proof sketch.** Flags and counts are read back as words, the bounds as quiet numbers. The guard
  passes by `counts_le_quarter`, more bytes behind the file only helping it. Groups, vertices and
  vertex numbers are sequences of records that are each read back. -/
lemma getBody_inverts {m : Mesh} (hm : m.Representable) (hv : m.vertices.length ≤ 0xffffffff)
    (hi : m.indices.length ≤ 0xffffffff) (hname : ∀ g ∈ m.groups, g.name.length ≤ 0xffff) :
    Inverts (getBody o) (putBody o) Mesh.settled m := by
  intro rest
  have hgroups := getMany_flatMap (fun g hg => getGroup_inverts o (hname g hg) (hm.groups g hg))
    (m.vertices.flatMap (putVertex o m.skinned) ++ (m.indices.flatMap o.put32 ++ rest))
  have hvertices := getMany_flatMap (fun v hv => getVertex_inverts o fun hs => hm.vertices hs v hv)
    (m.indices.flatMap o.put32 ++ rest)
  have hindices : getMany o.get32 m.indices.length (m.indices.flatMap o.put32 ++ rest) =
      some (m.indices.map id, rest) := getMany_flatMap (fun w _ => o.get32_put32 w) rest
  have hguard : ¬ m.groups.length + m.vertices.length + m.indices.length >
      (m.groups.flatMap (putGroup o) ++ (m.vertices.flatMap (putVertex o m.skinned) ++
        (m.indices.flatMap o.put32 ++ rest))).length / 4 := by
    have hc := counts_le_quarter o m
    have hlen : (putBody o m).length = 38 + (m.groups.flatMap (putGroup o) ++
        (m.vertices.flatMap (putVertex o m.skinned) ++ m.indices.flatMap o.put32)).length := by
      simp only [putBody, List.length_append, ByteOrder.length_put16, ByteOrder.length_put32,
        length_putVec3]
      omega
    simp only [List.length_append] at hlen ⊢
    omega
  simp only [getBody, putBody, List.append_assoc, ByteOrder.get16_put16, ByteOrder.get32_put32,
    getVec3_putVec3, Option.bind_eq_bind, Option.bind_some, toNat_toUInt32 hm.groupCount,
    toNat_toUInt32 (Nat.lt_succ_of_le hv), toNat_toUInt32 (Nat.lt_succ_of_le hi), flags_skinned,
    if_neg hguard, hgroups, hvertices, hindices, List.map_id]
  rfl

/-! ## Whole files -/

/-- **When a mesh is written**: the platform is known, vertices and vertex numbers can be counted,
and so can the bytes of every name. -/
lemma encode_eq_ok_iff {m : Mesh} {p : Platform} {data : Bytes} :
    encode m p = .ok data ↔ p.isKnown ∧ m.vertices.length ≤ 0xffffffff ∧
      m.indices.length ≤ 0xffffffff ∧ (∀ g ∈ m.groups, g.name.length ≤ 0xffff) ∧
      data = magic ++ [p.code, currentVersion] ++ putBody p.order m := by
  have hlong : (m.groups.find? fun g => decide (g.name.length > 0xffff)) = none ↔
      ∀ g ∈ m.groups, g.name.length ≤ 0xffff := by
    simp only [List.find?_eq_none, decide_eq_true_eq, gt_iff_lt, Nat.not_lt]
  rw [encode, ← hlong]
  split_ifs with hp hc
  · simp_all
  · simp only [Bool.or_eq_true, decide_eq_true_eq] at hc
    simp only [false_iff]
    omega
  · simp only [Bool.or_eq_true, decide_eq_true_eq, not_or, Nat.not_lt, gt_iff_lt] at hc
    simp only [Bool.not_eq_true', Bool.not_eq_false] at hp
    split
    · next g hg =>
      simp [hg]
    · next hg =>
      constructor
      · intro h
        injection h with h
        exact ⟨hp, hc.1, hc.2, hg, h.symm⟩
      · rintro ⟨-, -, -, -, h⟩
        rw [h]

/-- A file with the magic, a known platform and the written version holds the mesh of its body. -/
lemma decode_of_getBody {p : Platform} (hp : p.isKnown) {body rest : Bytes} {m : Mesh}
    (hbody : getBody p.order body = some (m, rest)) :
    decode (magic ++ [p.code, currentVersion] ++ body) = .ok ⟨p, currentVersion, m⟩ := by
  simp [decode, magic, hp, hbody]

/-- **A written mesh is read back** for the platform that it was written for, with its NaNs made
quiet. -/
lemma decode_of_encode {m : Mesh} {p : Platform} {data : Bytes} (h : encode m p = .ok data)
    (hm : m.Representable) : decode data = .ok ⟨p, 1, m.settled⟩ := by
  obtain ⟨hp, hv, hi, hname, rfl⟩ := encode_eq_ok_iff.mp h
  have hbody := getBody_inverts p.order hm hv hi hname []
  rw [List.append_nil] at hbody
  exact decode_of_getBody hp hbody

/-- A written mesh is read back as it was exactly if none of its numbers is a signaling NaN. -/
lemma decode_eq_iff_quiet {m : Mesh} {p : Platform} {data : Bytes} (h : encode m p = .ok data)
    (hm : m.Representable) : decode data = .ok ⟨p, 1, m⟩ ↔ m.Quiet := by
  rw [decode_of_encode h hm, ← Mesh.settled_eq_self_iff]
  simp

/-- **A mesh file reads back**: what was written of a representable mesh for a platform is read as
that platform, the written version and the mesh with its NaNs made quiet. This is the very mesh
exactly if none of its numbers is a signaling NaN. The guard on the counts holds of every file that
was written. -/
theorem decode_encode {m : Mesh} {p : Platform} {data : Bytes} (he : encode m p = .ok data)
    (hm : m.Representable) :
    decode data = .ok ⟨p, 1, m.settled⟩ ∧ (decode data = .ok ⟨p, 1, m⟩ ↔ m.Quiet) ∧
      m.groups.length + m.vertices.length + m.indices.length ≤ (data.length - 44) / 4 := by
  refine ⟨decode_of_encode he hm, decode_eq_iff_quiet he hm, ?_⟩
  obtain ⟨-, -, -, -, rfl⟩ := encode_eq_ok_iff.mp he
  have hc := counts_le_quarter p.order m
  have hlen : (magic ++ [p.code, currentVersion] ++ putBody p.order m).length - 44 =
      (putBody p.order m).length - 38 := by
    simp only [magic, List.length_append, List.length_cons, List.length_nil]
    omega
  rw [hlen]
  exact hc

/-- A point whose first coordinate is a signaling NaN. -/
def signalingPoint : Mesh where
  vertices := [{ position := ⟨⟨0x7fa00000⟩, 0, 0⟩ }]
  indices := [0, 0, 0]
  groups := [{ indexCount := 3 }]

/-- The point fits the format and is written, but it is read back with a quiet NaN. -/
theorem decode_encode_signalingPoint :
    signalingPoint.Representable ∧ ∃ data, encode signalingPoint ⟨0⟩ = .ok data ∧
      decode data ≠ .ok ⟨⟨0⟩, 1, signalingPoint⟩ ∧
      decode data = .ok ⟨⟨0⟩, 1, { signalingPoint with
        vertices := [{ position := ⟨⟨0x7fe00000⟩, 0, 0⟩ }] }⟩ := by
  refine ⟨⟨by decide, ?_, ?_⟩, _, rfl, ?_, ?_⟩
  · simp only [signalingPoint, List.mem_singleton, forall_eq]
    exact ⟨by simp, by simp, by simp⟩
  · simp [signalingPoint]
  · decide +kernel
  · decide +kernel

/-- A skinned mesh with the greatest material and joint number, a NaN, and group names that are not
text. -/
def oddCharacter : Mesh where
  vertices := [{ position := ⟨⟨0x7fc00001⟩, 1, ⟨0x80000000⟩⟩, joints := ⟨0xffff, 1, 2, 3⟩,
                 weights := .fill 1 }]
  indices := [0, 0, 0xffffffff]
  groups := [{ name := [0xff, 0], material := some 0x7fffffff, indexCount := 3 },
    { firstIndex := 0xffffffff }]
  bounds := ⟨⟨1, 0, 0⟩, .zero⟩
  skinned := true

/-- The odd mesh is written for a big-endian platform and reads back: its NaN is a quiet one. -/
theorem decode_encode_oddCharacter :
    ∃ data, encode oddCharacter ⟨2⟩ = .ok data ∧ oddCharacter.Representable ∧ oddCharacter.Quiet ∧
      decode data = .ok ⟨⟨2⟩, 1, oddCharacter⟩ := by
  have hm : oddCharacter.Representable := by
    refine ⟨by decide, fun g hg => ?_, by simp [oddCharacter]⟩
    simp only [oddCharacter, List.mem_cons, List.not_mem_nil, or_false] at hg
    rcases hg with rfl | rfl
    · exact ⟨by simp, by simp, by simp⟩
    · exact ⟨by simp, by simp, by simp⟩
  have hquiet : oddCharacter.Quiet := by decide +kernel
  exact ⟨_, rfl, hm, hquiet, (decode_encode rfl hm).2.1.mpr hquiet⟩

end MeshFile

end SceneForge
