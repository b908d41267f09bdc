import Mathlib.Data.List.Forall2
import SceneForge.Proofs.Scene.Skeleton

set_option autoImplicit false

/-!
# Which joints a vertex follows

A skinned vertex names up to four joints by their numbers in the skin of its node. Flattening adds
the position where the skin starts in the skeleton, in sixteen bits. Two things are not checked on
the way: that the number is one of a joint of the skin, and that the sum has sixteen bits. So the
vertex follows the joint that it names exactly if the skin has such a joint and the joint where the
sum ends up, wrapped around, stands for the same node. If all skins together have at most as many
joints as sixteen bits count, only the first of the two can fail.

## Main definitions

* `SceneForge.Document.spots` — the vertices that are drawn along a walk.
* `SceneForge.Scene.Attached` — a vertex follows the joint that it names.
* `SceneForge.Scene.Bound` — what flattening leaves in a vertex.

## Main results

* `SceneForge.Scene.lands_of_jointsFrom` — where a joint number ends up.
* `SceneForge.Scene.flatten_binds` — the joints of the vertices of a merged mesh.
-/

namespace SceneForge

/-- Lists that correspond part by part correspond. -/
lemma forall₂_flatMap {α β γ : Type} {R : β → γ → Prop} {f : α → List β} {g : α → List γ}
    {xs : List α} (h : ∀ a ∈ xs, List.Forall₂ R (f a) (g a)) :
    List.Forall₂ R (xs.flatMap f) (xs.flatMap g) := by
  induction xs with
  | nil => exact .nil
  | cons a xs ih =>
    obtain ⟨ha, hrest⟩ := List.forall_mem_cons.mp h
    exact List.rel_append ha (ih hrest)

/-- The vertices that are drawn at visits of nodes, in order: each is a vertex of a primitive that
is drawn at a visit. -/
def Document.spots (d : Document) (vs : List Int) : List (Document.Draw × Nat) :=
  (vs.flatMap d.drawsAt).flatMap fun b =>
    (List.range b.primitive.positions.length).map fun k => (b, k)

namespace Scene

open Document (startOf)

variable {d : Document} {s scene : Scene} {settings : Settings} {skin : Document.Skin} {base : Nat}

/-! ## Joint numbers -/

/-- The four joints that a vertex may follow, as the parts that hold their numbers. -/
def influences : List (Vec4 UInt16 → UInt16) := [Vec4.x, Vec4.y, Vec4.z, Vec4.w]

/-- A vertex follows the joint that it names: the number in the merged mesh is one of a joint of the
skeleton, and this joint stands for the node that the skin has at the vertex's own number. -/
def Attached (scene : Scene) (skin : Document.Skin) (own merged : UInt16) : Prop :=
  ∃ joint, scene.skeleton[merged.toNat]? = some joint ∧ skin.joints[own.toNat]? = some joint.node

/-- Where a joint number of a skin that starts at `base` ends up. -/
structure Lands (d : Document) (scene : Scene) (skin : Document.Skin) (base : Nat)
    (own merged : UInt16) : Prop where
  /-- It is moved by where the skin starts, in sixteen bits. -/
  number : merged.toNat = (base + own.toNat) % 2 ^ 16
  /-- It is right if the node that is found there is the one that is named. -/
  attached : Attached scene skin own merged ↔ ∃ node, skin.joints[own.toNat]? = some node ∧
    (d.skins.flatMap (·.joints))[(base + own.toNat) % 2 ^ 16]? = some node
  /-- If all joints can be counted, it is right if it is the number of a joint of the skin. -/
  counted : (d.skins.flatMap (·.joints)).length ≤ 2 ^ 16 →
    (Attached scene skin own merged ↔ own.toNat < skin.joints.length)

/-- Numbers of sixteen bits add up without what exceeds them. -/
lemma toNat_toUInt16_add (base : Nat) (own : UInt16) :
    (base.toUInt16 + own).toNat = (base + own.toNat) % 2 ^ 16 := by
  rw [UInt16.toNat_add, Nat.toUInt16_eq, UInt16.toNat_ofNat', Nat.mod_add_mod]

/-- **Where a joint number ends up** in the skeleton of all skins. -/
lemma lands_of_jointsFrom (hskeleton : scene.skeleton = jointsFrom d 0 d.skins) {i : Nat}
    (hskin : d.skins[i]? = some skin) (own : UInt16) :
    Lands d scene skin (startOf d.skins i) own ((startOf d.skins i).toUInt16 + own) := by
  have hnodes : scene.skeleton.map (·.node) = d.skins.flatMap (·.joints) := by
    rw [hskeleton, map_node_jointsFrom]
  have hattached : Attached scene skin own ((startOf d.skins i).toUInt16 + own) ↔
      ∃ node, skin.joints[own.toNat]? = some node ∧
        (d.skins.flatMap (·.joints))[(startOf d.skins i + own.toNat) % 2 ^ 16]? = some node := by
    rw [Attached, toNat_toUInt16_add, ← hnodes]
    simp only [List.getElem?_map, Option.map_eq_some_iff]
    constructor
    · rintro ⟨joint, hjoint, hnode⟩
      exact ⟨joint.node, hnode, joint, hjoint, rfl⟩
    · rintro ⟨_, hnode, joint, hjoint, rfl⟩
      exact ⟨joint, hjoint, hnode⟩
  refine ⟨toNat_toUInt16_add _ _, hattached, fun hcount => ?_⟩
  constructor
  · rintro ⟨joint, -, hnode⟩
    exact (List.getElem?_eq_some_iff.mp hnode).1
  · intro hown
    have hnode : skin.joints[own.toNat]? = some skin.joints[own.toNat] :=
      List.getElem?_eq_getElem hown
    have hjoint : scene.skeleton[startOf d.skins i + own.toNat]? =
        some (jointAt d (0 + startOf d.skins i) skin skin.joints[own.toNat]) := by
      rw [hskeleton]
      exact getElem?_jointsFrom_iff.mpr ⟨i, own.toNat, skin, _, hskin, hnode, rfl, rfl⟩
    have hlt : startOf d.skins i + own.toNat < 2 ^ 16 := by
      obtain ⟨hlt, -⟩ := List.getElem?_eq_some_iff.mp hjoint
      rw [← hnodes, List.length_map] at hcount
      omega
    rw [Attached, toNat_toUInt16_add, Nat.mod_eq_of_lt hlt]
    exact ⟨_, hjoint, hnode⟩

/-! ## Vertices -/

/-- What flattening leaves in vertex `k` of a primitive that is drawn at a visit: if the node has a
skin and the vertex both joint numbers and weights, the weights and where the numbers end up. -/
def Bound (d : Document) (scene : Scene) (b : Document.Draw) (k : Nat) (v : Vertex) : Prop :=
  ∀ i skin base own weights, b.node.skin = some i → at? d.skins i = some skin →
    at? (skinBases d) i = some base → b.primitive.joints[k]? = some own →
      b.primitive.weights[k]? = some weights →
        v.weights = weights ∧ ∀ c ∈ influences, Lands d scene skin base (c own) (c v.joints)

/-- The vertices of a primitive are bound. -/
lemma bound_vertices (hskeleton : scene.skeleton = jointsFrom d 0 d.skins)
    (hmode : settings.mode = .character) (b : Document.Draw) (world : Mat4 Single) :
    List.Forall₂ (fun spot v => Bound d scene spot.1 spot.2 v)
      ((List.range b.primitive.positions.length).map fun k => (b, k))
      (b.vertices d settings world) := by
  -- vertices are numbered along with their positions, so both lists follow the positions
  have hnumbers : List.range b.primitive.positions.length =
      b.primitive.positions.zipIdx.map (·.2) := by
    rw [List.zipIdx_map_snd, List.range_eq_range']
  rw [hnumbers, List.map_map, Document.Draw.vertices, List.forall₂_map_left_iff,
    List.forall₂_map_right_iff, List.forall₂_same]
  rintro ⟨pos, k⟩ - i skin base own weights hskin hat hbase hown hweights
  simp only [Function.comp_apply] at hskin hown hweights
  obtain ⟨i, rfl, hi⟩ := at?_eq_some_iff.mp hat
  rw [at?_natCast, getElem?_skinBases hi] at hbase
  obtain rfl := Option.some.inj hbase
  have hbase : d.jointBase settings.mode b.node = some (startOf d.skins i) := by
    simp [Document.jointBase, hmode, hskin, startOf]
  simp only [vertexOf, hbase, hown, hweights, true_and]
  have hlands := fun c : Vec4 UInt16 → UInt16 => lands_of_jointsFrom hskeleton hi (c own)
  intro c hc
  simp only [influences, List.mem_cons, List.not_mem_nil, or_false] at hc
  rcases hc with rfl | rfl | rfl | rfl
  · exact hlands Vec4.x
  · exact hlands Vec4.y
  · exact hlands Vec4.z
  · exact hlands Vec4.w

/-- **Which joints the vertices of a merged mesh follow**. A valid document can be set up as a
character at any positive scale and flattened. The skeleton stands for the joints of all skins; the
vertices of the mesh are those that are drawn along the walk from the roots, in order, and each of
them is bound: its joint numbers end up where the skin of its node starts plus the number, in
sixteen bits, whether or not this is the joint that it names.

**Proof sketch.** The vertices of the mesh are those of the primitives along the walk
(`Prepared.vertices_of_flatten`), and the joint of the skeleton at a position is known
(`getElem?_jointsFrom_iff`), so it is known where a number ends up (`lands_of_jointsFrom`). -/
theorem flatten_binds (s : Scene) (d : Document) (settings : Settings)
    (hvalid : d.validate = .ok ()) (hscale : Single.lt 0 settings.scale)
    (hmode : settings.mode = .character) :
    ∃ scene mesh visits, s.setup d settings = .ok scene ∧ scene.flatten.1 = .ok mesh ∧
      (∀ vs, d.Preorder d.roots vs ↔ vs = visits) ∧
      scene.skeleton.map (·.node) = d.skins.flatMap (·.joints) ∧
      List.Forall₂ (fun spot v => Bound d scene spot.1 spot.2 v) (d.spots visits)
        mesh.vertices := by
  have hw : d.Wired := (Document.validate_eq_ok_iff_wired.mp hvalid).1
  obtain ⟨scene, hsetup, hp⟩ := exists_setup s hw hscale
  have hskeleton : scene.skeleton = jointsFrom d 0 d.skins := by
    obtain ⟨ws, joints, -, hjoints, rfl⟩ := eq_of_setup hsetup
    rw [if_pos hmode, skeletonOf_eq_jointsFrom hw] at hjoints
    exact (Option.some.inj hjoints).symm
  obtain ⟨mesh, -, hflatten, -⟩ := hp.exists_flatten? hw
  have hmesh : scene.flatten.1 = .ok mesh := by rw [hflatten]
  obtain ⟨visits, -, hwalk⟩ := hp.exists_visits hw
  refine ⟨scene, mesh, visits, hsetup, hmesh, ?_, ?_, ?_⟩
  · exact fun vs => ⟨fun h => h.unique hwalk, fun h => h ▸ hwalk⟩
  · rw [hskeleton, map_node_jointsFrom]
  · rw [hp.vertices_of_flatten hw hmesh hwalk]
    exact forall₂_flatMap fun b _ => bound_vertices hskeleton hmode b _

/-- A coat with a skin of one joint, the arm; another skin has the leg. The vertices of the coat
name the only joint, the one after it, and the sixth. -/
def looseCoat : Document where
  nodes := [{ name := "arm" }, { name := "leg" },
    { name := "coat", mesh := some 0, skin := some 0 }]
  meshes := [{ name := "coat", primitives := [
    { positions := [.zero, ⟨1, 0, 0⟩, ⟨0, 1, 0⟩], joints := [.fill 0, .fill 1, .fill 5],
      weights := [.fill 1, .fill 1, .fill 1], indices := some [0, 1, 2] }] }]
  skins := [{ joints := [0] }, { joints := [1] }]
  scenes := [{ nodes := [2] }]

/-- The first vertex follows the arm. The second one follows the leg, which is not of its skin, and
the third one a joint that the skeleton does not have. -/
theorem flatten_binds_looseCoat :
    looseCoat.validate = .ok () ∧ Single.lt 0 1 ∧
      ∃ scene mesh a b c, ({} : Scene).setup looseCoat { mode := .character } = .ok scene ∧
        scene.flatten.1 = .ok mesh ∧ scene.skeleton.map (·.node) = [0, 1] ∧
        mesh.vertices = [a, b, c] ∧ scene.Attached { joints := [0] } 0 a.joints.x ∧
        b.joints.x.toNat = 1 ∧ ¬ scene.Attached { joints := [0] } 1 b.joints.x ∧
        c.joints.x.toNat = 5 ∧ ¬ scene.Attached { joints := [0] } 5 c.joints.x := by
  have hvalid : looseCoat.validate = .ok () := rfl
  have hscale : Single.lt 0 1 := by decide +kernel
  have hwalk : looseCoat.Preorder looseCoat.roots [2] := by
    have hcoat : looseCoat.Preorder [2] _ := .cons rfl .nil .nil
    exact hcoat
  obtain ⟨scene, mesh, visits, hsetup, hflatten, hunique, hskeleton, hbound⟩ :=
    flatten_binds {} looseCoat { mode := .character } hvalid hscale rfl
  obtain rfl := (hunique _).mp hwalk
  have hx : Vec4.x ∈ influences := List.mem_cons_self
  obtain ⟨a, _, ha, hbound', hvertices⟩ := List.forall₂_cons_left_iff.mp hbound
  obtain ⟨b, _, hb, hbound'', rfl⟩ := List.forall₂_cons_left_iff.mp hbound'
  obtain ⟨c, _, hc, hnone, rfl⟩ := List.forall₂_cons_left_iff.mp hbound''
  obtain rfl := List.forall₂_nil_left_iff.mp hnone
  have hfirst := (ha 0 _ 0 _ _ rfl rfl rfl rfl rfl).2 Vec4.x hx
  have hsecond := (hb 0 _ 0 _ _ rfl rfl rfl rfl rfl).2 Vec4.x hx
  have hthird := (hc 0 _ 0 _ _ rfl rfl rfl rfl rfl).2 Vec4.x hx
  refine ⟨hvalid, hscale, scene, mesh, a, b, c, hsetup, hflatten, hskeleton, hvertices,
    hfirst.attached.mpr ⟨0, rfl, rfl⟩, hsecond.number, ?_, hthird.number, ?_⟩
  · exact fun h => absurd ((hsecond.counted (by decide)).mp h) (by decide)
  · exact fun h => absurd ((hthird.counted (by decide)).mp h) (by decide)

end Scene

end SceneForge
