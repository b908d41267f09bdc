import SceneForge.Proofs.Scene.Reach

set_option autoImplicit false

/-!
# What a skeleton is

The skeleton of a character is made of the joints of all skins, one skin after the other. The parent
of a joint is looked up by its node: it is the last joint of the same skin that stands for the
node's parent. A node may be a joint of several skins or several times of one, so joints of one node
need not have one parent, and the links between joints are not those between nodes. But every link
between joints goes from a node to a node that lists it. In a valid document lines of ancestors end,
so whoever follows the links from a joint comes to a joint without a parent.

## Main definitions

* `SceneForge.Document.startOf` — where a skin starts in the skeleton.
* `SceneForge.Scene.jointsFrom` — the joints of skins one after the other, said without failure.
* `SceneForge.Scene.Joint.Placed` — what setting up leaves in a joint.
* `SceneForge.Scene.climb` — the joint a number of links above another.

## Main results

* `SceneForge.Scene.skeletonOf_eq_jointsFrom` — the joints of a wired document.
* `SceneForge.Scene.getElem?_jointsFrom_iff` — the joint at a position.
* `SceneForge.Scene.Linked.exists_top` — following links ends.
* `SceneForge.Scene.setup_builds_skeleton` — the skeleton of a valid document.
-/

namespace SceneForge

namespace Document

/-- Where a skin starts: after the joints of all skins before it. -/
def startOf (skins : List Skin) (i : Nat) : Nat := ((skins.take i).map (·.joints.length)).sum

/-- The first skin starts first. -/
@[simp] lemma startOf_zero (skins : List Skin) : startOf skins 0 = 0 := rfl

/-- A skin starts later if there is one more before it. -/
@[simp] lemma startOf_cons_succ (skin : Skin) (skins : List Skin) (i : Nat) :
    startOf (skin :: skins) (i + 1) = skin.joints.length + startOf skins i := by
  simp [startOf]

end Document

namespace Scene

open Document (startOf)

variable {d : Document} {base x : Nat} {skin : Document.Skin} {skins : List Document.Skin}

/-- The positions that are computed for skins are where they start. -/
lemma getElem?_skinBases {i : Nat} (hi : d.skins[i]? = some skin) :
    (skinBases d)[i]? = some (startOf d.skins i) := by
  obtain ⟨hlt, -⟩ := List.getElem?_eq_some_iff.mp hi
  simpa [startOf] using at?_skinBases (d := d) (k := (i : Int)) (by omega)

/-- There is a position for each skin. -/
lemma length_skinBases (d : Document) : (skinBases d).length = d.skins.length := by
  rw [skinBases, foldl_skinBases]
  simp

/-! ## Joints of skins one after the other -/

/-- The last position of a node in a skin, counted from where the skin starts. -/
def seat (base : Nat) (skin : Document.Skin) (node : Int) : Ref :=
  (lastIndex? (· = node) skin.joints).map fun k => ((base + k : Nat) : Int)

/-- The joint for a node in a skin that starts at `base`. -/
def jointAt (d : Document) (base : Nat) (skin : Document.Skin) (node : Int) : Joint where
  name := ((at? d.nodes node).map (·.name)).getD ""
  node := node
  parent := (parentOf d.nodes node).bind (seat base skin)

/-- The joints of skins one after the other, the first of which starts at `base`. -/
def jointsFrom (d : Document) : Nat → List Document.Skin → List Joint
  | _, [] => []
  | base, skin :: skins =>
    skin.joints.map (jointAt d base skin) ++ jointsFrom d (base + skin.joints.length) skins

/-- The joints of a skin of nodes. -/
lemma skinJoints_eq_map (hskin : ∀ j ∈ skin.joints, 0 ≤ j ∧ j < d.nodes.length) :
    skinJoints d base skin = some (skin.joints.map (jointAt d base skin)) := by
  have hjoint : ∀ node ∈ skin.joints,
      (do
        let n ← at? d.nodes node
        let parent := (parentOf d.nodes node).bind fun p =>
          skin.joints.zipIdx.foldl
            (fun last q => if q.1 = p then some ((base + q.2 : Nat) : Int) else last) none
        return ⟨n.name, node, parent⟩ : Option Joint) = pure (jointAt d base skin node) := by
    intro node hnode
    obtain ⟨n, hn⟩ := Option.isSome_iff_exists.mp (isSome_at?_iff.mpr (hskin node hnode))
    have hseat : (fun p => skin.joints.zipIdx.foldl
        (fun last q => if q.1 = p then some ((base + q.2 : Nat) : Int) else last) none) =
          seat base skin := by
      funext p
      exact foldl_zipIdx_eq_map (P := (· = p)) (fun k : Nat => ((base + k : Nat) : Int)) skin.joints
    simp only [hn, hseat, jointAt, Option.bind_eq_bind, Option.bind_some, Option.map_some,
      Option.getD_some]
  rw [skinJoints, mapM_congr hjoint, List.mapM_pure]
  rfl

/-- **The joints of a wired document** are those of its skins, one after the other. -/
lemma skeletonOf_eq_jointsFrom (hw : d.Wired) : skeletonOf d = some (jointsFrom d 0 d.skins) := by
  suffices h : ∀ (skins : List Document.Skin) (joints : List Joint), (∀ s ∈ skins, s ∈ d.skins) →
      skins.foldlM (fun joints skin => do return joints ++ (← skinJoints d joints.length skin))
        joints = some (joints ++ jointsFrom d joints.length skins) by
    exact h d.skins [] fun _ hs => hs
  intro skins
  induction skins with
  | nil => simp [jointsFrom]
  | cons skin skins ih =>
    intro joints hmem
    obtain ⟨hskin, hskins⟩ := List.forall_mem_cons.mp hmem
    rw [List.foldlM_cons, skinJoints_eq_map (hw.skins skin hskin)]
    have hrest := ih (joints ++ skin.joints.map (jointAt d joints.length skin)) hskins
    simpa [jointsFrom] using hrest

/-- The joints stand for the nodes of all skins. -/
lemma map_node_jointsFrom (skins : List Document.Skin) :
    (jointsFrom d base skins).map (·.node) = skins.flatMap (·.joints) := by
  induction skins generalizing base with
  | nil => rfl
  | cons skin skins ih => simp [jointsFrom, ih, jointAt, Function.comp_def]

/-- **The joint at a position** belongs to one skin and to one position in it. -/
lemma getElem?_jointsFrom_iff {j : Joint} :
    (jointsFrom d base skins)[x]? = some j ↔ ∃ i l skin node, skins[i]? = some skin ∧
      skin.joints[l]? = some node ∧ x = startOf skins i + l ∧
        j = jointAt d (base + startOf skins i) skin node := by
  induction skins generalizing base x with
  | nil => simp [jointsFrom]
  | cons skin skins ih =>
    rw [jointsFrom]
    by_cases hx : x < skin.joints.length
    · rw [List.getElem?_append_left (by simpa using hx)]
      constructor
      · intro h
        exact ⟨0, x, skin, skin.joints[x], rfl, by simp [hx], by simp, by simpa [hx] using h.symm⟩
      · rintro ⟨_ | i, l, skin', node, hskin, hnode, rfl, rfl⟩
        · cases hskin
          simpa using ⟨node, by simpa using hnode, rfl⟩
        · simp at hx
          omega
    · rw [List.getElem?_append_right (by simpa using hx), ih]
      constructor
      · rintro ⟨i, l, skin', node, hskin, hnode, hl, rfl⟩
        refine ⟨i + 1, l, skin', node, hskin, hnode, ?_, by simp [Nat.add_assoc]⟩
        simp at hl ⊢
        omega
      · rintro ⟨_ | i, l, skin', node, hskin, hnode, rfl, rfl⟩
        · cases hskin
          obtain ⟨hlt, -⟩ := List.getElem?_eq_some_iff.mp hnode
          simp at hx
          omega
        · refine ⟨i, l, skin', node, hskin, hnode, ?_, by simp [Nat.add_assoc]⟩
          simp
          omega

/-! ## Parents of joints -/

/-- Where a node is seated last. -/
lemma seat_eq_some_iff {node y : Int} : seat base skin node = some y ↔
    ∃ k, IsGreatest {k | skin.joints[k]? = some node} k ∧ y = (base + k : Nat) := by
  rw [seat, Option.map_eq_some_iff]
  simp only [lastIndex?_eq_some_iff, exists_eq_right, eq_comm (a := y)]

/-- A node is seated in a skin exactly if it is one of its joints. -/
lemma isSome_seat_iff {node : Int} : (seat base skin node).isSome ↔ node ∈ skin.joints := by
  rw [seat, Option.isSome_map, ← Option.ne_none_iff_isSome, ne_eq, lastIndex?_eq_none_iff]
  simp

/-- What setting up leaves in the joint at position `l` of a skin that starts at `base`, the node
that the joint stands for being given. -/
structure Joint.Placed (d : Document) (skin : Document.Skin) (base l : Nat) (n : Node)
    (joint : Joint) : Prop where
  /-- The joint stands for the node at this position of the skin. -/
  node : skin.joints[l]? = some joint.node
  /-- It has the name of the node. -/
  name : joint.name = n.name
  /-- The parent of the node is the last node that lists it. -/
  above : ∀ p, n.parent = some p ↔ IsGreatest {q | d.Child q joint.node} p
  /-- It has a parent exactly if the parent of the node is a joint of the same skin. -/
  present : joint.parent.isSome ↔ ∃ p ∈ skin.joints, n.parent = some p
  /-- The parent is at the last position of the parent of the node in the skin. -/
  parent : ∀ y, joint.parent = some y ↔ ∃ p k, n.parent = some p ∧
    IsGreatest {k | skin.joints[k]? = some p} k ∧ y = (base + k : Nat)
  /-- The parent is a joint of the same skin. -/
  within : ∀ y, joint.parent = some y → ∃ k < skin.joints.length, y = (base + k : Nat)

/-- The joint for a node is placed in its skin. -/
lemma placed_jointAt {l : Nat} {node : Int} (hnode : skin.joints[l]? = some node) {n : Node}
    (hname : (at? d.nodes node).map (·.name) = some n.name)
    (hparent : n.parent = parentOf d.nodes node) :
    (jointAt d base skin node).Placed d skin base l n := by
  have hseat : ∀ y, (jointAt d base skin node).parent = some y ↔ ∃ p k, n.parent = some p ∧
      IsGreatest {k | skin.joints[k]? = some p} k ∧ y = (base + k : Nat) := by
    intro y
    simp only [jointAt, ← hparent, Option.bind_eq_some_iff, seat_eq_some_iff, exists_and_left]
  refine ⟨hnode, by simp [jointAt, hname], fun p => ?_, ?_, hseat, fun y hy => ?_⟩
  · rw [hparent, parentOf_eq_some_iff]
    rfl
  · simp only [jointAt, ← hparent, Option.isSome_bind, Option.any_eq_true, isSome_seat_iff]
    exact ⟨fun ⟨p, hp, hmem⟩ => ⟨p, hmem, hp⟩, fun ⟨p, hmem, hp⟩ => ⟨p, hp, hmem⟩⟩
  · obtain ⟨p, k, -, ⟨hk, -⟩, rfl⟩ := (hseat y).mp hy
    obtain ⟨hlt, -⟩ := List.getElem?_eq_some_iff.mp hk
    exact ⟨k, hlt, rfl⟩

/-! ## Following links -/

/-- The joint that is `k` links above a joint, if there are as many. -/
def climb (joints : List Joint) : Nat → Int → Option Int
  | 0, x => some x
  | k + 1, x => ((at? joints x).bind (·.parent)).bind (climb joints k)

/-- Every link goes from the joint of a node to a joint of a node that lists it. -/
def Linked (d : Document) (joints : List Joint) : Prop :=
  ∀ x j y, at? joints x = some j → j.parent = some y →
    ∃ p, at? joints y = some p ∧ d.Child p.node j.node

/-- The joints of skins are linked. -/
lemma linked_jointsFrom (d : Document) : Linked d (jointsFrom d 0 d.skins) := by
  intro x j y hj hy
  obtain ⟨x, rfl, hx⟩ := at?_eq_some_iff.mp hj
  obtain ⟨i, l, skin, node, hskin, hnode, rfl, rfl⟩ := getElem?_jointsFrom_iff.mp hx
  obtain ⟨p, hp, hseat⟩ := Option.bind_eq_some_iff.mp hy
  obtain ⟨k, ⟨hk, -⟩, rfl⟩ := seat_eq_some_iff.mp hseat
  refine ⟨jointAt d (0 + startOf d.skins i) skin p, ?_, (parentOf_eq_some_iff.mp hp).1⟩
  rw [at?_natCast]
  exact getElem?_jointsFrom_iff.mpr ⟨i, k, skin, p, hskin, hk, by rw [Nat.zero_add], rfl⟩

namespace Linked

variable {joints : List Joint}

/-- A joint above another stands for a node above the other's. -/
lemma exists_of_climb (hl : Linked d joints) {k : Nat} {x y : Int} {j : Joint}
    (hj : at? joints x = some j) (hclimb : climb joints (k + 1) x = some y) :
    ∃ p, at? joints y = some p ∧ Relation.TransGen d.Child p.node j.node := by
  induction k generalizing x j with
  | zero =>
    simp only [climb, hj, Option.bind_some, Option.bind_fun_some] at hclimb
    obtain ⟨p, hp, hchild⟩ := hl x j y hj hclimb
    exact ⟨p, hp, .single hchild⟩
  | succ k ih =>
    rw [climb, hj, Option.bind_some, Option.bind_eq_some_iff] at hclimb
    obtain ⟨z, hz, habove⟩ := hclimb
    obtain ⟨q, hq, hchild⟩ := hl x j z hj hz
    obtain ⟨p, hp, hreach⟩ := ih hq habove
    exact ⟨p, hp, hreach.tail hchild⟩

/-- Following links never leads back. -/
lemma climb_ne (hl : Linked d joints) (ha : d.Acyclic) (k : Nat) (x : Int) :
    climb joints (k + 1) x ≠ some x := by
  intro hclimb
  obtain ⟨j, hj⟩ : ∃ j, at? joints x = some j := by
    rw [climb, Option.bind_eq_some_iff] at hclimb
    obtain ⟨y, hy, -⟩ := hclimb
    obtain ⟨j, hj, -⟩ := Option.bind_eq_some_iff.mp hy
    exact ⟨j, hj⟩
  obtain ⟨p, hp, hreach⟩ := hl.exists_of_climb hj hclimb
  rw [hj] at hp
  cases hp
  exact ha j.node hreach

/-- **Following links ends** at a joint without a parent.

**Proof sketch.** Induction along lines of ancestors of the node that the joint stands for. -/
lemma exists_top (hl : Linked d joints) (ha : d.Acyclic) {x : Int} {j : Joint}
    (hj : at? joints x = some j) : ∃ k top last, climb joints k x = some top ∧
      at? joints top = some last ∧ last.parent = none := by
  -- the induction is on the node, because several joints may stand for one
  obtain ⟨i, hi⟩ : ∃ i, i = j.node := ⟨_, rfl⟩
  induction i using ha.wellFounded.induction generalizing x j with
  | _ i ih =>
    subst hi
    cases hparent : j.parent with
    | none => exact ⟨0, x, j, rfl, hj, hparent⟩
    | some y =>
      obtain ⟨p, hp, hchild⟩ := hl x j y hj hparent
      obtain ⟨k, top, last, hclimb, htop⟩ := ih p.node hchild hp rfl
      exact ⟨k + 1, top, last, by simp [climb, hj, hparent, hclimb], htop⟩

end Linked

/-! ## Skeletons -/

/-- **What a skeleton is**. A valid document can be set up as a character at any positive scale. The
skeleton stands for the joints of all skins, one after the other; the positions that are computed
for the skins are where their joints are, and each joint is placed in its skin. Following the links
from any joint leads to a joint without a parent, and never back.

**Proof sketch.** All joints are nodes, so the skeleton is made of one joint for each
(`skeletonOf_eq_jointsFrom`), and the joint at a position is known (`getElem?_jointsFrom_iff`). Its
parent is a joint of a node that lists the joint's node (`linked_jointsFrom`), so following links
goes up a line of ancestors, which ends (`Document.Acyclic.wellFounded`). -/
theorem setup_builds_skeleton (s : Scene) (d : Document) (settings : Settings)
    (hvalid : d.validate = .ok ()) (hscale : Single.lt 0 settings.scale)
    (hmode : settings.mode = .character) :
    ∃ scene, s.setup d settings = .ok scene ∧
      scene.skeleton.map (·.node) = d.skins.flatMap (·.joints) ∧
      (skinBases d).length = d.skins.length ∧
      (∀ (i : Nat) (skin : Document.Skin) (base l : Nat), d.skins[i]? = some skin →
        (skinBases d)[i]? = some base → l < skin.joints.length →
          ∃ joint n, scene.skeleton[base + l]? = some joint ∧
            at? scene.nodes joint.node = some n ∧ joint.Placed d skin base l n) ∧
      (∀ x : Int, 0 ≤ x ∧ x < scene.skeleton.length → ∃ k top last,
        climb scene.skeleton k x = some top ∧ at? scene.skeleton top = some last ∧
          last.parent = none) ∧
      ∀ k x, climb scene.skeleton (k + 1) x ≠ some x := by
  have hw : d.Wired := (Document.validate_eq_ok_iff_wired.mp hvalid).1
  obtain ⟨ws, hws, hlen⟩ := exists_worlds hw settings.scale
  obtain ⟨scene, hsetup, -⟩ := exists_setup s hw hscale
  obtain ⟨ws', joints, hws', hjoints, rfl⟩ := eq_of_setup hsetup
  obtain rfl := Option.some.inj (hws.symm.trans hws')
  rw [if_pos hmode, skeletonOf_eq_jointsFrom hw] at hjoints
  obtain rfl := Option.some.inj hjoints
  have hlinked := linked_jointsFrom d
  refine ⟨_, hsetup, map_node_jointsFrom d.skins, length_skinBases d, ?_, ?_,
    hlinked.climb_ne hw.acyclic⟩
  · intro i skin base l hskin hbase hl
    rw [getElem?_skinBases hskin] at hbase
    obtain rfl := Option.some.inj hbase
    have hnode : skin.joints[l]? = some skin.joints[l] := List.getElem?_eq_getElem hl
    obtain ⟨n, hn⟩ := Option.isSome_iff_exists.mp (isSome_at?_iff.mpr
      (hw.skins skin (List.mem_of_getElem? hskin) _ (List.getElem_mem hl)))
    obtain ⟨world, -, hn'⟩ := at?_nodesOf hlen hn
    refine ⟨jointAt d (startOf d.skins i) skin skin.joints[l], _, ?_, hn',
      placed_jointAt hnode (by rw [hn]; rfl) rfl⟩
    exact getElem?_jointsFrom_iff.mpr ⟨i, l, skin, _, hskin, hnode, rfl, by rw [Nat.zero_add]⟩
  · intro x hx
    obtain ⟨j, hj⟩ := Option.isSome_iff_exists.mp (isSome_at?_iff.mpr hx)
    exact hlinked.exists_top hw.acyclic hj

/-- A leg of which two skins share the knee; the first one has the hip twice. -/
def sharedKnee : Document where
  nodes := [{ name := "hip", children := [1] }, { name := "knee", children := [2] },
    { name := "foot" }]
  skins := [{ joints := [0, 1, 0] }, { joints := [1, 2] }]

/-- In the first skin the knee hangs on the last hip; in the second one, which has no hip, it hangs
on nothing. -/
theorem setup_builds_skeleton_sharedKnee :
    sharedKnee.validate = .ok () ∧ Single.lt 0 1 ∧
      ∃ scene knee knee', ({} : Scene).setup sharedKnee { mode := .character } = .ok scene ∧
        scene.skeleton.map (·.node) = [0, 1, 0, 1, 2] ∧
        scene.skeleton[1]? = some knee ∧ knee.parent = some 2 ∧
        scene.skeleton[3]? = some knee' ∧ knee'.parent = none := by
  have hvalid : sharedKnee.validate = .ok () := rfl
  have hscale : Single.lt 0 1 := by decide +kernel
  have habove : IsGreatest {q | sharedKnee.Child q 1} 0 := parentOf_eq_some_iff.mp rfl
  obtain ⟨scene, hsetup, hnodes, -, hjoint, -⟩ :=
    setup_builds_skeleton {} sharedKnee { mode := .character } hvalid hscale rfl
  obtain ⟨knee, n, hknee, -, hplaced⟩ := hjoint 0 _ 0 1 rfl rfl (by decide)
  obtain ⟨knee', n', hknee', -, hplaced'⟩ := hjoint 1 _ 3 0 rfl rfl (by decide)
  have hnode : knee.node = 1 := (Option.some.inj hplaced.node).symm
  have hnode' : knee'.node = 1 := (Option.some.inj hplaced'.node).symm
  have hparent : knee.parent = some 2 := by
    refine (hplaced.parent 2).mpr ⟨0, 2, (hplaced.above 0).mpr (hnode ▸ habove), ⟨rfl, ?_⟩, rfl⟩
    intro k hk
    obtain ⟨hlt, -⟩ := List.getElem?_eq_some_iff.mp hk
    exact Nat.le_of_lt_succ hlt
  have hparent' : knee'.parent = none := by
    rw [← Option.not_isSome_iff_eq_none, hplaced'.present]
    rintro ⟨p, hmem, hp⟩
    obtain rfl : p = 0 := ((hplaced'.above p).mp hp).unique (hnode' ▸ habove)
    exact absurd hmem (by decide)
  exact ⟨hvalid, hscale, scene, knee, knee', hsetup, hnodes, hknee, hparent, hknee', hparent'⟩

end Scene

end SceneForge
