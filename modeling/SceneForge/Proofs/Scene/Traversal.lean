import SceneForge.Proofs.Document.Validity
import SceneForge.Scene.Flatten

set_option autoImplicit false

/-!
# Traversing a valid document

Setting up a scene places every node below the roots, and flattening visits them once more. Both
walk down the hierarchy with fuel for as many levels as there are nodes and one more. In a valid
document all look-ups succeed and the fuel is enough, so both walks can be described without it.

## Main definitions

* `SceneForge.Document.Preorder` — the visits of a depth-first walk, a node before its children.
* `SceneForge.Scene.Prepared` — a scene that was set up from a document and not flattened yet.

## Main results

* `SceneForge.Document.Preorder.unique` — the walk is determined by where it starts.
* `SceneForge.Scene.exists_setup` — a valid document can be set up at any positive scale.
* `SceneForge.Scene.Prepared.exists_visits` — the visits of a prepared scene are that walk.
-/

namespace SceneForge

/-! ## Partial loops -/

section Loops

variable {α β : Type}

/-- A loop over a list succeeds if every step does and keeps what the next one needs. -/
lemma foldlM_isSome {f : β → α → Option β} {P : β → Prop} {xs : List α}
    (h : ∀ a ∈ xs, ∀ b, P b → ∃ b', f b a = some b' ∧ P b') :
    ∀ b, P b → ∃ b', xs.foldlM f b = some b' ∧ P b' := by
  induction xs with
  | nil => exact fun b hb => ⟨b, rfl, hb⟩
  | cons a xs ih =>
    intro b hb
    obtain ⟨b₁, h₁, hb₁⟩ := h a (by simp) b hb
    obtain ⟨b₂, h₂, hb₂⟩ := ih (fun c hc => h c (by simp [hc])) b₁ hb₁
    exact ⟨b₂, by rw [List.foldlM_cons, h₁]; exact h₂, hb₂⟩

/-- A partial map over a list succeeds if it does on every entry; what is seen of the results is
what is expected of the entries. -/
lemma exists_mapM {γ : Type} {f : α → Option β} {g : β → γ} {h : α → γ} {xs : List α}
    (hf : ∀ a ∈ xs, ∃ b, f a = some b ∧ g b = h a) :
    ∃ bs, xs.mapM f = some bs ∧ bs.map g = xs.map h := by
  induction xs with
  | nil => exact ⟨[], rfl, rfl⟩
  | cons a xs ih =>
    obtain ⟨b, hb, hg⟩ := hf a (by simp)
    obtain ⟨bs, hbs, hgs⟩ := ih fun c hc => hf c (by simp [hc])
    exact ⟨b :: bs, by simp [hb, hbs], by simp [hg, hgs]⟩

end Loops

namespace Document

variable {d : Document}

/-! ## Depth-first walks -/

/-- The visits of a depth-first walk from nodes one after the other: a node before its children, the
children in order, one entry per visit. -/
inductive Preorder (d : Document) : List Int → List Int → Prop where
  /-- A walk from nowhere. -/
  | nil : Preorder d [] []
  /-- A walk from a node visits it, walks from its children, and then from the nodes after it. -/
  | cons {i : Int} {n : Node} {rest below after : List Int} (node : at? d.nodes i = some n)
      (children : Preorder d n.children below) (others : Preorder d rest after) :
      Preorder d (i :: rest) (i :: below ++ after)

/-- A walk is determined by the nodes that it starts from. -/
lemma Preorder.unique {starts vs ws : List Int} (h : d.Preorder starts vs)
    (h' : d.Preorder starts ws) : vs = ws := by
  induction h generalizing ws with
  | nil => cases h'; rfl
  | cons node _ _ ihc iho =>
    cases h' with
    | cons node' children' others' =>
      rw [node] at node'
      cases node'
      rw [ihc children', iho others']

/-- Every visited node exists. -/
lemma Preorder.exists_node {starts vs : List Int} (h : d.Preorder starts vs) :
    ∀ i ∈ vs, ∃ n, at? d.nodes i = some n := by
  induction h with
  | nil => simp
  | cons node _ _ ihc iho =>
    intro j hj
    simp only [List.cons_append, List.mem_cons, List.mem_append] at hj
    rcases hj with rfl | hj | hj
    · exact ⟨_, node⟩
    · exact ihc j hj
    · exact iho j hj

/-- A walk from one node is followed by a walk from others. -/
lemma Preorder.append {i : Int} {rest vs ws : List Int} (h : d.Preorder [i] vs)
    (h' : d.Preorder rest ws) : d.Preorder (i :: rest) (vs ++ ws) := by
  cases h with
  | cons node children others =>
    cases others
    simpa using Preorder.cons node children h'

/-! ## Roots -/

/-- The children of a wired document exist. -/
lemma Wired.childrenExist (hw : d.Wired) : d.ChildrenExist := fun n hn => (hw.nodes n hn).2.2

/-- Everything below a node of a wired document fits. -/
lemma Wired.fits (hw : d.Wired) {i : Int} (hi : 0 ≤ i ∧ i < d.nodes.length) :
    d.Fits d.nodes.length i :=
  hw.acyclic.fits hw.childrenExist hi

/-- The nodes that are nobody's child are nodes. -/
lemma inRange_of_mem_orphans {i : Int} (hi : i ∈ d.orphans) : 0 ≤ i ∧ i < d.nodes.length := by
  simp only [orphans, List.mem_filter, List.mem_map, List.mem_range] at hi
  obtain ⟨⟨k, hk, rfl⟩, -⟩ := hi
  exact ⟨Int.natCast_nonneg k, by simpa using hk⟩

/-- The roots are those of a scene, or the nodes that are nobody's child. -/
lemma roots_cases (d : Document) : d.roots = d.orphans ∨ ∃ s ∈ d.scenes, d.roots = s.nodes := by
  unfold roots
  cases d.defaultScene with
  | none =>
    cases d.scenes with
    | nil => exact Or.inl rfl
    | cons s ss => exact Or.inr ⟨s, by simp, rfl⟩
  | some i =>
    simp only
    cases hi : at? d.scenes i with
    | some s => exact Or.inr ⟨s, mem_of_at?_eq_some hi, rfl⟩
    | none =>
      cases d.scenes with
      | nil => exact Or.inl rfl
      | cons s ss => exact Or.inr ⟨s, by simp, rfl⟩

/-- The roots of a wired document are nodes. -/
lemma Wired.roots_inRange (hw : d.Wired) {i : Int} (hi : i ∈ d.roots) :
    0 ≤ i ∧ i < d.nodes.length := by
  rcases d.roots_cases with h | ⟨s, hs, h⟩
  · exact inRange_of_mem_orphans (h ▸ hi)
  · exact hw.scenes s hs i (h ▸ hi)

end Document

namespace Scene

variable {d : Document}

/-! ## Setting up -/

/-- Placing a node succeeds if everything below it fits, and keeps the number of transforms. -/
lemma exists_place {k : Nat} : ∀ {fuel : Nat} {i : Int}, d.Fits k i → k ≤ fuel →
    ∀ (parent : Mat4 Single) (ws : List (Mat4 Single)),
      ∃ ws', place d.nodes fuel parent ws i = some ws' ∧ ws'.length = ws.length := by
  induction k with
  | zero => exact fun h => h.elim
  | succ k ih =>
    rintro (_ | fuel) i ⟨n, hn, hc⟩ hle parent ws
    · omega
    · have hstep : ∀ c ∈ n.children, ∀ vs : List (Mat4 Single), vs.length = ws.length →
          ∃ vs', place d.nodes fuel (parent * n.local) vs c = some vs' ∧
            vs'.length = ws.length := by
        intro c hmem vs hvs
        obtain ⟨vs', h, hlen⟩ := ih (hc c hmem) (Nat.le_of_succ_le_succ hle) (parent * n.local) vs
        exact ⟨vs', h, hlen.trans hvs⟩
      obtain ⟨ws', h, hlen⟩ := foldlM_isSome hstep (ws.set i.toNat (parent * n.local)) (by simp)
      exact ⟨ws', by simp [place, hn, h], hlen⟩

/-- Every node of a wired document has a world transform. -/
lemma exists_worlds (hw : d.Wired) (scale : Single) :
    ∃ ws, worlds d scale = some ws ∧ ws.length = d.nodes.length := by
  refine foldlM_isSome (fun i hi vs hvs => ?_) _ (by simp)
  obtain ⟨vs', h, hlen⟩ := exists_place (hw.fits (hw.roots_inRange hi)) (Nat.le_succ _)
    (Mat4.scaling (.fill scale)) vs
  exact ⟨vs', h, hlen.trans hvs⟩

/-- The joints of all skins of a wired document are nodes. -/
lemma exists_skeletonOf (hw : d.Wired) : ∃ joints, skeletonOf d = some joints := by
  have hskin : ∀ skin ∈ d.skins, ∀ joints : List Joint, True →
      ∃ joints', (do return joints ++ (← skinJoints d joints.length skin)) = some joints' ∧
        True := by
    intro skin hskin joints _
    obtain ⟨js, hjs, -⟩ : ∃ js, skinJoints d joints.length skin = some js ∧
        js.map Joint.node = skin.joints.map id := by
      refine exists_mapM fun j hj => ?_
      obtain ⟨n, hn⟩ := Option.isSome_iff_exists.mp (isSome_at?_iff.mpr (hw.skins skin hskin j hj))
      exact ⟨_, by rw [hn]; rfl, rfl⟩
    exact ⟨joints ++ js, by simp [hjs], trivial⟩
  obtain ⟨joints, h, -⟩ := foldlM_isSome hskin [] trivial
  exact ⟨joints, h⟩

/-- A node of a scene is that of the document with its parent and its world transform. -/
lemma at?_nodesOf {ws : List (Mat4 Single)} (hlen : ws.length = d.nodes.length) {i : Int}
    {n : Document.Node} (hn : at? d.nodes i = some n) : ∃ world, at? ws i = some world ∧
      at? (nodesOf d ws) i =
        some ⟨n.name, parentOf d.nodes i, n.children, world, n.mesh, n.skin⟩ := by
  obtain ⟨k, rfl, hk⟩ := at?_eq_some_iff.mp hn
  obtain ⟨hlt, rfl⟩ := List.getElem?_eq_some_iff.mp hk
  have hk' : k < ws.length := by omega
  exact ⟨ws[k], by simp [hk'], by simp [nodesOf, hlt, hk']⟩

/-- A scene that was set up from a document with some settings and not flattened yet. -/
structure Prepared (s : Scene) (d : Document) (settings : Settings) : Prop where
  /-- The document is kept. -/
  doc : s.doc = some d
  /-- It was not flattened. -/
  fresh : s.flattened = false
  /-- The roots are those of the document. -/
  roots : s.roots = d.roots
  /-- The flags are those of the settings. -/
  flags : s.flags = settings.flags
  /-- The mode is that of the settings. -/
  mode : s.mode = settings.mode
  /-- The nodes are those of the document, each with a world transform. -/
  nodes : ∃ ws : List (Mat4 Single), ws.length = d.nodes.length ∧ s.nodes = nodesOf d ws

/-- A positive scale passes the check of the scale. -/
lemma scale_passes {a : Single} (h : Single.lt 0 a) : (a.lt 0 || a.same 0) = false := by
  simp only [Single.lt, Single.same, Bool.and_eq_true, decide_eq_true_eq] at h ⊢
  have hlt : ¬ a.key < Single.key 0 := by omega
  have hne : ¬ a.key = Single.key 0 := by omega
  simp [hlt, hne]

/-- **A valid document can be set up** at any positive scale. -/
lemma exists_setup (s : Scene) (hw : d.Wired) {settings : Settings}
    (hscale : Single.lt 0 settings.scale) :
    ∃ scene, s.setup d settings = .ok scene ∧ scene.Prepared d settings := by
  obtain ⟨ws, hws, hlen⟩ := exists_worlds hw settings.scale
  by_cases hm : settings.mode = .character
  · obtain ⟨joints, hjoints⟩ := exists_skeletonOf hw
    refine ⟨{ name := s.name, category := s.category, nodes := nodesOf d ws, roots := d.roots,
              skeleton := joints, flags := settings.flags, mode := settings.mode,
              scale := settings.scale, doc := some d }, ?_,
      ⟨rfl, rfl, rfl, rfl, rfl, ws, hlen, rfl⟩⟩
    simp [setup, scale_passes hscale, hws, hm, hjoints]
  · refine ⟨{ name := s.name, category := s.category, nodes := nodesOf d ws, roots := d.roots,
              flags := settings.flags, mode := settings.mode, scale := settings.scale,
              doc := some d }, ?_, ⟨rfl, rfl, rfl, rfl, rfl, ws, hlen, rfl⟩⟩
    simp [setup, scale_passes hscale, hws, hm]

/-- What a scene is that was set up. -/
lemma eq_of_setup {s scene : Scene} {settings : Settings} (h : s.setup d settings = .ok scene) :
    ∃ ws joints, worlds d settings.scale = some ws ∧
      (if settings.mode = .character then skeletonOf d else some []) = some joints ∧
      scene = { name := s.name, category := s.category, nodes := nodesOf d ws, roots := d.roots,
                skeleton := joints, flags := settings.flags, mode := settings.mode,
                scale := settings.scale, doc := some d } := by
  unfold setup at h
  cases hws : worlds d settings.scale with
  | none =>
    simp only [hws, Option.bind_eq_bind, Option.bind_none] at h
    split_ifs at h
  | some ws =>
    simp only [hws, Option.bind_eq_bind, Option.bind_some] at h
    split_ifs at h with hscale hmode
    · cases hjoints : skeletonOf d with
      | none =>
        rw [hjoints] at h
        cases h
      | some joints =>
        rw [hjoints] at h
        cases h
        exact ⟨ws, joints, rfl, by rw [if_pos hmode], rfl⟩
    · cases h
      exact ⟨ws, [], rfl, by rw [if_neg hmode], rfl⟩

/-! ## Visits -/

/-- The world transform of a node of a scene. -/
def worldOf (s : Scene) (i : Int) : Mat4 Single := ((at? s.nodes i).map (·.world)).getD (.fill 0)

/-- A node of a prepared scene is that of the document with a parent and a world transform. -/
lemma Prepared.at?_nodes {s : Scene} {settings : Settings} (hp : s.Prepared d settings) {i : Int}
    {n : Document.Node} (hn : at? d.nodes i = some n) :
    ∃ parent, at? s.nodes i =
      some ⟨n.name, parent, n.children, s.worldOf i, n.mesh, n.skin⟩ := by
  obtain ⟨ws, hlen, hnodes⟩ := hp.nodes
  obtain ⟨world, -, hnode⟩ := at?_nodesOf hlen hn
  rw [← hnodes] at hnode
  exact ⟨parentOf d.nodes i, by simp [worldOf, hnode]⟩

/-- Walks from nodes one after the other. -/
lemma exists_walk {f : Int → Option (List Int)} {starts : List Int}
    (h : ∀ i ∈ starts, ∃ vs, f i = some vs ∧ d.Preorder [i] vs) :
    ∃ vss, starts.mapM f = some vss ∧ d.Preorder starts vss.flatten := by
  induction starts with
  | nil => exact ⟨[], rfl, .nil⟩
  | cons i starts ih =>
    obtain ⟨vs, hi, hwalk⟩ := h i (by simp)
    obtain ⟨vss, his, hwalks⟩ := ih fun j hj => h j (by simp [hj])
    exact ⟨vs :: vss, by simp [hi, his], by simpa using hwalk.append hwalks⟩

/-- The walk from a node of a prepared scene succeeds if everything below it fits, and visits what
the hierarchy says. -/
lemma Prepared.exists_preorder {s : Scene} {settings : Settings} (hp : s.Prepared d settings)
    {k : Nat} : ∀ {fuel : Nat} {i : Int}, d.Fits k i → k ≤ fuel →
      ∃ vs, preorder s.nodes fuel i = some vs ∧ d.Preorder [i] vs := by
  induction k with
  | zero => exact fun h => h.elim
  | succ k ih =>
    rintro (_ | fuel) i ⟨n, hn, hc⟩ hle
    · omega
    · obtain ⟨vss, h, hwalk⟩ := exists_walk fun c hmem =>
        ih (hc c hmem) (Nat.le_of_succ_le_succ hle)
      obtain ⟨parent, hnode⟩ := hp.at?_nodes hn
      exact ⟨i :: vss.flatten, by simp [preorder, hnode, h], by
        simpa using Document.Preorder.cons hn hwalk .nil⟩

/-- **The visits of a prepared scene** are the depth-first walk from the roots. -/
lemma Prepared.exists_visits {s : Scene} {settings : Settings} (hp : s.Prepared d settings)
    (hw : d.Wired) : ∃ vs, s.visits = some vs ∧ d.Preorder d.roots vs := by
  obtain ⟨ws, hlen, hnodes⟩ := hp.nodes
  have hsize : s.nodes.length = d.nodes.length := by simp [hnodes, nodesOf, hlen]
  have hroot : ∀ i ∈ d.roots, ∃ vs, preorder s.nodes (d.nodes.length + 1) i = some vs ∧
      d.Preorder [i] vs := fun i hi =>
    hp.exists_preorder (hw.fits (hw.roots_inRange hi)) (Nat.le_succ _)
  obtain ⟨vss, h, hwalk⟩ := exists_walk hroot
  exact ⟨vss.flatten, by simp [visits, hp.roots, hsize, h], hwalk⟩

end Scene

end SceneForge
