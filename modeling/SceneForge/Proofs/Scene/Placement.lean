import SceneForge.Proofs.Scene.Merged

set_option autoImplicit false

/-!
# Where nodes are placed

A node is visited once for every trail of children that leads to it from a root. Setting up a scene
walks along all trails and leaves in each node the product of the transforms along the last trail
that leads there; flattening walks along the same trails and reads what was left. So a node that
several trails lead to is drawn once for each of them, every time at the place of the last one.
Every visit is placed by its own trail exactly if the other trails give the same points, which they
do in particular if there is only one trail to each node.

## Main definitions

* `SceneForge.Document.Trail`, `SceneForge.Document.Trails` — visits with the nodes above them.
* `SceneForge.Document.Trail.world` — the product of the transforms along a trail.
* `SceneForge.Document.lastWorld` — the product along the last trail that leads to a node.
* `SceneForge.Document.Draw.vertices` — the vertices that are drawn at a visit.
* `SceneForge.Document.placedPoints` — what is drawn along trails, in order.

## Main results

* `SceneForge.Scene.exists_worlds_of_trails` — setting up leaves the product along the last trail.
* `SceneForge.Scene.Prepared.vertices_of_flatten` — the vertices of a merged mesh.
* `SceneForge.Scene.flatten_places_last` — where the positions of a merged mesh are.
-/

namespace SceneForge

/-! ## Last entries -/

/-- A list with an entry of some kind has a last one. -/
lemma exists_last {α : Type} {P : α → Prop} {xs : List α} (h : ∃ a ∈ xs, P a) :
    ∃ front a back, xs = front ++ a :: back ∧ P a ∧ ∀ b ∈ back, ¬ P b := by
  induction xs with
  | nil =>
    obtain ⟨a, ha, -⟩ := h
    cases ha
  | cons x xs ih =>
    by_cases hrest : ∃ a ∈ xs, P a
    · obtain ⟨front, a, back, rfl, ha, hback⟩ := ih hrest
      exact ⟨x :: front, a, back, rfl, ha, hback⟩
    · push Not at hrest
      obtain ⟨a, ha, hPa⟩ := h
      rcases List.mem_cons.mp ha with rfl | ha
      · exact ⟨[], a, xs, rfl, hPa, hrest⟩
      · exact absurd hPa (hrest a ha)

/-- What is given for other indices does not matter. -/
lemma lastFor_of_forall_ne {α : Type} {us : List (Int × α)} {i : Int} (h : ∀ u ∈ us, u.1 ≠ i)
    (a : α) : lastFor us i a = a := by
  induction us with
  | nil => rfl
  | cons u us ih =>
    obtain ⟨hu, hrest⟩ := List.forall_mem_cons.mp h
    rw [lastFor, List.foldl_cons, if_neg hu]
    exact ih hrest

/-- The last value that is given for an index counts. -/
lemma lastFor_append_cons {α : Type} {front back : List (Int × α)} {i : Int} {u : Int × α}
    (hu : u.1 = i) (hback : ∀ w ∈ back, w.1 ≠ i) (a : α) :
    lastFor (front ++ u :: back) i a = u.2 := by
  rw [lastFor, List.foldl_append, List.foldl_cons, if_pos hu]
  exact lastFor_of_forall_ne hback u.2

/-- The last value that is given for an index, if any is given, is among those that are given. -/
lemma exists_of_lastFor {α : Type} (us : List (Int × α)) {i : Int} (h : ∃ u ∈ us, u.1 = i)
    (a : α) : ∃ u ∈ us, u.1 = i ∧ lastFor us i a = u.2 := by
  obtain ⟨front, u, back, rfl, hu, hback⟩ := exists_last h
  exact ⟨u, by simp, hu, lastFor_append_cons hu hback a⟩

/-! ## Trails -/

namespace Document

/-- A visit of a node: the nodes on the way from a root, and the node. -/
structure Trail where
  /-- The nodes above, from a root downwards. -/
  above : List Int
  /-- The node. -/
  node : Int
deriving DecidableEq

/-- The visits of a depth-first walk from nodes one after the other, below the nodes `above`: a node
before its children, the children in order, one entry per visit. -/
inductive Trails (d : Document) : (above starts : List Int) → List Trail → Prop where
  /-- A walk from nowhere. -/
  | nil {above : List Int} : Trails d above [] []
  /-- A walk from a node visits it, walks from its children, and then from the nodes after it. -/
  | cons {above rest : List Int} {i : Int} {n : Node} {below after : List Trail}
      (node : at? d.nodes i = some n) (children : Trails d (above ++ [i]) n.children below)
      (others : Trails d above rest after) :
      Trails d above (i :: rest) (⟨above, i⟩ :: below ++ after)

/-- The transform of a node relative to its parent; that of no node is the identity. -/
def localAt (d : Document) (i : Int) : Mat4 Single := ((at? d.nodes i).map (·.local)).getD .identity

/-- The scale and then the transforms of nodes one below the other, multiplied left to right. -/
def worldAlong (d : Document) (scale : Single) (path : List Int) : Mat4 Single :=
  path.foldl (fun world i => world * d.localAt i) (Mat4.scaling (.fill scale))

/-- The product of the transforms along a trail, its node included. -/
def Trail.world (t : Trail) (d : Document) (scale : Single) : Mat4 Single :=
  d.worldAlong scale (t.above ++ [t.node])

/-- The product of the transforms along the last of the trails that lead to a node. -/
def lastWorld (d : Document) (scale : Single) (ts : List Trail) (i : Int) : Mat4 Single :=
  lastFor (ts.map fun t => (t.node, t.world d scale)) i (.fill 0)

/-- The positions that are drawn at a visit of a node, in order. -/
def pointsAt (d : Document) (i : Int) : List (Vec3 Single) :=
  (d.drawsAt i).flatMap (·.primitive.positions)

/-- The vertices that are drawn at a visit, the world transform of the node being given. -/
def Draw.vertices (b : Draw) (d : Document) (settings : Settings) (world : Mat4 Single) :
    List Vertex :=
  b.primitive.positions.zipIdx.map fun (pos, k) =>
    Scene.vertexOf settings.flags world world.normalMatrix (d.jointBase settings.mode b.node)
      b.primitive ((Scene.normalsOf settings.flags b.primitive).getD none) k pos

/-- The positions that are drawn along trails, in order, each visit being placed by a transform. -/
def placedPoints (d : Document) (ts : List Trail) (world : Trail → Mat4 Single) :
    List (Vec3 Single) :=
  ts.flatMap fun t => (d.pointsAt t.node).map (world t).transformPoint

variable {d : Document} {scale : Single} {above starts : List Int} {ts us : List Trail}

/-- What is drawn at a visit is drawn for the node that is visited. -/
lemma node_of_mem_drawsAt {i : Int} {b : Draw} (hb : b ∈ d.drawsAt i) :
    b.number = i ∧ at? d.nodes i = some b.node := by
  unfold drawsAt at hb
  split at hb
  · cases hb
  · split at hb
    · cases hb
    · rename_i n hn _ shape hshape
      obtain ⟨q, -, rfl⟩ := List.mem_map.mp hb
      exact ⟨rfl, hn⟩

namespace Trails

/-- Trails are determined by where they start. -/
lemma unique (h : d.Trails above starts ts) (h' : d.Trails above starts us) : ts = us := by
  induction h generalizing us with
  | nil =>
    cases h'
    rfl
  | cons node _ _ ihc iho =>
    cases h' with
    | cons node' children' others' =>
      rw [node] at node'
      cases node'
      rw [ihc children', iho others']

/-- The nodes at the ends of the trails are the visits of the walk. -/
lemma preorder (h : d.Trails above starts ts) : d.Preorder starts (ts.map (·.node)) := by
  induction h with
  | nil => exact .nil
  | cons node _ _ ihc iho => simpa using Preorder.cons node ihc iho

/-- A trail leads to a node. -/
lemma exists_node (h : d.Trails above starts ts) {t : Trail} (ht : t ∈ ts) :
    ∃ n, at? d.nodes t.node = some n :=
  h.preorder.exists_node t.node (List.mem_map_of_mem ht)

/-- Trails from one node are followed by trails from others. -/
lemma append {i : Int} (h : d.Trails above [i] ts) (h' : d.Trails above starts us) :
    d.Trails above (i :: starts) (ts ++ us) := by
  cases h with
  | cons node children others =>
    cases others
    simpa using Trails.cons node children h'

end Trails

/-- One node more on the way. -/
lemma worldAlong_snoc {i : Int} {n : Node} (hn : at? d.nodes i = some n) (path : List Int) :
    d.worldAlong scale (path ++ [i]) = d.worldAlong scale path * n.local := by
  simp [worldAlong, localAt, hn]

/-- The last of the trails that lead to the node of a trail is a trail to that node. -/
lemma exists_of_lastWorld (d : Document) (scale : Single) {t : Trail} (ht : t ∈ ts) :
    ∃ u ∈ ts, u.node = t.node ∧ d.lastWorld scale ts t.node = u.world d scale := by
  obtain ⟨p, hp, hnode, hvalue⟩ := exists_of_lastFor (ts.map fun t => (t.node, t.world d scale))
    ⟨_, List.mem_map_of_mem ht, rfl⟩ (.fill 0)
  obtain ⟨u, hu, rfl⟩ := List.mem_map.mp hp
  exact ⟨u, hu, hnode, hvalue⟩

/-- The product along the last of the trails that lead to a node. -/
lemma lastWorld_append_cons {t : Trail} {front back : List Trail}
    (hback : ∀ u ∈ back, u.node ≠ t.node) :
    d.lastWorld scale (front ++ t :: back) t.node = t.world d scale := by
  rw [lastWorld, List.map_append, List.map_cons]
  exact lastFor_append_cons rfl (by simpa using hback) _

/-- Where no trail leads there is no product. -/
lemma lastWorld_of_forall_ne {i : Int} (h : ∀ t ∈ ts, t.node ≠ i) :
    d.lastWorld scale ts i = .fill 0 :=
  lastFor_of_forall_ne (by simpa using h) _

/-- Lists of the same lengths put one after the other are equal only if each of them is. -/
lemma flatMap_eq_flatMap_iff {α β : Type} {f g : α → List β} {xs : List α}
    (hlen : ∀ a ∈ xs, (f a).length = (g a).length) :
    xs.flatMap f = xs.flatMap g ↔ ∀ a ∈ xs, f a = g a := by
  induction xs with
  | nil => simp
  | cons a xs ih =>
    obtain ⟨ha, hrest⟩ := List.forall_mem_cons.mp hlen
    rw [List.flatMap_cons, List.flatMap_cons, List.forall_mem_cons, ← ih hrest]
    exact ⟨fun h => List.append_inj h ha, fun ⟨h, h'⟩ => by rw [h, h']⟩

/-- Two ways to place the visits draw the same exactly if they give the same points. -/
lemma placedPoints_eq_iff {world world' : Trail → Mat4 Single} :
    d.placedPoints ts world = d.placedPoints ts world' ↔
      ∀ t ∈ ts, ∀ p ∈ d.pointsAt t.node,
        (world t).transformPoint p = (world' t).transformPoint p := by
  rw [placedPoints, placedPoints, flatMap_eq_flatMap_iff fun t _ => by simp]
  exact forall₂_congr fun t _ => List.map_inj_left

end Document

/-! ## Setting up along trails -/

namespace Scene

variable {d : Document} {s : Scene} {settings : Settings} {scale : Single}

/-- The transforms with those of the ends of trails replaced, one after the other. -/
def replaced (d : Document) (scale : Single) (ts : List Document.Trail)
    (ws : List (Mat4 Single)) : List (Mat4 Single) :=
  ws.mapIdx fun k w => lastFor (ts.map fun t => (t.node, t.world d scale)) k w

/-- Replacing keeps the number of transforms. -/
@[simp] lemma length_replaced (ts : List Document.Trail) (ws : List (Mat4 Single)) :
    (replaced d scale ts ws).length = ws.length := by
  simp [replaced]

/-- No trails replace nothing. -/
lemma replaced_nil (ws : List (Mat4 Single)) : replaced d scale [] ws = ws :=
  List.ext_getElem (by simp) fun k h₁ h₂ => by simp [replaced, lastFor]

/-- Trails one after the other. -/
lemma replaced_append (ts us : List Document.Trail) (ws : List (Mat4 Single)) :
    replaced d scale (ts ++ us) ws = replaced d scale us (replaced d scale ts ws) := by
  simp [replaced, List.mapIdx_mapIdx, lastFor, Function.comp_def]

/-- One trail to a node replaces the transform of the node. -/
lemma replaced_singleton {t : Document.Trail} {ws : List (Mat4 Single)}
    (ht : 0 ≤ t.node ∧ t.node < ws.length) :
    replaced d scale [t] ws = ws.set t.node.toNat (t.world d scale) := by
  have hall := setAll?_eq_some [(t.node, t.world d scale)] ws (by simpa using ht)
  rw [setAll?, List.foldlM_cons, set?_eq_some ht] at hall
  exact (Option.some.inj hall).symm

/-- Placing nodes one after the other goes along their trails. -/
lemma exists_trails_of_foldlM {above starts : List Int}
    {f : List (Mat4 Single) → Int → Option (List (Mat4 Single))}
    (h : ∀ i ∈ starts, ∃ ts, d.Trails above [i] ts ∧
      ∀ ws, ws.length = d.nodes.length → f ws i = some (replaced d scale ts ws)) :
    ∃ ts, d.Trails above starts ts ∧
      ∀ ws, ws.length = d.nodes.length → starts.foldlM f ws = some (replaced d scale ts ws) := by
  induction starts with
  | nil => exact ⟨[], .nil, fun ws _ => by rw [replaced_nil]; rfl⟩
  | cons i starts ih =>
    obtain ⟨hi, hrest⟩ := List.forall_mem_cons.mp h
    obtain ⟨ts, htrails, hplace⟩ := hi
    obtain ⟨us, htrails', hplaces⟩ := ih hrest
    refine ⟨ts ++ us, htrails.append htrails', fun ws hws => ?_⟩
    rw [List.foldlM_cons, hplace ws hws, replaced_append]
    exact hplaces _ (by simpa using hws)

/-- **Placing a node goes along the trails from it** if everything below it fits. -/
lemma exists_trails_of_place (scale : Single) {k : Nat} : ∀ {fuel : Nat} {i : Int},
    d.Fits k i → k ≤ fuel → ∀ above, ∃ ts, d.Trails above [i] ts ∧ ∀ ws, ws.length = d.nodes.length →
      place d.nodes fuel (d.worldAlong scale above) ws i = some (replaced d scale ts ws) := by
  induction k with
  | zero => exact fun h => h.elim
  | succ k ih =>
    rintro (_ | fuel) i ⟨n, hn, hc⟩ hle above
    · omega
    · obtain ⟨below, htrails, hplaces⟩ := exists_trails_of_foldlM fun c hmem =>
        ih (hc c hmem) (Nat.le_of_succ_le_succ hle) (above ++ [i])
      refine ⟨⟨above, i⟩ :: below, by simpa using Document.Trails.cons hn htrails .nil,
        fun ws hws => ?_⟩
      have hi := isSome_at?_iff.mp (Option.isSome_of_eq_some hn)
      rw [← hws] at hi
      have hfirst : replaced d scale [⟨above, i⟩] ws =
          ws.set i.toNat (d.worldAlong scale above * n.local) := by
        rw [replaced_singleton hi, Document.Trail.world, Document.worldAlong_snoc hn]
      rw [← List.singleton_append, replaced_append, hfirst]
      simp only [place, hn, Option.bind_eq_bind, Option.bind_some]
      rw [← Document.worldAlong_snoc hn]
      exact hplaces _ (by simpa using hws)

/-- **Setting up leaves the product along the last trail** that leads to a node. -/
lemma exists_worlds_of_trails (hw : d.Wired) (scale : Single) :
    ∃ ts, d.Trails [] d.roots ts ∧ worlds d scale =
      some ((List.range d.nodes.length).map fun k : Nat => d.lastWorld scale ts k) := by
  obtain ⟨ts, htrails, hplaces⟩ := exists_trails_of_foldlM fun i hi =>
    exists_trails_of_place scale (hw.fits (hw.roots_inRange hi)) (Nat.le_succ _) []
  refine ⟨ts, htrails, ?_⟩
  have hworlds := hplaces (List.replicate d.nodes.length (.fill 0)) (by simp)
  rw [worlds]
  refine hworlds.trans (congrArg some (List.ext_getElem (by simp) fun k h₁ h₂ => ?_))
  simp [replaced, Document.lastWorld]

/-- The nodes of a scene that was set up have the transforms that were left there. -/
lemma nodes_of_setup {scene : Scene} {ws : List (Mat4 Single)}
    (h : s.setup d settings = .ok scene) (hws : worlds d settings.scale = some ws) :
    scene.nodes = nodesOf d ws := by
  obtain ⟨ws', joints, hws', -, rfl⟩ := eq_of_setup h
  rw [Option.some.inj (hws.symm.trans hws')]

/-! ## Vertices -/

/-- What is seen of the results of a partial map is what is expected of the entries. -/
lemma flatMap_of_mapM {α β γ : Type} {f : α → Option β} {g : β → List γ} {h : α → List γ}
    {xs : List α} (hf : ∀ a ∈ xs, ∀ b, f a = some b → g b = h a) {ys : List β}
    (hm : xs.mapM f = some ys) : ys.flatMap g = xs.flatMap h := by
  induction xs generalizing ys with
  | nil =>
    cases hm
    rfl
  | cons a xs ih =>
    obtain ⟨ha, hrest⟩ := List.forall_mem_cons.mp hf
    simp only [List.mapM_cons, Option.bind_eq_bind, Option.bind_eq_some_iff, Option.pure_def,
      Option.some.injEq] at hm
    obtain ⟨y, hy, ys', hys, rfl⟩ := hm
    rw [List.flatMap_cons, List.flatMap_cons, ha y hy, ih hrest hys]

/-- A block has the vertices of its primitive. -/
lemma vertices_of_blockOf {flags : Flags} {node : Node} {base : Option Nat} {name : String}
    {p : Document.Primitive} {b : Block} (h : blockOf flags node base name p = some b) :
    b.vertices = p.positions.zipIdx.map fun (pos, k) =>
      vertexOf flags node.world node.world.normalMatrix base p ((normalsOf flags p).getD none) k
        pos := by
  simp only [blockOf, Option.bind_eq_bind, Option.bind_eq_some_iff, Option.pure_def,
    Option.some.injEq] at h
  obtain ⟨normals, hnormals, rfl⟩ := h
  rw [hnormals, Option.getD_some]

/-- The blocks of a visit have the vertices that are drawn there. -/
lemma Prepared.vertices_of_blocksAt (hp : s.Prepared d settings) (hw : d.Wired) {i : Int}
    {n : Document.Node} (hn : at? d.nodes i = some n) {bs : List Block}
    (h : blocksAt s d i = some bs) :
    bs.flatMap (·.vertices) =
      (d.drawsAt i).flatMap fun b => b.vertices d settings (s.worldOf b.number) := by
  obtain ⟨parent, hnode⟩ := hp.at?_nodes hn
  have hmem := mem_of_at?_eq_some hn
  cases hm : n.mesh with
  | none =>
    simp only [blocksAt, hnode, hm, Option.bind_eq_bind, Option.bind_some] at h
    cases h
    simp [Document.drawsAt, hn, hm]
  | some m =>
    obtain ⟨shape, hshape⟩ := Option.isSome_iff_exists.mp
      (isSome_at?_iff.mpr ((hw.nodes n hmem).1 m hm))
    rw [blocksAt_of_mesh hnode hm hshape (jointBase?_eq_some hw s hmem)] at h
    rw [flatMap_of_mapM (fun q _ b hb => vertices_of_blockOf hb) h, drawsAt_of_mesh hn hm hshape,
      List.flatMap_map, hp.flags, hp.mode]
    rfl

/-- **The vertices of a merged mesh** are those that are drawn along the walk. -/
lemma Prepared.vertices_of_flatten (hp : s.Prepared d settings) (hw : d.Wired) {mesh : Mesh}
    (h : s.flatten.1 = .ok mesh) {vs : List Int} (hwalk : d.Preorder d.roots vs) :
    mesh.vertices =
      (vs.flatMap d.drawsAt).flatMap fun b => b.vertices d settings (s.worldOf b.number) := by
  obtain ⟨bs, box, hbs, rfl⟩ := hp.exists_blocks_of_flatten h
  obtain ⟨vs', hvs, hwalk'⟩ := hp.exists_visits hw
  obtain rfl := hwalk'.unique hwalk
  simp only [blocks, hvs, Option.bind_eq_bind, Option.bind_some, Option.bind_eq_some_iff,
    Option.pure_def, Option.some.injEq] at hbs
  obtain ⟨bss, hbss, rfl⟩ := hbs
  have hvertices := flatMap_of_mapM (fun i hi bs hbs => by
    obtain ⟨n, hn⟩ := hwalk.exists_node i hi
    exact hp.vertices_of_blocksAt hw hn hbs) hbss
  rw [List.flatMap_assoc, ← hvertices]
  show (bss.flatten.foldl Mesh.add (emptyMesh s.mode)).vertices = _
  rw [foldl_add_vertices, List.flatten_eq_flatMap, List.flatMap_assoc]
  simp [emptyMesh]

/-- A vertex is placed by the world transform of its node. -/
lemma position_vertexOf (flags : Flags) (world normalMatrix : Mat4 Single) (base : Option Nat)
    (p : Document.Primitive) (normals : Option (List (Vec3 Single))) (k : Nat)
    (pos : Vec3 Single) : (vertexOf flags world normalMatrix base p normals k pos).position =
      world.transformPoint pos := by
  unfold vertexOf
  cases base <;> cases p.joints[k]? <;> cases p.weights[k]? <;> rfl

/-- The vertices of a primitive are at its positions, placed by the world transform of the node. -/
lemma map_position_vertices (b : Document.Draw) (world : Mat4 Single) :
    (b.vertices d settings world).map (·.position) =
      b.primitive.positions.map world.transformPoint :=
  List.ext_getElem (by simp [Document.Draw.vertices]) fun k h₁ h₂ => by
    simp [Document.Draw.vertices, position_vertexOf]

/-- The positions of a merged mesh are those that are drawn along the walk. -/
lemma Prepared.positions_of_flatten (hp : s.Prepared d settings) (hw : d.Wired) {mesh : Mesh}
    (h : s.flatten.1 = .ok mesh) {ts : List Document.Trail} (hts : d.Trails [] d.roots ts) :
    mesh.vertices.map (·.position) = d.placedPoints ts fun t => s.worldOf t.node := by
  rw [hp.vertices_of_flatten hw h hts.preorder, List.map_flatMap, List.flatMap_assoc,
    List.flatMap_map, Document.placedPoints]
  refine List.flatMap_congr fun t _ => ?_
  rw [Document.pointsAt, List.map_flatMap]
  refine List.flatMap_congr fun b hb => ?_
  rw [map_position_vertices, (Document.node_of_mem_drawsAt hb).1]

/-- **Where the positions of a merged mesh are**. Every valid document can be set up at any positive
scale and flattened. The positions of the mesh are those drawn along all trails from the roots, in
order, and every visit of a node is placed by the product of the transforms along the last trail
that leads to the node. They are placed by the products along their own trails exactly if both
products give the same points at every visit; so they are if the trails that lead to one node have
one product.

**Proof sketch.** Setting up replaces the transform of a node once for every trail to it, the last
one last (`exists_worlds_of_trails`). Flattening visits the ends of the same trails and places the
positions by what it finds in the node (`Prepared.positions_of_flatten`). -/
theorem flatten_places_last (s : Scene) (d : Document) (settings : Settings)
    (hvalid : d.validate = .ok ()) (hscale : Single.lt 0 settings.scale) :
    ∃ scene mesh trails, s.setup d settings = .ok scene ∧ scene.flatten.1 = .ok mesh ∧
      (∀ ts, d.Trails [] d.roots ts ↔ ts = trails) ∧
      mesh.vertices.map (·.position) =
        d.placedPoints trails (fun t => d.lastWorld settings.scale trails t.node) ∧
      (mesh.vertices.map (·.position) =
          d.placedPoints trails (fun t => t.world d settings.scale) ↔
        ∀ t ∈ trails, ∀ p ∈ d.pointsAt t.node,
          (d.lastWorld settings.scale trails t.node).transformPoint p =
            (t.world d settings.scale).transformPoint p) ∧
      ((∀ t ∈ trails, ∀ u ∈ trails, t.node = u.node →
          t.world d settings.scale = u.world d settings.scale) →
        mesh.vertices.map (·.position) =
          d.placedPoints trails fun t => t.world d settings.scale) := by
  have hw : d.Wired := (Document.validate_eq_ok_iff_wired.mp hvalid).1
  obtain ⟨scene, hsetup, hp⟩ := exists_setup s hw hscale
  obtain ⟨mesh, -, hflatten, -⟩ := hp.exists_flatten? hw
  have hmesh : scene.flatten.1 = .ok mesh := by rw [hflatten]
  obtain ⟨trails, htrails, hworlds⟩ := exists_worlds_of_trails hw settings.scale
  have hleft : ∀ t ∈ trails, scene.worldOf t.node = d.lastWorld settings.scale trails t.node := by
    intro t ht
    obtain ⟨n, hn⟩ := htrails.exists_node ht
    obtain ⟨k, hk, hnk⟩ := at?_eq_some_iff.mp hn
    obtain ⟨hlt, -⟩ := List.getElem?_eq_some_iff.mp hnk
    rw [hk]
    simp [worldOf, nodes_of_setup hsetup hworlds, nodesOf, hlt]
  have hlast : mesh.vertices.map (·.position) =
      d.placedPoints trails (fun t => d.lastWorld settings.scale trails t.node) := by
    rw [hp.positions_of_flatten hw hmesh htrails, Document.placedPoints_eq_iff]
    intro t ht p _
    rw [hleft t ht]
  refine ⟨scene, mesh, trails, hsetup, hmesh, ?_, hlast, ?_, fun hsame => ?_⟩
  · exact fun ts => ⟨fun h => h.unique htrails, fun h => h ▸ htrails⟩
  · rw [hlast]
    exact Document.placedPoints_eq_iff
  · rw [hlast, Document.placedPoints_eq_iff]
    intro t ht p _
    obtain ⟨u, hu, hnode, hworld⟩ := Document.exists_of_lastWorld d settings.scale ht
    rw [hworld, hsame u hu t ht hnode]

/-- A document with two posts that share a lamp. -/
def sharedLamp : Document where
  nodes := [{ children := [2], placement := { matrix := some (Mat4.shifting ⟨1, 0, 0⟩) } },
    { children := [2], placement := { matrix := some (Mat4.shifting ⟨10, 0, 0⟩) } },
    { mesh := some 0, placement := { matrix := some Mat4.identity } }]
  meshes := [{ name := "lamp", primitives := [
    { positions := [.zero, ⟨1, 0, 0⟩, ⟨0, 1, 0⟩], indices := some [0, 1, 2] }] }]
  scenes := [{ nodes := [0, 1] }]

/-- The shared lamp is drawn twice at the second post, and not once at each post. -/
theorem flatten_places_last_sharedLamp :
    sharedLamp.validate = .ok () ∧ Single.lt 0 1 ∧
      ∃ scene mesh, ({} : Scene).setup sharedLamp {} = .ok scene ∧ scene.flatten.1 = .ok mesh ∧
        sharedLamp.Trails [] sharedLamp.roots [⟨[], 0⟩, ⟨[0], 2⟩, ⟨[], 1⟩, ⟨[1], 2⟩] ∧
        mesh.vertices.map (·.position) =
          [⟨10, 0, 0⟩, ⟨11, 0, 0⟩, ⟨10, 1, 0⟩, ⟨10, 0, 0⟩, ⟨11, 0, 0⟩, ⟨10, 1, 0⟩] ∧
        mesh.vertices.map (·.position) ≠
          sharedLamp.placedPoints [⟨[], 0⟩, ⟨[0], 2⟩, ⟨[], 1⟩, ⟨[1], 2⟩]
            (·.world sharedLamp 1) := by
  have hvalid : sharedLamp.validate = .ok () := rfl
  have hscale : Single.lt 0 1 := by decide +kernel
  have htrails : sharedLamp.Trails [] sharedLamp.roots
      [⟨[], 0⟩, ⟨[0], 2⟩, ⟨[], 1⟩, ⟨[1], 2⟩] := by
    have hfirst : sharedLamp.Trails [0] [2] _ := .cons rfl .nil .nil
    have hsecond : sharedLamp.Trails [1] [2] _ := .cons rfl .nil .nil
    have hposts : sharedLamp.Trails [] [0, 1] _ := .cons rfl hfirst (.cons rfl hsecond .nil)
    exact hposts
  obtain ⟨scene, mesh, trails, hsetup, hflatten, hunique, hlast, hown, -⟩ :=
    flatten_places_last {} sharedLamp {} hvalid hscale
  obtain rfl := (hunique _).mp htrails
  refine ⟨hvalid, hscale, scene, mesh, hsetup, hflatten, htrails, ?_, fun h => ?_⟩
  · rw [hlast]
    decide +kernel
  · have hfirst := hown.mp h ⟨[0], 2⟩ (by simp) .zero (by decide)
    revert hfirst
    decide +kernel

end Scene

end SceneForge
