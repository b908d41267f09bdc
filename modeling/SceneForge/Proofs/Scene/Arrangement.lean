import SceneForge.Proofs.Scene.Reach

set_option autoImplicit false

/-!
# How a scene is arranged

Setting up a scene copies the nodes of a document and adds a parent and a world transform to each.
The hierarchy is a graph, not a tree: a node may be listed by several others. The parent is the last
of them in the order of the document. The world transform is the product of the transforms along the
last of the ways down to the node, in the order in which a depth-first walk takes them. A node that
the roots do not reach may have a parent, but it keeps the zero matrix.

## Main definitions

* `SceneForge.Scene.Node.Arranged` — what setting up leaves in a node.

## Main results

* `SceneForge.Scene.setup_arranges` — the nodes of a valid document after setting up.
-/

namespace SceneForge

namespace Scene

variable {d : Document} {scale : Single} {trails : List Document.Trail} {i : Int}

/-- What setting up leaves in a node with number `i`, the trails from the roots being given in the
order of the walk. -/
structure Node.Arranged (d : Document) (scale : Single) (trails : List Document.Trail) (i : Int)
    (n : Document.Node) (node : Node) : Prop where
  /-- The name is that of the document. -/
  name : node.name = n.name
  /-- The children are those of the document. -/
  children : node.children = n.children
  /-- The mesh is that of the document. -/
  mesh : node.mesh = n.mesh
  /-- The skin is that of the document. -/
  skin : node.skin = n.skin
  /-- The parent is the last node that lists this one. -/
  parent : ∀ p, node.parent = some p ↔ IsGreatest {q | d.Child q i} p
  /-- It is absent if no node does. -/
  orphan : node.parent = none ↔ ∀ q, ¬ d.Child q i
  /-- A node that the roots reach has the product along the last trail to it. -/
  reached : d.Reached i → ∃ front t back, trails = front ++ t :: back ∧ t.node = i ∧
    (∀ u ∈ back, u.node ≠ i) ∧ node.world = t.world d scale
  /-- If there is only one way to a node, it has the product along it. -/
  only : ∀ path, d.Route d.roots path → path.getLast? = some i →
    (∀ q, d.Route d.roots q → q.getLast? = some i → q = path) →
      node.world = d.worldAlong scale path
  /-- Any other node keeps the zero matrix. -/
  unreached : ¬ d.Reached i → node.world = .fill 0

/-- A trail leads to each node that the roots reach, and to no other. -/
lemma exists_trail_iff (htrails : d.Trails [] d.roots trails) :
    (∃ t ∈ trails, t.node = i) ↔ d.Reached i := by
  rw [Document.Reached, ← htrails.preorder.mem_iff, List.mem_map]

/-- A trail ends at its node. -/
lemma getLast?_path (t : Document.Trail) : t.path.getLast? = some t.node := by
  simp [Document.Trail.path]

/-- **The product along the last trail** arranges a node. -/
lemma arranged_of_lastWorld (htrails : d.Trails [] d.roots trails) (n : Document.Node) :
    Node.Arranged d scale trails i n ⟨n.name, parentOf d.nodes i, n.children,
      d.lastWorld scale trails i, n.mesh, n.skin⟩ where
  name := rfl
  children := rfl
  mesh := rfl
  skin := rfl
  parent := fun _ => parentOf_eq_some_iff
  orphan := parentOf_eq_none_iff
  reached := by
    intro hreached
    obtain ⟨front, t, back, rfl, rfl, hback⟩ :=
      exists_last ((exists_trail_iff htrails).mpr hreached)
    exact ⟨front, t, back, rfl, rfl, hback, Document.lastWorld_append_cons hback⟩
  only := by
    intro path hroute hlast hunique
    have hmem : path ∈ trails.map Document.Trail.path := htrails.mem_iff.mpr ⟨path, rfl, hroute⟩
    obtain ⟨t, ht, rfl⟩ := List.mem_map.mp hmem
    obtain rfl : t.node = i := by simpa [getLast?_path] using hlast
    obtain ⟨u, hu, hnode, hworld⟩ := Document.exists_of_lastWorld d scale ht
    -- the last trail is a way to the node as well, so it is the given one
    obtain ⟨q, hq, hroute'⟩ := htrails.mem_iff.mp (List.mem_map_of_mem hu)
    rw [List.nil_append] at hq
    have hsame : u.path = t.path := hunique _ (hq ▸ hroute') (by rw [getLast?_path, hnode])
    exact hworld.trans (congrArg (d.worldAlong scale) hsame)
  unreached := by
    intro hreached
    rw [← exists_trail_iff htrails] at hreached
    push Not at hreached
    exact Document.lastWorld_of_forall_ne hreached

/-- **How a scene is arranged**. A valid document can be set up at any positive scale. The walk from
the roots takes all ways down, each as one trail; every node of the scene is arranged by them; and
the scene keeps its name and its category.

**Proof sketch.** Every trail replaces the transform of its node, so the last one counts
(`exists_worlds_of_trails`), and trails lead to the nodes that the roots reach
(`Document.Preorder.mem_iff`), along all routes (`Document.Trails.mem_iff`). Parents are linked in
the order of the document, so the last node that lists a child is its parent
(`parentOf_eq_some_iff`). -/
theorem setup_arranges (s : Scene) (d : Document) (settings : Settings)
    (hvalid : d.validate = .ok ()) (hscale : Single.lt 0 settings.scale) :
    ∃ scene trails, s.setup d settings = .ok scene ∧ scene.name = s.name ∧
      scene.category = s.category ∧
      (∀ ts, d.Trails [] d.roots ts ↔ ts = trails) ∧
      (∀ path, path ∈ trails.map Document.Trail.path ↔ d.Route d.roots path) ∧
      scene.nodes.length = d.nodes.length ∧
      ∀ i n, at? d.nodes i = some n → ∃ node, at? scene.nodes i = some node ∧
        node.Arranged d settings.scale trails i n := by
  have hw : d.Wired := (Document.validate_eq_ok_iff_wired.mp hvalid).1
  obtain ⟨scene, hsetup, -⟩ := exists_setup s hw hscale
  obtain ⟨trails, htrails, hworlds⟩ := exists_worlds_of_trails hw settings.scale
  have hnodes := nodes_of_setup hsetup hworlds
  obtain ⟨hname, hcategory⟩ : scene.name = s.name ∧ scene.category = s.category := by
    obtain ⟨ws, joints, -, -, rfl⟩ := eq_of_setup hsetup
    exact ⟨rfl, rfl⟩
  refine ⟨scene, trails, hsetup, hname, hcategory, ?_, ?_, ?_, ?_⟩
  · exact fun ts => ⟨fun h => h.unique htrails, fun h => h ▸ htrails⟩
  · intro path
    rw [htrails.mem_iff]
    simp
  · simp [hnodes, nodesOf]
  · intro i n hn
    refine ⟨_, ?_, arranged_of_lastWorld htrails n⟩
    obtain ⟨k, rfl, hk⟩ := at?_eq_some_iff.mp hn
    obtain ⟨hlt, rfl⟩ := List.getElem?_eq_some_iff.mp hk
    simp [hnodes, nodesOf, hlt]

/-- Two posts that share a lamp, and one more post that no scene shows. -/
def spareLamp : Document :=
  { sharedLamp with nodes := sharedLamp.nodes ++ [{ name := "spare", children := [2] }] }

/-- The shared lamp stands at the last post of the scene that lists it, but belongs to the last post
of the document that does; the spare post is nowhere. -/
theorem setup_arranges_spareLamp :
    spareLamp.validate = .ok () ∧ Single.lt 0 1 ∧
      ∃ scene lamp spare, ({ name := "yard" } : Scene).setup spareLamp {} = .ok scene ∧
        scene.name = "yard" ∧
        at? scene.nodes 2 = some lamp ∧ lamp.parent = some 3 ∧
        lamp.world = spareLamp.worldAlong 1 [1, 2] ∧ lamp.world ≠ spareLamp.worldAlong 1 [0, 2] ∧
        at? scene.nodes 3 = some spare ∧ spare.name = "spare" ∧ spare.parent = none ∧
        spare.world = .fill 0 := by
  have hvalid : spareLamp.validate = .ok () := rfl
  have hscale : Single.lt 0 1 := by decide +kernel
  have hwalk : spareLamp.Trails [] spareLamp.roots [⟨[], 0⟩, ⟨[0], 2⟩, ⟨[], 1⟩, ⟨[1], 2⟩] := by
    have hfirst : spareLamp.Trails [0] [2] _ := .cons rfl .nil .nil
    have hsecond : spareLamp.Trails [1] [2] _ := .cons rfl .nil .nil
    have hposts : spareLamp.Trails [] [0, 1] _ := .cons rfl hfirst (.cons rfl hsecond .nil)
    exact hposts
  obtain ⟨scene, trails, hsetup, hname, -, hunique, -, -, hnodes⟩ :=
    setup_arranges { name := "yard" } spareLamp {} hvalid hscale
  obtain rfl := (hunique _).mp hwalk
  obtain ⟨lamp, hlamp, harranged⟩ := hnodes 2 _ rfl
  obtain ⟨spare, hspare, hspared⟩ := hnodes 3 _ rfl
  have hreached : spareLamp.Reached 2 :=
    (exists_trail_iff hwalk).mp ⟨⟨[1], 2⟩, by decide, rfl⟩
  have hunreached : ¬ spareLamp.Reached 3 := by
    rw [← exists_trail_iff hwalk]
    decide
  obtain ⟨front, t, back, hsplit, hnode, hback, hworld⟩ := harranged.reached hreached
  -- the walk ends at the lamp, so no trail comes after the last one that leads there
  obtain rfl : t = ⟨[1], 2⟩ := by
    have hends := congrArg List.getLast? hsplit
    rcases List.eq_nil_or_concat back with rfl | ⟨rest, u, rfl⟩
    · simpa using hends.symm
    · have hu : u = ⟨[1], 2⟩ := by simpa [List.getLast?_cons] using hends.symm
      exact absurd (by rw [hu]) (hback u (by simp))
  have hmoved : spareLamp.worldAlong 1 [1, 2] ≠ spareLamp.worldAlong 1 [0, 2] := by decide +kernel
  exact ⟨hvalid, hscale, scene, lamp, spare, hsetup, hname, hlamp,
    (harranged.parent 3).mpr (parentOf_eq_some_iff.mp rfl), hworld, hworld.trans_ne hmoved, hspare,
    hspared.name, hspared.orphan.mpr (parentOf_eq_none_iff.mp rfl), hspared.unreached hunreached⟩

end Scene

end SceneForge
