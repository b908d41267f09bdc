import SceneForge.Proofs.Access.Checked

set_option autoImplicit false

/-!
# Scenes of a wired document

Setting up and flattening a wired document never leaves the range of a sequence: children, roots and
joints are nodes, the fuel of both walks is enough, and triangles are cut from vertex numbers below
the number of positions. So normals are summed in range, and there is one for every vertex.

## Main results

* `SceneForge.Document.Wired.roots?_eq_some` — the roots.
* `SceneForge.Scene.setup?_eq_some` — setting up.
* `SceneForge.Scene.Prepared.exists_flatten?` — flattening; the materials of the mesh exist.
-/

namespace SceneForge

/-! ## Roots -/

namespace Document

variable {d : Document}

/-- An index is among those for which something is set. -/
lemma lastFor_true (is : List Int) (i : Int) :
    ∀ b, lastFor (is.map (·, true)) i b = (b || is.contains i) := by
  induction is with
  | nil => simp [lastFor]
  | cons j is ih =>
    intro b
    have hstep : lastFor ((j :: is).map (·, true)) i b =
        lastFor (is.map (·, true)) i (if j = i then true else b) := rfl
    rw [hstep, ih, List.contains_cons]
    by_cases hj : j = i
    · simp [hj]
    · have hne : (i == j) = false := by simpa using Ne.symm hj
      simp [hj, hne]

/-- The nodes that are nobody's child can be found in any document. -/
lemma orphans?_eq_some (d : Document) : d.orphans? = some d.orphans := by
  let isChild : Nat → Bool := fun k => d.nodes.any fun n => n.children.contains (k : Int)
  have hmarks : d.haveParent? = some ((List.range d.nodes.length).map isChild) := by
    rw [haveParent?, setAll?_eq_some]
    · congr 1
      refine List.ext_getElem (by simp) fun k h₁ h₂ => ?_
      have hk : k < d.nodes.length := by simpa using h₂
      simp only [List.getElem_mapIdx, List.getElem_replicate, List.getElem_map, List.getElem_range,
        lastFor_true, Bool.false_or, isChild]
      rw [Bool.eq_iff_iff]
      simp [hk]
    · intro u hu
      obtain ⟨i, hi, rfl⟩ := List.mem_map.mp hu
      simpa using (List.mem_filter.mp hi).2
  have hnumbered : ((List.range d.nodes.length).map isChild).zipIdx =
      (List.range d.nodes.length).map fun k => (isChild k, k) :=
    List.ext_getElem (by simp) fun k h₁ h₂ => by simp
  simp only [orphans?, hmarks, Option.bind_eq_bind, Option.bind_some, hnumbered, orphans,
    List.filter_map, List.map_map]
  rfl

/-- The roots of a wired document. -/
lemma Wired.roots?_eq_some (hw : d.Wired) : d.roots? = some d.roots := by
  unfold roots? roots
  cases hd : d.defaultScene with
  | none =>
    cases d.scenes with
    | nil => exact orphans?_eq_some d
    | cons s ss => rfl
  | some i =>
    have hi := hw.defaultScene i hd
    obtain ⟨s, hs⟩ := Option.isSome_iff_exists.mp (isSome_at?_iff.mpr hi)
    simp [hi.2, hs]

end Document

namespace Scene

variable {d : Document}

/-! ## Setting up a wired document -/

/-- A child that is listed by a node gets it as parent. -/
lemma lastFor_children (children : List Int) (parent : Ref) (i : Int) :
    ∀ last, lastFor (children.map (·, parent)) i last =
      if children.contains i then parent else last := by
  induction children with
  | nil => simp [lastFor]
  | cons c children ih =>
    intro last
    have hstep : lastFor ((c :: children).map (·, parent)) i last =
        lastFor (children.map (·, parent)) i (if c = i then parent else last) := rfl
    rw [hstep, ih, List.contains_cons]
    by_cases hc : c = i
    · simp [hc]
    · have hne : (i == c) = false := by simpa using Ne.symm hc
      simp [hc, hne]

/-- The last node that lists each node. -/
def parentsOf (doc : Document) : List Ref :=
  (List.range doc.nodes.length).map fun k : Nat => parentOf doc.nodes k

/-- **Linking parents** gives every node the last node that lists it. -/
lemma parents?_eq_some (hw : d.Wired) : parents? d = some (parentsOf d) := by
  rw [parents?, setAll?_eq_some]
  · congr 1
    refine List.ext_getElem (by simp [parentsOf]) fun k h₁ h₂ => ?_
    simp only [List.getElem_mapIdx, List.getElem_replicate, parentsOf, List.getElem_map,
      List.getElem_range]
    unfold lastFor links parentOf
    rw [List.foldl_flatMap]
    congr 1
    funext last p
    exact lastFor_children p.1.children (some (p.2 : Int)) k last
  · intro u hu
    obtain ⟨⟨n, i⟩, hn, hu⟩ := List.mem_flatMap.mp hu
    obtain ⟨c, hc, rfl⟩ := List.mem_map.mp hu
    simpa using hw.childrenExist n (List.fst_mem_of_mem_zipIdx hn) c hc

/-- Placing a node stays in range if everything below it fits. -/
lemma place?_eq_place {k : Nat} : ∀ {fuel : Nat} {i : Int}, d.Fits k i → k ≤ fuel →
    ∀ (parent : Mat4 Single) (ws : List (Mat4 Single)), ws.length = d.nodes.length →
      place? d.nodes fuel parent ws i = place d.nodes fuel parent ws i := by
  induction k with
  | zero => exact fun h => h.elim
  | succ k ih =>
    rintro (_ | fuel) i ⟨n, hn, hc⟩ hle parent ws hlen
    · rfl
    · have hi := isSome_at?_iff.mp (Option.isSome_of_eq_some hn)
      rw [← hlen] at hi
      simp only [place?, place, hn, Option.bind_eq_bind, Option.bind_some, set?_eq_some hi]
      refine foldlM_congr (P := fun vs => vs.length = d.nodes.length) (fun c hmem vs hvs => ?_) _
        (by simpa using hlen)
      have hfits := hc c hmem
      have hfuel := Nat.le_of_succ_le_succ hle
      refine ⟨ih hfits hfuel _ vs hvs, fun vs' hplace => ?_⟩
      obtain ⟨vs'', h, hlen'⟩ := exists_place hfits hfuel (parent * n.local) vs
      rw [h, Option.some.injEq] at hplace
      rw [← hplace, hlen', hvs]

/-- The world transforms of a wired document. -/
lemma worlds?_eq_worlds (hw : d.Wired) (scale : Single) : worlds? d d.roots scale = worlds d scale := by
  refine foldlM_congr (P := fun vs => vs.length = d.nodes.length) (fun i hi vs hvs => ?_) _ (by simp)
  have hfits := hw.fits (hw.roots_inRange hi)
  refine ⟨place?_eq_place hfits (Nat.le_succ _) _ vs hvs, fun vs' hplace => ?_⟩
  obtain ⟨vs'', h, hlen⟩ := exists_place hfits (Nat.le_succ _) (Mat4.scaling (.fill scale)) vs
  rw [h, Option.some.injEq] at hplace
  rw [← hplace, hlen, hvs]

/-- The nodes of a scene are those of the document with their parents and world transforms. -/
lemma assemble_eq_nodesOf {ws : List (Mat4 Single)} :
    assemble d (parentsOf d) ws = nodesOf d ws := by
  refine List.ext_getElem (by simp [assemble, parentsOf, nodesOf]) fun k h₁ h₂ => ?_
  simp [assemble, parentsOf, nodesOf]

/-- The joints of a wired document. -/
lemma skeletonOf?_eq_skeletonOf (hw : d.Wired) :
    skeletonOf? d (parentsOf d) = skeletonOf d := by
  refine foldlM_congr (P := fun _ => True) (fun skin hskin joints _ => ⟨?_, fun _ _ => trivial⟩) []
    trivial
  have hjoints : skinJoints? d (parentsOf d) joints.length skin =
      skinJoints d joints.length skin := by
    refine mapM_congr fun j hj => ?_
    have hrange := hw.skins skin hskin j hj
    obtain ⟨k, rfl⟩ := Int.eq_ofNat_of_zero_le hrange.1
    have hk : k < d.nodes.length := by omega
    simp [parentsOf, hk]
  rw [hjoints]

/-- **Setting up a wired document** stays in range. -/
lemma setup?_eq_some (hw : d.Wired) (s : Scene) (settings : Settings) :
    s.setup? d settings = some (s.setup d settings) := by
  by_cases hscale : (settings.scale.lt 0 || settings.scale.same 0) = true
  · simp only [setup?, setup, hscale, if_true]
  obtain ⟨ws, hws, -⟩ := exists_worlds hw settings.scale
  obtain ⟨joints, hjoints⟩ := exists_skeletonOf hw
  simp only [setup?, setup, if_neg hscale, hw.roots?_eq_some, parents?_eq_some hw,
    Option.bind_eq_bind, Option.bind_some, worlds?_eq_worlds hw, hws, skeletonOf?_eq_skeletonOf hw,
    hjoints, assemble_eq_nodesOf]
  by_cases hmode : settings.mode = .character
  · simp only [if_pos hmode]
    rfl
  · simp only [if_neg hmode]
    rfl

/-! ## Primitives that draw vertices they have -/

/-- The positions of the skins are set one after the other. -/
lemma foldlM_skinBases (skins : List Document.Skin) :
    ∀ (bases : List Nat) (n : Nat), (skins.zipIdx bases.length).foldlM
      (fun (bases, n) (skin, i) => do
        return (← set? bases (i : Int) n, n + skin.joints.length))
      (bases ++ List.replicate skins.length 0, n) =
        some (skins.foldl (fun (bases, n) skin => (bases ++ [n], n + skin.joints.length))
          (bases, n)) := by
  induction skins with
  | nil => simp
  | cons skin skins ih =>
    intro bases n
    have hset : set? (bases ++ List.replicate (skin :: skins).length 0) (bases.length : Int) n =
        some (bases ++ [n] ++ List.replicate skins.length 0) := by
      rw [set?_eq_some (by simp)]
      simp [List.replicate_succ]
    have hrest := ih (bases ++ [n]) (n + skin.joints.length)
    rw [List.length_append, List.length_singleton] at hrest
    rw [List.zipIdx_cons, List.foldlM_cons]
    simp only [hset, Option.bind_eq_bind, Option.bind_some, List.foldl_cons]
    exact hrest

/-- The positions of the skins stay in range. -/
lemma skinBases?_eq_some (d : Document) : skinBases? d = some (skinBases d) := by
  have h := foldlM_skinBases d.skins [] 0
  rw [List.length_nil, List.nil_append] at h
  rw [skinBases?, h]
  rfl

/-- Triangles are cut from what is there. -/
lemma triangles?_eq_some (xs : List UInt32) : triangles? xs = some (triangles xs) := by
  have hcut : ∀ t ∈ List.range (xs.length / 3),
      (do return (← xs[3 * t]?, ← xs[3 * t + 1]?, ← xs[3 * t + 2]?) :
        Option (UInt32 × UInt32 × UInt32)) =
      pure (xs.getD (3 * t) 0, xs.getD (3 * t + 1) 0, xs.getD (3 * t + 2) 0) := by
    intro t ht
    have hlt : t < xs.length / 3 := List.mem_range.mp ht
    have h0 : 3 * t < xs.length := by omega
    have h1 : 3 * t + 1 < xs.length := by omega
    have h2 : 3 * t + 2 < xs.length := by omega
    simp [h0, h1, h2]
  rw [triangles?, mapM_congr hcut, List.mapM_pure, triangles_eq_map]
  rfl

/-- The corners of triangles are among the numbers that they are made of. -/
lemma mem_of_mem_triangles {xs : List UInt32} {a b c : UInt32} (h : (a, b, c) ∈ triangles xs) :
    a ∈ xs ∧ b ∈ xs ∧ c ∈ xs := by
  fun_induction triangles xs with
  | case1 x y z rest ih =>
    rcases List.mem_cons.mp h with heq | hrest
    · cases heq
      simp
    · obtain ⟨ha, hb, hc⟩ := ih hrest
      simp [ha, hb, hc]
  | case2 xs _ => simp at h

/-- The vertex numbers of a primitive are those of vertices, also where vertices in order are more
than can be numbered: the numbers wrap around. -/
lemma toNat_lt_of_mem_numbers {p : Document.Primitive}
    (hgiven : ∀ k ∈ p.indices.getD [], k.toNat < p.positions.length) {k : UInt32}
    (hk : k ∈ numbers p) : k.toNat < p.positions.length := by
  unfold numbers at hk
  cases hi : p.indices with
  | some is =>
    rw [hi] at hk hgiven
    exact hgiven k hk
  | none =>
    rw [hi] at hk
    obtain ⟨n, hn, rfl⟩ := List.mem_map.mp hk
    have hlt : n < p.positions.length := List.mem_range.mp hn
    rw [Nat.toUInt32_eq, UInt32.toNat_ofNat']
    exact Nat.lt_of_le_of_lt (Nat.mod_le _ _) hlt

/-- Sums that are there can be added to, and stay there. -/
lemma foldlM_modify (n : Vec3 Single) (is : List UInt32) :
    ∀ sums : Array (Vec3 Single), (∀ i ∈ is, i.toNat < sums.size) →
      is.foldlM (fun sums i => sums[i.toNat]?.map fun _ => sums.modify i.toNat (· + n)) sums =
          some (is.foldl (fun sums i => sums.modify i.toNat (· + n)) sums) ∧
        (is.foldl (fun sums i => sums.modify i.toNat (· + n)) sums).size = sums.size := by
  induction is with
  | nil => exact fun sums _ => ⟨rfl, rfl⟩
  | cons i is ih =>
    intro sums h
    obtain ⟨hi, hrest⟩ := List.forall_mem_cons.mp h
    obtain ⟨heq, hsize⟩ := ih (sums.modify i.toNat (· + n)) (by simpa using hrest)
    rw [List.foldlM_cons, List.foldl_cons, Array.getElem?_eq_getElem hi]
    exact ⟨heq, by simpa using hsize⟩

/-- A triangle of vertices that are there adds its normal to sums that are there. -/
lemma exists_addFace {points sums : Array (Vec3 Single)} {a b c : UInt32}
    (ha : a.toNat < points.size) (hb : b.toNat < points.size) (hc : c.toNat < points.size)
    (hsize : sums.size = points.size) :
    ∃ sums', addFace? points sums (a, b, c) = some sums' ∧
      addFace points sums (a, b, c) = some sums' ∧ sums'.size = points.size := by
  have hall : ∀ i ∈ [a, b, c], i.toNat < sums.size := by
    simp [hsize, ha, hb, hc]
  obtain ⟨heq, hkeep⟩ := foldlM_modify ((points[b.toNat] - points[a.toNat]).cross
    (points[c.toNat] - points[a.toNat])) [a, b, c] sums hall
  refine ⟨_, ?_, ?_, hkeep.trans hsize⟩
  · simp only [addFace?, Array.getElem?_eq_getElem, ha, hb, hc, Option.bind_eq_bind,
      Option.bind_some]
    exact heq
  · simp only [addFace, Array.getElem?_eq_getElem, ha, hb, hc, Option.bind_eq_bind,
      Option.bind_some]
    rfl

/-- One triangle after the other, all of vertices that are there. -/
lemma exists_foldlM_addFace {points : Array (Vec3 Single)} (ts : List (UInt32 × UInt32 × UInt32))
    (hts : ∀ t ∈ ts, t.1.toNat < points.size ∧ t.2.1.toNat < points.size ∧
      t.2.2.toNat < points.size) :
    ∀ sums : Array (Vec3 Single), sums.size = points.size →
      ∃ sums', ts.foldlM (addFace? points) sums = some sums' ∧
        ts.foldlM (addFace points) sums = some sums' ∧ sums'.size = points.size := by
  induction ts with
  | nil => exact fun sums hsize => ⟨sums, rfl, rfl, hsize⟩
  | cons t ts ih =>
    intro sums hsize
    obtain ⟨⟨ha, hb, hc⟩, hrest⟩ := List.forall_mem_cons.mp hts
    obtain ⟨sums₁, h₁, h₁', hsize₁⟩ := exists_addFace ha hb hc hsize
    obtain ⟨sums₂, h₂, h₂', hsize₂⟩ := ih hrest sums₁ hsize₁
    refine ⟨sums₂, ?_, ?_, hsize₂⟩
    · rw [List.foldlM_cons, h₁]
      exact h₂
    · rw [List.foldlM_cons, h₁']
      exact h₂'

section Primitive

variable {p : Document.Primitive}
  (hgiven : ∀ k ∈ p.indices.getD [], k.toNat < p.positions.length)

include hgiven

/-- **Derived normals** are computed in range, and there is one for every vertex. -/
lemma exists_faceNormals :
    ∃ ns, faceNormals? p.positions (triangles (numbers p)) = some ns ∧
      faceNormals p.positions (triangles (numbers p)) = some ns ∧
      ns.length = p.positions.length := by
  have hts : ∀ t ∈ triangles (numbers p), t.1.toNat < p.positions.toArray.size ∧
      t.2.1.toNat < p.positions.toArray.size ∧ t.2.2.toNat < p.positions.toArray.size := by
    rintro ⟨a, b, c⟩ ht
    obtain ⟨ha, hb, hc⟩ := mem_of_mem_triangles ht
    rw [List.size_toArray]
    exact ⟨toNat_lt_of_mem_numbers hgiven ha, toNat_lt_of_mem_numbers hgiven hb,
      toNat_lt_of_mem_numbers hgiven hc⟩
  obtain ⟨sums, h, h', hsize⟩ := exists_foldlM_addFace _ hts
    (Array.replicate p.positions.toArray.size Vec3.zero) (by simp)
  refine ⟨sums.toList.map Vec3.normalize, ?_, ?_, by simpa using hsize⟩
  · rw [faceNormals?, h]
    rfl
  · rw [faceNormals, h']
    rfl

/-- The normals of a primitive, if it has any, are one for every vertex. -/
lemma exists_normalsOf (flags : Flags) :
    ∃ ns, normalsOf? flags p (triangles (numbers p)) = some ns ∧ normalsOf flags p = some ns ∧
      ∀ l ∈ ns, l.length = p.positions.length := by
  unfold normalsOf? normalsOf
  split_ifs with hown hcalc
  · exact ⟨some p.normals, rfl, rfl, by simpa using hown⟩
  · obtain ⟨ns, h, h', hlen⟩ := exists_faceNormals hgiven
    exact ⟨some ns, by rw [h]; rfl, by rw [h']; rfl, by simpa using hlen⟩
  · exact ⟨none, rfl, rfl, by simp⟩

omit hgiven in
/-- A vertex is put together in range if normals reach it. -/
lemma vertexOf?_eq_some {flags : Flags} {world normalMatrix : Mat4 Single} {jointBase : Option Nat}
    {normals : Option (List (Vec3 Single))} {k : Nat} (hk : ∀ l ∈ normals, k < l.length)
    (pos : Vec3 Single) : vertexOf? flags world normalMatrix jointBase p normals k pos =
      some (vertexOf flags world normalMatrix jointBase p normals k pos) := by
  have hnormal : normalAt? normalMatrix normals k = some ((normals.bind (·[k]?)).elim .zero
      fun n => (normalMatrix.transformDirection n).normalize) := by
    cases normals with
    | none => rfl
    | some ns => simp [normalAt?, hk ns rfl]
  have htexCoord : texCoordAt? flags p k = some (p.texCoords[k]?.elim .zero
      fun t => if flags.flipUVs then ⟨t.x, 1 - t.y⟩ else t) := by
    by_cases ht : k < p.texCoords.length
    · simp [texCoordAt?, ht]
    · rw [texCoordAt?, if_neg ht, List.getElem?_eq_none (Nat.le_of_not_lt ht)]
      rfl
  have hboth : (k < p.joints.length ∧ k < p.weights.length) ↔
      (p.joints[k]?.isSome ∧ p.weights[k]?.isSome) := by simp
  simp only [vertexOf?, vertexOf, hnormal, htexCoord, hboth, Option.bind_eq_bind, Option.bind_some]
  cases normals.bind (·[k]?) <;> cases p.texCoords[k]? <;> cases jointBase <;>
    cases p.joints[k]? <;> cases p.weights[k]? <;> rfl

/-- **The block of a primitive** is put together in range. -/
lemma exists_blockOf (flags : Flags) (node : Node) (jointBase : Option Nat) (name : String) :
    ∃ b, blockOf? flags node jointBase name p = some b ∧
      blockOf flags node jointBase name p = some b ∧ b.material = p.material := by
  obtain ⟨ns, h, h', hlen⟩ := exists_normalsOf hgiven flags
  have hvertex : ∀ q ∈ p.positions.zipIdx,
      vertexOf? flags node.world node.world.normalMatrix jointBase p ns q.2 q.1 =
        pure (vertexOf flags node.world node.world.normalMatrix jointBase p ns q.2 q.1) := by
    intro q hq
    have hk : q.2 < p.positions.length := by
      simpa using List.snd_lt_of_mem_zipIdx hq
    exact vertexOf?_eq_some (fun l hl => by rw [hlen l hl]; exact hk) q.1
  refine ⟨_, ?_, by simp only [blockOf, h']; rfl, rfl⟩
  simp only [blockOf?, triangles?_eq_some, Option.bind_eq_bind, Option.bind_some, h]
  rw [mapM_congr hvertex, List.mapM_pure]
  rfl

end Primitive

/-! ## Flattening a wired document -/

variable {s : Scene} {settings : Settings}

/-- Where the skin of a node of a wired document starts. -/
lemma jointBase?_eq_some (hw : d.Wired) (s : Scene) {n : Document.Node} (hn : n ∈ d.nodes) :
    jointBase? s (skinBases d) n.skin = some (d.jointBase s.mode n) := by
  unfold jointBase? Document.jointBase
  cases hk : n.skin with
  | none => split_ifs <;> rfl
  | some k =>
    simp only [at?_skinBases ((hw.nodes n hn).2.1 k hk)]
    split_ifs <;> rfl

/-- The blocks of a visit of a node with a mesh. -/
lemma blocksAt_of_mesh {node : Node} {i m : Int} {shape : Document.Shape} {base : Option Nat}
    (hnode : at? s.nodes i = some node) (hmesh : node.mesh = some m)
    (hshape : at? d.meshes m = some shape)
    (hbase : jointBase? s (skinBases d) node.skin = some base) :
    blocksAt s d i =
      (shape.primitives.filter isDrawn).mapM (blockOf s.flags node base shape.name) := by
  unfold jointBase? at hbase
  simp only [blocksAt, hnode, hmesh, hshape, Option.bind_eq_bind, Option.bind_some]
  cases hk : node.skin with
  | none =>
    rw [hk] at hbase
    cases hbase
    rfl
  | some k =>
    simp only [hk] at hbase
    split_ifs at hbase ⊢
    · simp only [hbase, Option.bind_some]
    · cases hbase
      rfl

/-- **The blocks of a visit** are put together in range, and their materials exist. -/
lemma Prepared.exists_blocksAt? (hp : s.Prepared d settings) (hw : d.Wired) {i : Int}
    {n : Document.Node} (hn : at? d.nodes i = some n) :
    ∃ bs, (blocksAt? s d (skinBases d) i = some bs ∧ blocksAt s d i = some bs) ∧
      ∀ b ∈ bs, Document.RefWithin b.material d.materials.length := by
  obtain ⟨parent, hnode⟩ := hp.at?_nodes hn
  have hmem := mem_of_at?_eq_some hn
  cases hm : n.mesh with
  | none => exact ⟨[], by simp [blocksAt?, blocksAt, hnode, hm], by simp⟩
  | some m =>
    obtain ⟨shape, hshape⟩ := Option.isSome_iff_exists.mp
      (isSome_at?_iff.mpr ((hw.nodes n hmem).1 m hm))
    have hbase := jointBase?_eq_some hw s hmem
    generalize d.jointBase s.mode n = base at hbase
    have hblock : ∀ q ∈ shape.primitives.filter isDrawn, ∃ b,
        (blockOf? s.flags ⟨n.name, parent, n.children, s.worldOf i, n.mesh, n.skin⟩ base shape.name
            q = some b ∧
          blockOf s.flags ⟨n.name, parent, n.children, s.worldOf i, n.mesh, n.skin⟩ base shape.name
            q = some b) ∧ Document.RefWithin b.material d.materials.length := by
      intro q hq
      obtain ⟨hmaterial, hgiven⟩ :=
        hw.primitives shape (mem_of_at?_eq_some hshape) q (List.mem_of_mem_filter hq)
      obtain ⟨b, h, h', hb⟩ := exists_blockOf hgiven s.flags
        ⟨n.name, parent, n.children, s.worldOf i, n.mesh, n.skin⟩ base shape.name
      exact ⟨b, ⟨h, h'⟩, hb ▸ hmaterial⟩
    obtain ⟨bs, h, h', hmaterials⟩ := exists_mapM_mapM hblock
    refine ⟨bs, ⟨?_, ?_⟩, hmaterials⟩
    · simp only [blocksAt?, hnode, hm, hshape, hbase, Option.bind_eq_bind, Option.bind_some]
      rw [hm] at h
      exact h
    · rw [blocksAt_of_mesh hnode hm hshape hbase]
      exact h'

/-- The groups of blocks that are put one after the other have their materials. -/
lemma material_of_mem_groups {n : Nat} (bs : List Block) :
    ∀ m : Mesh, (∀ b ∈ bs, Document.RefWithin b.material n) →
      (∀ g ∈ m.groups, Document.RefWithin g.material n) →
      ∀ g ∈ (bs.foldl Mesh.add m).groups, Document.RefWithin g.material n := by
  induction bs with
  | nil => exact fun m _ hm => hm
  | cons b bs ih =>
    intro m hbs hm
    obtain ⟨hb, hrest⟩ := List.forall_mem_cons.mp hbs
    refine ih (m.add b) hrest ?_
    exact List.forall_mem_append.mpr ⟨hm, List.forall_mem_singleton.mpr hb⟩

/-- **Flattening a prepared scene** stays in range and gives a mesh whose materials exist. -/
lemma Prepared.exists_flatten? (hp : s.Prepared d settings) (hw : d.Wired) :
    ∃ mesh, s.flatten? = some (.ok mesh, { s with flattened := true, mesh := some mesh }) ∧
      s.flatten = (.ok mesh, { s with flattened := true, mesh := some mesh }) ∧
      ∀ g ∈ mesh.groups, Document.RefWithin g.material d.materials.length := by
  obtain ⟨vs, hvs, hwalk⟩ := hp.exists_visits hw
  obtain ⟨bss, h, h', hmaterials⟩ := exists_mapM_mapM fun i hi => by
    obtain ⟨n, hn⟩ := hwalk.exists_node i hi
    exact hp.exists_blocksAt? hw hn
  have hgroups : ∀ g ∈ (settle (bss.flatten.foldl Mesh.add (emptyMesh s.mode))).groups,
      Document.RefWithin g.material d.materials.length := by
    have hsettled : ∀ m : Mesh, (settle m).groups = m.groups := by
      intro m
      unfold settle
      split_ifs <;> rfl
    rw [hsettled]
    refine material_of_mem_groups _ _ (fun b hb => ?_) fun g hg => nomatch hg
    obtain ⟨bs, hbs, hb⟩ := List.mem_flatten.mp hb
    exact hmaterials bs hbs b hb
  refine ⟨_, ?_, ?_, hgroups⟩
  · simp only [flatten?, hp.doc, hp.fresh, Bool.false_eq_true, if_false, merge?,
      skinBases?_eq_some, hvs, h, Option.bind_eq_bind, Option.bind_some]
    rfl
  · simp only [flatten, hp.doc, hp.fresh, Bool.false_eq_true, if_false, merge, blocks, hvs, h',
      Option.bind_eq_bind, Option.bind_some]
    rfl

end Scene

end SceneForge
