import SceneForge.Proofs.Access.Scene
import SceneForge.Proofs.Mesh.Codec

set_option autoImplicit false

/-!
# Merged meshes fit their file format

A merged mesh can be written without loss as soon as its parts can be counted: every group lies
within the vertex numbers, its material is one of the document, and only characters have joints and
weights. The mesh depends on the document and the settings, not on the scene that it was set up in.

## Main definitions

* `SceneForge.Group.Fits` — a group that lies within vertex numbers and is named by a text.

## Main results

* `SceneForge.Scene.unskinned_of_mem_blocks` — static blocks have neither joints nor weights.
* `SceneForge.Scene.fits_of_mem_groups` — the groups of blocks put one after the other.
* `SceneForge.Scene.Prepared.representable_of_flatten` — merged meshes are representable.
* `SceneForge.Scene.flatten_of_setup` — merged meshes do not depend on the scene.
-/

namespace SceneForge

/-- A group that lies within a number of vertex numbers and is named by a text. -/
structure Group.Fits (g : Group) (n : Nat) : Prop where
  /-- The name is a text. -/
  name : ∃ text : String, g.name = utf8 text
  /-- It does not start in front of the first vertex number. -/
  first : 0 ≤ g.firstIndex
  /-- It has as many vertex numbers as it says. -/
  count : 0 ≤ g.indexCount
  /-- It does not end behind the last vertex number. -/
  last : g.firstIndex + g.indexCount ≤ n

/-- A group that fits fits in front of more vertex numbers. -/
lemma Group.Fits.mono {g : Group} {n k : Nat} (h : g.Fits n) (hle : n ≤ k) : g.Fits k :=
  ⟨h.name, h.first, h.count, h.last.trans (by exact_mod_cast hle)⟩

namespace Scene

variable {s t : Scene} {d : Document} {settings : Settings} {bs : List Block} {b : Block}

/-! ## Blocks -/

/-- The results of a partial map come from the entries of the list. -/
lemma exists_of_mapM_eq_some {α β : Type} {f : α → Option β} {xs : List α} {ys : List β}
    (h : xs.mapM f = some ys) : ∀ y ∈ ys, ∃ x ∈ xs, f x = some y := by
  induction xs generalizing ys with
  | nil =>
    cases h
    simp
  | cons x xs ih =>
    simp only [List.mapM_cons, Option.bind_eq_bind, Option.bind_eq_some_iff, Option.pure_def,
      Option.some.injEq] at h
    obtain ⟨y, hy, ys', hys, rfl⟩ := h
    rw [List.forall_mem_cons]
    refine ⟨⟨x, List.mem_cons_self, hy⟩, fun z hz => ?_⟩
    obtain ⟨x', hx', hz'⟩ := ih hys z hz
    exact ⟨x', List.mem_cons_of_mem _ hx', hz'⟩

/-- A block of a visit is that of a primitive; only characters have joints. -/
lemma exists_of_mem_blocksAt {i : Int} (h : s.blocksAt d i = some bs) (hb : b ∈ bs) :
    ∃ node base, ∃ shape ∈ d.meshes, ∃ p ∈ shape.primitives, (s.mode ≠ .character → base = none) ∧
      blockOf s.flags node base shape.name p = some b := by
  simp only [blocksAt, Option.bind_eq_bind, Option.bind_eq_some_iff] at h
  obtain ⟨node, -, h⟩ := h
  cases hmesh : node.mesh with
  | none =>
    simp only [hmesh] at h
    cases h
    cases hb
  | some m =>
    simp only [hmesh, Option.bind_eq_some_iff] at h
    obtain ⟨shape, hshape, h⟩ := h
    have hmem := mem_of_at?_eq_some hshape
    cases hskin : node.skin with
    | none =>
      simp only [hskin] at h
      obtain ⟨p, hp, hblock⟩ := exists_of_mapM_eq_some h b hb
      exact ⟨node, none, shape, hmem, p, List.mem_of_mem_filter hp, fun _ => rfl, hblock⟩
    | some k =>
      simp only [hskin] at h
      split_ifs at h with hmode
      · obtain ⟨base, -, h⟩ := Option.bind_eq_some_iff.mp h
        obtain ⟨p, hp, hblock⟩ := exists_of_mapM_eq_some h b hb
        exact ⟨node, base, shape, hmem, p, List.mem_of_mem_filter hp,
          fun hstatic => absurd hmode hstatic, hblock⟩
      · obtain ⟨p, hp, hblock⟩ := exists_of_mapM_eq_some h b hb
        exact ⟨node, none, shape, hmem, p, List.mem_of_mem_filter hp, fun _ => rfl, hblock⟩

/-- A block of a scene is that of a primitive of the document; only characters have joints. -/
lemma exists_of_mem_blocks (h : s.blocks d = some bs) (hb : b ∈ bs) :
    ∃ node base, ∃ shape ∈ d.meshes, ∃ p ∈ shape.primitives, (s.mode ≠ .character → base = none) ∧
      blockOf s.flags node base shape.name p = some b := by
  simp only [blocks, Option.bind_eq_bind, Option.bind_eq_some_iff, Option.pure_def,
    Option.some.injEq] at h
  obtain ⟨visits, -, bss, hbss, rfl⟩ := h
  obtain ⟨bs', hbs', hb⟩ := List.mem_flatten.mp hb
  obtain ⟨i, -, hi⟩ := exists_of_mapM_eq_some hbss bs' hbs'
  exact exists_of_mem_blocksAt hi hb

/-- **Static blocks** have neither joints nor weights. -/
lemma unskinned_of_mem_blocks (hmode : s.mode ≠ .character) (h : s.blocks d = some bs)
    (hb : b ∈ bs) {v : Vertex} (hv : v ∈ b.vertices) :
    v.joints = .fill 0 ∧ v.weights = .fill 0 := by
  obtain ⟨node, base, shape, -, p, -, hbase, hblock⟩ := exists_of_mem_blocks h hb
  rw [hbase hmode] at hblock
  simp only [blockOf, Option.bind_eq_bind, Option.bind_eq_some_iff, Option.pure_def,
    Option.some.injEq] at hblock
  obtain ⟨normals, -, rfl⟩ := hblock
  obtain ⟨⟨pos, k⟩, -, rfl⟩ := List.mem_map.mp hv
  exact ⟨rfl, rfl⟩

/-- **The groups of blocks put one after the other** lie within the vertex numbers. -/
lemma fits_of_mem_groups (bs : List Block) :
    ∀ m : Mesh, (∀ g ∈ m.groups, g.Fits m.indices.length) →
      ∀ g ∈ (bs.foldl Mesh.add m).groups, g.Fits (bs.foldl Mesh.add m).indices.length := by
  induction bs with
  | nil => exact fun m hm => hm
  | cons b bs ih =>
    intro m hm
    refine ih (m.add b) ?_
    have hlen : (m.add b).indices.length = m.indices.length + b.indices.length := by
      simp [Mesh.add]
    refine List.forall_mem_append.mpr ⟨fun g hg => (hm g hg).mono (by omega),
      List.forall_mem_singleton.mpr ?_⟩
    exact ⟨⟨b.name, rfl⟩, Int.natCast_nonneg _, Int.natCast_nonneg _, by rw [hlen]; simp⟩

/-! ## Representable meshes -/

/-- Nothing but the box of a mesh without vertices is settled. -/
lemma settle_eq (m : Mesh) : ∃ box, settle m = { m with bounds := box } := by
  unfold settle
  split_ifs
  · exact ⟨_, rfl⟩
  · exact ⟨m.bounds, rfl⟩

/-- A merged mesh is that of the blocks of the scene, up to its box. -/
lemma Prepared.exists_blocks_of_flatten (hp : s.Prepared d settings) {mesh : Mesh}
    (h : s.flatten.1 = .ok mesh) : ∃ bs box, s.blocks d = some bs ∧
      mesh = { bs.foldl Mesh.add (emptyMesh s.mode) with bounds := box } := by
  simp only [flatten, hp.doc, hp.fresh, Bool.false_eq_true, if_false] at h
  cases hmerged : s.merge d with
  | none =>
    rw [hmerged] at h
    cases h
  | some m =>
    rw [hmerged] at h
    cases h
    simp only [merge, Option.bind_eq_bind, Option.bind_eq_some_iff, Option.pure_def,
      Option.some.injEq] at hmerged
    obtain ⟨bs, hbs, rfl⟩ := hmerged
    obtain ⟨box, hbox⟩ := settle_eq (bs.foldl Mesh.add (emptyMesh s.mode))
    exact ⟨bs, box, hbs, hbox⟩

/-- The vertices of a merged mesh that is not skinned have neither joints nor weights. -/
lemma Prepared.unskinned_of_flatten (hp : s.Prepared d settings) {mesh : Mesh}
    (h : s.flatten.1 = .ok mesh) (hskinned : mesh.skinned = false) :
    ∀ v ∈ mesh.vertices, v.joints = .fill 0 ∧ v.weights = .fill 0 := by
  intro v hv
  obtain ⟨bs, box, hbs, rfl⟩ := hp.exists_blocks_of_flatten h
  have hmode : s.mode ≠ .character := by
    have hstart : (emptyMesh s.mode).skinned = false :=
      (foldl_add_skinned bs (emptyMesh s.mode)).symm.trans hskinned
    simpa [emptyMesh] using hstart
  have hvertices : (bs.foldl Mesh.add (emptyMesh s.mode)).vertices = bs.flatMap (·.vertices) :=
    (foldl_add_vertices bs (emptyMesh s.mode)).trans (List.nil_append _)
  rw [hvertices] at hv
  obtain ⟨b, hb, hv⟩ := List.mem_flatMap.mp hv
  exact unskinned_of_mem_blocks hmode hbs hb hv

/-- **Merged meshes are representable** as soon as their groups and vertex numbers can be counted
and materials have codes; their groups are named by texts.

**Proof sketch.** The mesh is that of the blocks of the scene. Groups lie within the vertex numbers
by `fits_of_mem_groups`, their materials exist by `Prepared.exists_flatten?`, and a mesh that is not
skinned is made of static blocks (`Prepared.unskinned_of_flatten`). -/
lemma Prepared.representable_of_flatten (hp : s.Prepared d settings) (hw : d.Wired) {mesh : Mesh}
    (h : s.flatten.1 = .ok mesh) (hmaterials : d.materials.length ≤ 2 ^ 31)
    (hgroups : mesh.groups.length < 2 ^ 32) (hindices : mesh.indices.length ≤ 0xffffffff) :
    mesh.Representable ∧ ∀ g ∈ mesh.groups,
      Document.RefWithin g.material d.materials.length ∧ ∃ text : String, g.name = utf8 text := by
  obtain ⟨bs, box, -, hmesh⟩ := hp.exists_blocks_of_flatten h
  have hunskinned := hp.unskinned_of_flatten h
  obtain ⟨mesh', -, hflatten, hwithin⟩ := hp.exists_flatten? hw
  rw [hflatten] at h
  cases h
  have hfits : ∀ g ∈ mesh.groups, g.Fits mesh.indices.length := by
    rw [hmesh]
    exact fits_of_mem_groups bs (emptyMesh s.mode) fun g hg => nomatch hg
  refine ⟨⟨hgroups, fun g hg => ⟨fun i hi => ?_, ?_, ?_⟩, hunskinned⟩,
    fun g hg => ⟨hwithin g hg, (hfits g hg).name⟩⟩
  · have hwithin' := hwithin g hg i hi
    omega
  · obtain ⟨-, hfirst, hcount, hlast⟩ := hfits g hg
    omega
  · obtain ⟨-, hfirst, hcount, hlast⟩ := hfits g hg
    omega

/-! ## Scenes that are used again -/

/-- A document that was set up with valid settings is prepared. -/
lemma prepared_of_setup (hw : d.Wired) (hvalid : settings.validate = .ok ())
    (h : s.setup d settings = .ok t) : t.Prepared d settings := by
  have hscale : Single.lt 0 settings.scale := by
    unfold Settings.validate at hvalid
    split_ifs at hvalid with hpositive
    exact hpositive
  obtain ⟨t', hsetup, hp⟩ := exists_setup s hw hscale
  rw [h] at hsetup
  cases hsetup
  exact hp

/-- Setting up a document gives the same in every scene, except for name and category. -/
lemma setup_of_setup (h : s.setup d settings = .ok t) (s' : Scene) :
    s'.setup d settings = .ok { t with name := s'.name, category := s'.category } := by
  unfold setup at h ⊢
  simp only at h ⊢
  by_cases hscale : settings.scale.lt 0 || settings.scale.same 0
  · rw [if_pos hscale] at h
    cases h
  rw [if_neg hscale] at h ⊢
  cases hworlds : worlds d settings.scale with
  | none => simp [hworlds] at h
  | some ws =>
    by_cases hmode : settings.mode = .character
    · cases hskeleton : skeletonOf d with
      | none => simp [hworlds, hmode, hskeleton] at h
      | some joints =>
        simp only [hworlds, hmode, hskeleton, if_true, Option.bind_eq_bind, Option.bind_some,
          Option.pure_def, Except.ok.injEq] at h ⊢
        rw [← h]
    · simp only [hworlds, if_neg hmode, Option.bind_eq_bind, Option.bind_some, Option.pure_def,
        Except.ok.injEq] at h ⊢
      rw [← h]

/-- **Merged meshes do not depend on the scene** that a document is set up in. -/
lemma flatten_of_setup (h : s.setup d settings = .ok t) (s' : Scene) :
    ∃ t', s'.setup d settings = .ok t' ∧ t'.flatten.1 = t.flatten.1 := by
  refine ⟨_, setup_of_setup h s', ?_⟩
  have hmerge : ∀ doc, ({ t with name := s'.name, category := s'.category } : Scene).merge doc =
      t.merge doc := fun _ => rfl
  unfold flatten
  simp only [hmerge]
  cases t.doc with
  | none => rfl
  | some doc =>
    simp only
    split_ifs
    · rfl
    · cases t.merge doc <;> rfl

end Scene

end SceneForge
