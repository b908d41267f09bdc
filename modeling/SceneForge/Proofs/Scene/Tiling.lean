import SceneForge.Model.Generate
import SceneForge.Proofs.Scene.Merged

set_option autoImplicit false

/-!
# Groups tile a merged mesh

Every primitive that is drawn becomes a block, and blocks are put one after the other: the vertices
behind those that are there, the vertex numbers counted from there in 32 bits, and a group for what
was added. As long as all vertices can be numbered no number wraps around, so the groups cut the
vertex numbers into consecutive runs of whole triangles, and each run draws the vertices of its own
block alone.

## Main definitions

* `SceneForge.Tiles` — groups that cut vertex numbers and vertices into consecutive ranges.
* `SceneForge.Scene.Block.Closed` — blocks of whole triangles that draw their own vertices.
* `SceneForge.Mesh.Sound` — what holds of every merged mesh.
* `SceneForge.Mesh.Lossless` — meshes that a mesh file keeps.

## Main results

* `SceneForge.Mesh.Tiled.add` — a block put at the end of a mesh keeps the tiling.
* `SceneForge.Scene.closed_of_blockOf` — the block of a primitive is closed.
* `SceneForge.Scene.flatten_sound` — merged meshes are sound, and mesh files keep them.
-/

namespace SceneForge

/-! ## Tilings -/

/-- Groups that cut vertex numbers into consecutive runs of whole triangles, the first of them at
the position `first`. The numbers of each run are those of vertices in a range of its own; the
ranges follow one another from `low` on and end at `top`. -/
inductive Tiles : (first low : Nat) → List Group → List UInt32 → (top : Nat) → Prop where
  /-- No groups cut no numbers of no vertices. -/
  | nil {first low : Nat} : Tiles first low [] [] low
  /-- A group takes the numbers in front, which are those of the vertices in front. -/
  | cons {first low high top : Nat} {g : Group} {gs : List Group} {run rest : List UInt32}
      (start : g.firstIndex = first) (count : g.indexCount = run.length) (whole : 3 ∣ run.length)
      (grows : low ≤ high) (within : ∀ i ∈ run, low ≤ i.toNat ∧ i.toNat < high)
      (others : Tiles (first + run.length) high gs rest top) :
      Tiles first low (g :: gs) (run ++ rest) top

namespace Tiles

variable {first low top : Nat} {gs : List Group} {is : List UInt32}

/-- Ranges that follow one another do not end in front of where they start. -/
lemma low_le_top (h : Tiles first low gs is top) : low ≤ top := by
  induction h with
  | nil => exact Nat.le_refl _
  | cons _ _ _ grows _ _ ih => exact grows.trans ih

/-- All numbers are those of vertices in the ranges. -/
lemma lt_top_of_mem (h : Tiles first low gs is top) : ∀ i ∈ is, i.toNat < top := by
  induction h with
  | nil => exact fun i hi => nomatch hi
  | cons _ _ _ _ within others ih =>
    intro i hi
    rcases List.mem_append.mp hi with hrun | hrest
    · exact (within i hrun).2.trans_le others.low_le_top
    · exact ih i hrest

/-- There are whole triangles only. -/
lemma three_dvd_length (h : Tiles first low gs is top) : 3 ∣ is.length := by
  induction h with
  | nil => exact Nat.dvd_zero 3
  | cons _ _ whole _ _ _ ih =>
    rw [List.length_append]
    exact Nat.dvd_add whole ih

/-- Every group has whole triangles. -/
lemma three_dvd_indexCount (h : Tiles first low gs is top) : ∀ g ∈ gs, 3 ∣ g.indexCount := by
  induction h with
  | nil => exact fun g hg => nomatch hg
  | cons _ count whole _ _ _ ih =>
    rw [List.forall_mem_cons]
    refine ⟨?_, ih⟩
    rw [count]
    exact_mod_cast whole

/-- **One group more** takes the numbers that are put at the end. -/
lemma snoc (h : Tiles first low gs is top) {g : Group} {run : List UInt32} {high : Nat}
    (start : g.firstIndex = first + is.length) (count : g.indexCount = run.length)
    (whole : 3 ∣ run.length) (grows : top ≤ high)
    (within : ∀ i ∈ run, top ≤ i.toNat ∧ i.toNat < high) :
    Tiles first low (gs ++ [g]) (is ++ run) high := by
  induction h with
  | nil =>
    have hlast := Tiles.cons (by simpa using start) count whole grows within .nil
    simpa using hlast
  | cons start' count' whole' grows' within' _ ih =>
    rw [List.cons_append, List.append_assoc]
    refine .cons start' count' whole' grows' within' (ih ?_ grows within)
    rw [start, List.length_append]
    push_cast
    omega

end Tiles

/-- The groups of a mesh tile its vertex numbers and its vertices. -/
def Mesh.Tiled (m : Mesh) : Prop := Tiles 0 0 m.groups m.indices m.vertices.length

/-! ## Blocks -/

namespace Scene

/-- A block of whole triangles that draws its own vertices. -/
structure Block.Closed (b : Block) : Prop where
  /-- There are whole triangles only. -/
  whole : 3 ∣ b.indices.length
  /-- Every vertex number is that of a vertex. -/
  within : ∀ i ∈ b.indices, i.toNat < b.vertices.length

/-- A triangle has three corners, also when it is turned round. -/
lemma length_flatMap_triangle (reflected : Bool) (ts : List (UInt32 × UInt32 × UInt32)) :
    (ts.flatMap fun (a, b, c) => if reflected then [a, c, b] else [a, b, c]).length =
      3 * ts.length := by
  induction ts with
  | nil => rfl
  | cons t ts ih =>
    have hcorners :
        (if reflected then [t.1, t.2.2, t.2.1] else [t.1, t.2.1, t.2.2]).length = 3 := by
      split_ifs <;> rfl
    rw [List.flatMap_cons, List.length_append, ih, List.length_cons, hcorners]
    omega

/-- **The block of a primitive is closed** if the primitive draws vertices that it has. -/
lemma closed_of_blockOf {flags : Flags} {node : Node} {base : Option Nat} {name : String}
    {p : Document.Primitive} {b : Block} (h : blockOf flags node base name p = some b)
    (hgiven : ∀ k ∈ p.indices.getD [], k.toNat < p.positions.length) : b.Closed := by
  simp only [blockOf, Option.bind_eq_bind, Option.bind_eq_some_iff, Option.pure_def,
    Option.some.injEq] at h
  obtain ⟨normals, -, rfl⟩ := h
  refine ⟨?_, fun i hi => ?_⟩
  · rw [length_flatMap_triangle]
    exact Nat.dvd_mul_right 3 _
  · obtain ⟨⟨x, y, z⟩, ht, hi⟩ := List.mem_flatMap.mp hi
    obtain ⟨hx, hy, hz⟩ := mem_of_mem_triangles ht
    have hmem : i ∈ numbers p := by
      dsimp only at hi
      split_ifs at hi <;> simp only [List.mem_cons, List.not_mem_nil, or_false] at hi <;>
        rcases hi with rfl | rfl | rfl <;> assumption
    simpa using toNat_lt_of_mem_numbers hgiven hmem

variable {s : Scene} {d : Document} {settings : Settings} {bs : List Block}

/-- The blocks of a wired document are closed. -/
lemma closed_of_mem_blocks (hw : d.Wired) (h : s.blocks d = some bs) : ∀ b ∈ bs, b.Closed := by
  intro b hb
  obtain ⟨node, base, shape, hshape, p, hp, -, hblock⟩ := exists_of_mem_blocks h hb
  exact closed_of_blockOf hblock (hw.primitives shape hshape p hp).2

end Scene

/-! ## Blocks put one after the other -/

/-- **A block put at the end of a mesh keeps the tiling** as long as all vertices can be
numbered. -/
lemma Mesh.Tiled.add {m : Mesh} (h : m.Tiled) {b : Scene.Block} (hb : b.Closed)
    (hsize : m.vertices.length + b.vertices.length ≤ 2 ^ 32) : (m.add b).Tiled := by
  have hmoved : ∀ i ∈ b.indices.map (m.vertices.length.toUInt32 + ·),
      m.vertices.length ≤ i.toNat ∧ i.toNat < m.vertices.length + b.vertices.length := by
    intro i hi
    obtain ⟨j, hj, rfl⟩ := List.mem_map.mp hi
    have hlt := hb.within j hj
    rw [Scene.toNat_add_of_lt hlt hsize]
    omega
  have hlast : Tiles 0 0 (m.groups ++ [⟨utf8 b.name, b.material, m.indices.length,
      b.indices.length⟩]) (m.indices ++ b.indices.map (m.vertices.length.toUInt32 + ·))
      (m.vertices.length + b.vertices.length) :=
    Tiles.snoc h (by simp) (by simp) (by simpa using hb.whole) (Nat.le_add_right _ _) hmoved
  simpa [Mesh.Tiled, Mesh.add] using hlast

/-- Blocks put one after the other keep the tiling. -/
lemma Mesh.Tiled.foldl_add (bs : List Scene.Block) :
    ∀ m : Mesh, m.Tiled → (∀ b ∈ bs, b.Closed) →
      (bs.foldl Mesh.add m).vertices.length ≤ 2 ^ 32 → (bs.foldl Mesh.add m).Tiled := by
  induction bs with
  | nil => exact fun m hm _ _ => hm
  | cons b bs ih =>
    intro m hm hbs hsize
    obtain ⟨hb, hrest⟩ := List.forall_mem_cons.mp hbs
    refine ih (m.add b) (hm.add hb ?_) hrest hsize
    -- the vertices of a mesh stay in front of those that are added to it
    rw [List.foldl_cons, Scene.foldl_add_vertices, List.length_append, Mesh.add,
      List.length_append] at hsize
    omega

/-! ## Merged meshes -/

/-- What holds of every merged mesh of a document with some number of materials. -/
structure Mesh.Sound (m : Mesh) (materials : Nat) : Prop where
  /-- Every vertex number is that of a vertex. -/
  within : ∀ i ∈ m.indices, i.toNat < m.vertices.length
  /-- There are whole triangles only. -/
  whole : 3 ∣ m.indices.length
  /-- Every group has whole triangles. -/
  wholeGroups : ∀ g ∈ m.groups, 3 ∣ g.indexCount
  /-- The groups tile the vertex numbers and the vertices. -/
  tiled : m.Tiled
  /-- The material of a group, if it has one, exists. -/
  materials : ∀ g ∈ m.groups, Document.RefWithin g.material materials
  /-- The vertices of a mesh that is not skinned have neither joints nor weights. -/
  unskinned : m.skinned = false → ∀ v ∈ m.vertices, v.joints = .fill 0 ∧ v.weights = .fill 0

/-- A mesh that a mesh file keeps: its fields fit the format, and whatever is written of it is read
back as the same mesh, up to its signaling NaNs. -/
structure Mesh.Lossless (m : Mesh) : Prop where
  /-- The fields fit the format. -/
  representable : m.Representable
  /-- What is written is read back on every platform, with its NaNs made quiet. -/
  settled : ∀ p data, MeshFile.encode m p = .ok data → MeshFile.decode data = .ok ⟨p, 1, m.settled⟩
  /-- What is written is read back as it was on every platform, unless it has a signaling NaN. -/
  readBack : m.Quiet → ∀ p data, MeshFile.encode m p = .ok data →
    MeshFile.decode data = .ok ⟨p, 1, m⟩

/-- A mesh file keeps what fits its format. -/
lemma Mesh.Representable.lossless {m : Mesh} (h : m.Representable) : m.Lossless :=
  ⟨h, fun _ _ hdata => MeshFile.decode_of_encode hdata h,
    fun hquiet _ _ hdata => (MeshFile.decode_eq_iff_quiet hdata h).mpr hquiet⟩

/-- The mesh that collides fits the format as soon as its vertex numbers can be counted. -/
lemma Mesh.representable_collision {m : Mesh} (h : m.indices.length < 2 ^ 32) :
    m.collision.Representable := by
  refine ⟨by simp [Mesh.collision], fun g hg => ?_, fun _ v hv => ?_⟩
  · rw [Mesh.collision, List.mem_singleton] at hg
    subst hg
    exact ⟨by simp, by simp, by simpa using h⟩
  · obtain ⟨u, -, rfl⟩ := List.mem_map.mp hv
    exact ⟨rfl, rfl⟩

namespace Scene

variable {s : Scene} {d : Document} {settings : Settings}

/-- A merged mesh is tiled as long as its vertices can be numbered. -/
lemma Prepared.tiled_of_flatten (hp : s.Prepared d settings) (hw : d.Wired) {mesh : Mesh}
    (h : s.flatten.1 = .ok mesh) (hsize : mesh.vertices.length ≤ 2 ^ 32) : mesh.Tiled := by
  obtain ⟨bs, box, hbs, rfl⟩ := hp.exists_blocks_of_flatten h
  exact Mesh.Tiled.foldl_add bs (emptyMesh s.mode) .nil (closed_of_mem_blocks hw hbs) hsize

/-- **Merged meshes are sound, and mesh files keep them**. Every valid document can be set up at any
positive scale and flattened. If its vertices can be numbered in 32 bits, vertex numbers are those
of vertices, groups tile vertex numbers and vertices with whole triangles, materials exist, and only
skinned meshes have joints and weights. If materials, vertex numbers and groups can be counted too,
the mesh and the mesh that collides are read back from every file as they were written, up to their
signaling NaNs.

**Proof sketch.** The blocks of the scene are closed (`closed_of_mem_blocks`) and each of them keeps
the tiling (`Mesh.Tiled.add`), which gives everything about vertex numbers. Materials come from the
checks of the document, and vertices that are not skinned from static blocks. -/
theorem flatten_sound (s : Scene) (d : Document) (settings : Settings)
    (hvalid : d.validate = .ok ()) (hscale : Single.lt 0 settings.scale) :
    ∃ scene mesh, s.setup d settings = .ok scene ∧ scene.flatten.1 = .ok mesh ∧
      (mesh.vertices.length ≤ 2 ^ 32 → mesh.Sound d.materials.length ∧
        (d.materials.length ≤ 2 ^ 31 → mesh.indices.length < 2 ^ 32 →
          mesh.groups.length < 2 ^ 32 → mesh.Lossless ∧ mesh.collision.Lossless)) := by
  have hw : d.Wired := (Document.validate_eq_ok_iff_wired.mp hvalid).1
  obtain ⟨scene, hsetup, hp⟩ := exists_setup s hw hscale
  obtain ⟨mesh, -, hflatten, hmaterials⟩ := hp.exists_flatten? hw
  have hmesh : scene.flatten.1 = .ok mesh := by rw [hflatten]
  refine ⟨scene, mesh, hsetup, hmesh, fun hsize => ⟨?_, fun hm hi hg => ⟨?_, ?_⟩⟩⟩
  · have htiled := hp.tiled_of_flatten hw hmesh hsize
    exact ⟨htiled.lt_top_of_mem, htiled.three_dvd_length, htiled.three_dvd_indexCount, htiled,
      hmaterials, hp.unskinned_of_flatten hmesh⟩
  · exact (hp.representable_of_flatten hw hmesh hm hg (by omega)).1.lossless
  · exact (Mesh.representable_collision hi).lossless

/-- A document in which a child is listed twice and another is mirrored. The last vertex number of
its primitive belongs to no triangle. -/
def pleatedPanel : Document where
  nodes := [{ children := [1, 1, 2], placement := { matrix := some Mat4.identity } },
    { mesh := some 0, placement := { matrix := some Mat4.identity } },
    { mesh := some 0, placement := { matrix := some (Mat4.scaling ⟨-1, 1, 1⟩) } }]
  meshes := [{ name := "panel", primitives := [
    { positions := [.zero, ⟨1, 0, 0⟩, ⟨0, 1, 0⟩], indices := some [0, 1, 2, 0],
      material := some 0 }] }]
  materials := [{}]
  scenes := [{ nodes := [0] }]

/-- The panel is drawn three times, mirrored at the last of them: three groups of a triangle each
tile nine vertices. -/
theorem flatten_sound_pleatedPanel :
    pleatedPanel.validate = .ok () ∧ Single.lt 0 1 ∧
      ∃ scene mesh, ({} : Scene).setup pleatedPanel {} = .ok scene ∧ scene.flatten.1 = .ok mesh ∧
        (mesh.vertices.length = 9 ∧ mesh.indices = [0, 1, 2, 3, 4, 5, 6, 8, 7] ∧
          mesh.groups.length = 3) ∧
        mesh.Sound 1 ∧ mesh.Lossless ∧ mesh.collision.Lossless := by
  have hvalid : pleatedPanel.validate = .ok () := rfl
  have hscale : Single.lt 0 1 := by decide +kernel
  have hmesh : ((({} : Scene).setup pleatedPanel {}).toOption.bind fun scene =>
      scene.flatten.1.toOption.map fun m => (m.vertices.length, m.indices, m.groups.length)) =
        some (9, [0, 1, 2, 3, 4, 5, 6, 8, 7], 3) := by
    decide +kernel
  obtain ⟨scene, mesh, hsetup, hflatten, hsound⟩ := flatten_sound {} pleatedPanel {} hvalid hscale
  simp only [hsetup, hflatten, Except.toOption, Option.bind_some, Option.map_some,
    Option.some.injEq, Prod.mk.injEq] at hmesh
  obtain ⟨hv, hi, hg⟩ := hmesh
  obtain ⟨hsound, hlossless⟩ := hsound (by omega)
  exact ⟨hvalid, hscale, scene, mesh, hsetup, hflatten, ⟨hv, hi, hg⟩, hsound,
    hlossless (by decide) (by simp [hi]) (by omega)⟩

end Scene

end SceneForge
