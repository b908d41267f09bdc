import SceneForge.Proofs.Access.Scene

set_option autoImplicit false

/-!
# Every access is in range

On a valid document every checked function gives what the unchecked one gives, so nothing is ever
out of range and everything comes to an end.

## Main results

* `SceneForge.Document.imageData?_eq_some`, `SceneForge.Surface.build?_eq_some`,
  `SceneForge.Model.ofScene?_eq_some` — images, surfaces and models.
* `SceneForge.Document.access_in_range` — a valid document goes through all of them.
-/

namespace SceneForge

/-! ## Images -/

namespace Document

variable {d : Document}

/-- The slice of a view that has its bytes. -/
lemma viewData?_eq_some {i : Int} {data : Bytes} (h : d.viewData i = .ok data) :
    d.viewData? i = some (.ok data) := by
  unfold viewData at h
  cases hv : at? d.views i with
  | none => simp [hv] at h
  | some v =>
    cases hb : at? d.buffers v.buffer.toInt with
    | none => simp [hv, hb] at h
    | some b =>
      have hi := isSome_at?_iff.mp (Option.isSome_of_eq_some hv)
      have hbuffer := isSome_at?_iff.mp (Option.isSome_of_eq_some hb)
      simp only [hv, hb] at h
      split_ifs at h with hbad hback
      have hslice : slice? b.data v.offset.toInt (v.offset + v.length).toInt = some data := by
        simp only [Int64.lt_iff_toInt_lt, Int64.toInt_zero, Bool.or_eq_true, decide_eq_true_eq]
          at hbad hback
        rw [slice?, if_pos (by omega)]
        exact congrArg some (Except.ok.inj h)
      simp only [viewData?, inRange_iff.mpr hi, inRange_iff.mpr hbuffer, Bool.not_true,
        Bool.false_eq_true, if_false, hv, hb, Option.bind_eq_bind, Option.bind_some, hbad, hslice]
      rfl

/-- **Image bytes** are where they should be, and every embedded image of a valid document has
some. -/
lemma imageData?_eq_some (hvalid : d.validate = .ok ()) (i : Int) :
    d.imageData? i = some (d.imageData i) ∧
      ∀ image, at? d.images i = some image → image.embedded = true →
        ∃ data, d.imageData i = .ok data := by
  obtain ⟨-, hfault⟩ := validate_eq_ok_iff_wired.mp hvalid
  cases himage : at? d.images i with
  | none =>
    have hi : inRange i d.images.length = false := by
      rw [← Bool.not_eq_true, inRange_iff, ← isSome_at?_iff, himage]
      simp
    simp [imageData?, imageData, himage, hi]
  | some image =>
    have hi : inRange i d.images.length = true := by
      rw [inRange_iff, ← isSome_at?_iff, himage]
      rfl
    have hview := imageFault?_eq_none_iff_viewData.mp hfault image (mem_of_at?_eq_some himage)
    simp only [imageData?, imageData, hi, himage, Bool.not_true, Bool.false_eq_true, if_false,
      Option.bind_eq_bind, Option.bind_some, Option.some.injEq, forall_eq']
    by_cases hdata : image.data.isEmpty
    · cases hv : image.view with
      | none => simp [hdata, Image.embedded, hv]
      | some v =>
        obtain ⟨data, hok⟩ := hview v hv
        simp [hdata, viewData?_eq_some hok, hok]
    · simp [hdata]

end Document

/-! ## Surfaces and models of a wired document -/

namespace Surface

variable {d : Document} {id : AssetId}

/-- A texture slot of a wired document is resolved in range. -/
lemma slotTexture?_eq_some (hw : d.Wired) {slot : Ref}
    (hslot : Document.RefWithin slot d.textures.length) (fallback : String) :
    slotTexture? d id slot fallback = some (slotTexture d id slot fallback) := by
  cases slot with
  | none => rfl
  | some t =>
    have ht := hslot t rfl
    obtain ⟨texture, htexture⟩ := Option.isSome_iff_exists.mp (isSome_at?_iff.mpr ht)
    have hlt : ¬ t ≥ d.textures.length := by omega
    simp only [slotTexture?, slotTexture, if_neg hlt, htexture, Option.bind_eq_bind,
      Option.bind_some]
    cases hsource : texture.source with
    | none => rfl
    | some i =>
      have hi := hw.textures texture (mem_of_at?_eq_some htexture) i hsource
      obtain ⟨image, himage⟩ := Option.isSome_iff_exists.mp (isSome_at?_iff.mpr hi)
      have hlt' : ¬ i ≥ d.images.length := by omega
      simp only [if_neg hlt', himage, Option.bind_some]
      split_ifs <;> rfl

section Results

variable {α β : Type}

/-- A result in range is followed by results in range. -/
lemma mk_bind {r : Except Failure α} {f : α → ExceptT Failure Option β} {g : α → Except Failure β}
    (h : ∀ a, f a = ExceptT.mk (some (g a))) :
    (ExceptT.mk (some r) >>= f) = ExceptT.mk (some (r >>= g)) := by
  cases r with
  | error e => rfl
  | ok a => exact h a

/-- Results in range, one for every entry of a list. -/
lemma mapM_eq_mk {f : α → ExceptT Failure Option β} {g : α → Except Failure β} {xs : List α}
    (h : ∀ a ∈ xs, f a = ExceptT.mk (some (g a))) :
    xs.mapM f = ExceptT.mk (some (xs.mapM g)) := by
  induction xs with
  | nil => rfl
  | cons a xs ih =>
    obtain ⟨ha, hxs⟩ := List.forall_mem_cons.mp h
    rw [List.mapM_cons, List.mapM_cons, ha, ih hxs]
    exact mk_bind fun b => mk_bind fun bs => rfl

end Results

/-- The surface of a material of a wired document is built in range. -/
lemma ofMaterial?_eq_mk (hw : d.Wired) {m : Document.Material} (hm : m ∈ d.materials)
    (name template : String) :
    ofMaterial? d id name template m = ExceptT.mk (some (ofMaterial d id name template m)) := by
  obtain ⟨hcolor, hmetal, hnormal⟩ := hw.materials m hm
  have hslots : ∀ q ∈ slots m, Document.RefWithin q.2.1 d.textures.length := by
    simp [slots, hcolor, hmetal, hnormal]
  have htextures := mapM_eq_mk (f := fun q : String × Ref × String => do
      let ref ← ExceptT.mk ((slotTexture? d id q.2.1 q.2.2).map
        (inContext ("material " ++ Text.quote name ++ " " ++ q.1)))
      return Binding.mk q.1 (.texture ref)) fun q hq => by
    rw [slotTexture?_eq_some hw (hslots q hq) q.2.2]
    exact mk_bind fun ref => rfl
  unfold ofMaterial? ofMaterial
  exact (congrArg (· >>= _) htextures).trans (mk_bind fun textures => rfl)

/-- The surfaces of the materials from a position on are built in range. -/
lemma buildFrom?_eq_mk (hw : d.Wired) (template : String) (ms : List Document.Material) :
    ∀ seen : List String, d.materials.drop seen.length = ms →
      buildFrom? d id template seen (List.range' seen.length ms.length) =
        ExceptT.mk (some (buildFrom d id template seen ms)) := by
  induction ms with
  | nil => exact fun seen _ => rfl
  | cons m ms ih =>
    intro seen hseen
    have hm : d.materials[seen.length]? = some m := by
      rw [← List.head?_drop, hseen]
      rfl
    have hrest : d.materials.drop (seen ++ [Document.materialName seen.length m]).length = ms := by
      rw [List.length_append, List.length_singleton, ← List.tail_drop, hseen]
      rfl
    have hnext := ih _ hrest
    rw [List.length_append, List.length_singleton] at hnext
    rw [List.length_cons, List.range'_succ]
    have hlift : ∀ f : Document.Material → ExceptT Failure Option (List Surface),
        (ExceptT.lift (some m) >>= f) = f m := fun _ => rfl
    unfold buildFrom? buildFrom
    rw [hm, hlift]
    simp only
    cases seen.findIdx? (· == Document.materialName seen.length m) with
    | some first => rfl
    | none =>
      simp only
      rw [ofMaterial?_eq_mk hw (List.mem_of_getElem? hm)]
      refine mk_bind fun surface => ?_
      rw [hnext]
      exact mk_bind fun surfaces => rfl

/-- **Building surfaces** of a wired document stays in range. -/
lemma build?_eq_some (hw : d.Wired) (id : AssetId) (template : String) :
    build? d id template = some (build d id template) := by
  rw [build?, List.range_eq_range', build]
  exact buildFrom?_eq_mk hw template d.materials [] rfl

end Surface

namespace Model

/-- **The model of a scene** whose mesh has existing materials is put together in range. -/
lemma ofScene?_eq_some {s : Scene} {d : Document} (hdoc : s.doc = some d) {mesh : Mesh}
    (hmesh : ∀ g ∈ mesh.groups, Document.RefWithin g.material d.materials.length) (id : AssetId)
    (flags : Flags) (mode : Mode) :
    ofScene? s id mesh flags mode = some (ofScene s id mesh flags mode) := by
  have hsurface : ∀ g ∈ mesh.groups,
      surfaceOf? s.doc id g.material = some (surfaceOf s.doc id g.material) := by
    intro g hg
    rw [hdoc]
    cases hi : g.material with
    | none => rfl
    | some i =>
      have hrange := hmesh g hg i hi
      obtain ⟨m, hm⟩ := Option.isSome_iff_exists.mp (isSome_at?_iff.mpr hrange)
      simp [surfaceOf?, surfaceOf, hm, hrange.2]
  have hparts : mesh.groups.mapM (fun g => do
      return { name := Text.Utf8.decodeLossy g.name, surface := ← surfaceOf? s.doc id g.material
               firstIndex := g.firstIndex, indexCount := g.indexCount : Model.Part }) =
      some (ofScene s id mesh flags mode).parts := by
    rw [mapM_congr (g := fun g => pure _) fun g hg => by rw [hsurface g hg]; rfl, List.mapM_pure]
    rfl
  rw [ofScene?, hparts]
  rfl

end Model

/-- **Every access is in range.** A valid document is set up and flattened at any positive scale;
its roots, its surfaces, the model of the flattened scene and the bytes of its images are found; and
each of these comes to an end without an access out of range, since the checked functions give what
the unchecked ones give. Every embedded image has its bytes.

**Proof sketch.** In a valid document every reference leads to an existing entry and no node reaches
itself. So children and roots are nodes, and the fuel of both walks is enough (`exists_place`,
`Prepared.exists_visits`); triangles are cut from vertex numbers below the number of positions
(`toNat_lt_of_mem_numbers`), so normals are summed in range and there is one for every vertex; and
the materials of the merged groups are those of primitives. -/
theorem Document.access_in_range (d : Document) (hvalid : d.validate = .ok ()) (s : Scene)
    (id : AssetId) (template : String) (settings : Settings)
    (hscale : Single.lt 0 settings.scale) :
    d.roots? = some d.roots ∧
    (∃ scene mesh, s.setup? d settings = some (.ok scene) ∧ s.setup d settings = .ok scene ∧
      scene.flatten? = some (.ok mesh, { scene with flattened := true, mesh := some mesh }) ∧
      scene.flatten = (.ok mesh, { scene with flattened := true, mesh := some mesh }) ∧
      ∀ flags mode,
        Model.ofScene? { scene with flattened := true, mesh := some mesh } id mesh flags mode =
          some (Model.ofScene { scene with flattened := true, mesh := some mesh } id mesh flags
            mode)) ∧
    Surface.build? d id template = some (Surface.build d id template) ∧
    (∀ i, d.imageData? i = some (d.imageData i)) ∧
    ∀ i image, at? d.images i = some image → image.embedded = true →
      ∃ data, d.imageData i = .ok data := by
  obtain ⟨hw, -⟩ := validate_eq_ok_iff_wired.mp hvalid
  obtain ⟨scene, hsetup, hp⟩ := Scene.exists_setup s hw hscale
  obtain ⟨mesh, hflatten?, hflatten, hmaterials⟩ := hp.exists_flatten? hw
  refine ⟨hw.roots?_eq_some, ⟨scene, mesh, ?_, hsetup, hflatten?, hflatten, fun flags mode => ?_⟩,
    Surface.build?_eq_some hw id template, fun i => (imageData?_eq_some hvalid i).1,
    fun i => (imageData?_eq_some hvalid i).2⟩
  · rw [Scene.setup?_eq_some hw, hsetup]
  · exact Model.ofScene?_eq_some hp.doc hmaterials id flags mode

/-- A document with a skinned mesh in which nodes share a child, a material with a texture, and an
image behind a view. -/
def Document.banner : Document where
  nodes := [{ children := [2, 1] }, { children := [2] }, { mesh := some 0, skin := some 1 }]
  meshes := [{ name := "cloth", primitives := [
    { positions := [.zero, ⟨1, 0, 0⟩, ⟨0, 1, 0⟩], indices := some [0, 1, 2, 0], material := some 0 },
    { positions := [.zero, ⟨1, 0, 0⟩, ⟨0, 1, 0⟩, ⟨0, 0, 1⟩] }] }]
  materials := [{ name := "silk", baseColorTexture := some 0 }]
  textures := [{ source := some 0 }]
  images := [{ view := some 0 }]
  views := [{ offset := 1, length := 2 }]
  buffers := [{ data := [1, 2, 3] }]
  skins := [{ joints := [0] }, { joints := [1, 2] }]

/-- The banner goes through everything; the bytes of its image are those behind the view. -/
theorem Document.access_in_range_banner :
    banner.validate = .ok () ∧ Single.lt 0 1 ∧ banner.roots? = some [0] ∧
      (∃ scene mesh, ({} : Scene).setup? banner { mode := .character } = some (.ok scene) ∧
        scene.flatten?.map (·.1) = some (.ok mesh)) ∧
      ∃ data, banner.imageData 0 = .ok data := by
  have hvalid : banner.validate = .ok () := rfl
  have hscale : Single.lt 0 ({ mode := .character } : Settings).scale := by decide +kernel
  obtain ⟨hroots, ⟨scene, mesh, hsetup, -, hflatten, -⟩, -, -, himages⟩ :=
    access_in_range banner hvalid {} ⟨"props", "banner", "gltf"⟩ Surface.skinnedTemplate
      { mode := .character } hscale
  have hroot : banner.roots = [0] := by decide
  refine ⟨hvalid, hscale, hroots.trans (congrArg some hroot), ⟨scene, mesh, hsetup, ?_⟩, ?_⟩
  · rw [hflatten]
    rfl
  · exact himages 0 { view := some 0 } rfl rfl

end SceneForge
