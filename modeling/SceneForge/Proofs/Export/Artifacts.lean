import SceneForge.Proofs.Export.Sites
import SceneForge.Proofs.Surface.Build

set_option autoImplicit false

/-!
# Textures and surfaces of an export

The first phase of an export writes a texture for every embedded image and a surface for every
material. Images are converted one after the other, each in a workspace of its own, and their
textures are numbered; surfaces are named. So nothing that is written later touches what was written
before, and at the end everything is there.

## Main definitions

* `SceneForge.Texture.fileName`, `SceneForge.Depot.HoldsTexture` — the texture of an image.
* `SceneForge.Texture.ImageSite` — where an image is converted.
* `SceneForge.AssetId.textureSite`, `SceneForge.AssetId.surfaceSite` — where textures and surfaces
  go.

## Main results

* `SceneForge.Texture.extract_among`, `SceneForge.Surface.generate_touches` — where textures and
  surfaces are made.
* `SceneForge.Stage.holdsTexture_of_textures` — every embedded image has a texture.
* `SceneForge.Stage.holds_of_surfaces` — every material has a surface.
-/

namespace SceneForge

open Event (Among)
open Job (Evolves)

/-! ## Textures -/

namespace Texture

/-- The extensions of textures. -/
def extensions : List String := ["png", "jpg"]

/-- The file name of the texture of an image. -/
def fileName (i : Nat) (ext : String) : String := toString i ++ "." ++ ext

/-- Extensions are single pieces. -/
lemma noSeparator_of_mem_extensions {ext : String} (h : ext ∈ extensions) :
    '/' ∉ ext.toList ∧ '\\' ∉ ext.toList ∧ '.' ∉ ext.toList := by
  revert ext
  decide

/-- A texture is written as PNG or JPEG. -/
lemma extensionFor_mem (format : String) : extensionFor format ∈ extensions := by
  unfold extensionFor
  split_ifs <;> decide

/-- An image is written out as PNG or JPEG. -/
lemma ext_mem (type : ImageType) : type.ext ∈ extensions := by
  cases type <;> decide

/-- The number of an image with a word behind it is an ordinary name. -/
lemma ordinary_numbered (i : Nat) {ending : String}
    (hending : '/' ∉ ending.toList ∧ '\\' ∉ ending.toList) (hlast : ∃ c ∈ ending.toList, c ≠ '.') :
    Path.Ordinary (toString i ++ ending).toList := by
  rw [String.toList_append]
  refine Path.ordinary_append ?_ hending hlast
  simp [notMem_toDigits]

/-- The file name of a texture is ordinary. -/
lemma ordinary_fileName (i : Nat) {ext : String} (h : ext ∈ extensions) :
    Path.Ordinary (fileName i ext).toList := by
  rw [fileName, String.append_assoc]
  refine ordinary_numbered i ?_ ⟨'g', ?_, by decide⟩ <;> revert ext <;> decide

/-- The file name of a scratch file is ordinary. -/
lemma ordinary_scratch (i : Nat) {ext : String} (h : ext ∈ extensions) :
    Path.Ordinary (toString i ++ ("_out." ++ ext)).toList := by
  refine ordinary_numbered i ?_ ⟨'g', ?_, by decide⟩ <;> revert ext <;> decide

/-- Textures of different images have different file names. -/
lemma fileName_inj {i j : Nat} {ext ext' : String} (h : fileName i ext = fileName j ext') : i = j := by
  have hcut : ∀ (n : Nat) (e : String), (fileName n e).toList.takeWhile (· ≠ '.') =
      Nat.toDigits 10 n := by
    intro n e
    have hchars : (fileName n e).toList = Nat.toDigits 10 n ++ '.' :: e.toList := by
      simp [fileName]
    rw [hchars, Path.takeWhile_ne_append (notMem_toDigits (by decide) n)]
  have hdigits : Nat.toDigits 10 i = Nat.toDigits 10 j := by rw [← hcut i ext, ← hcut j ext', h]
  have hvalue := congrArg (Nat.ofDigitChars 10 · 0) hdigits
  simpa using hvalue

/-- The workspace with some name. -/
def workspace (name : String) : Site := ⟨.temp, ["textureconverter", name]⟩

/-- The location text of a workspace. -/
lemma workspace_uri (name : String) : (workspace name).uri = workspaceRoot ++ "/" ++ name := by
  rw [← String.toList_inj]
  simp [Site.uri, workspace, workspaceRoot, Path.join, Area.tag]

/-- A workspace with an ordinary name. -/
lemma workspace_ordinary {name : String} (h : Path.Ordinary name.toList) :
    (workspace name).Ordinary where
  ne_nil := by simp [workspace]
  names := by
    have hroot : Path.Ordinary "textureconverter".toList :=
      ⟨⟨by decide, by decide, by decide, by decide⟩, by decide⟩
    simp only [workspace, List.forall_mem_cons, List.not_mem_nil, false_imp_iff, implies_true,
      and_true]
    exact ⟨hroot, h⟩

/-- Where an image is converted: in scratch space, and where its texture goes. -/
def ImageSite (t : Site) (i : Nat) (s : Site) : Prop :=
  s.area = .temp ∨ ∃ ext ∈ extensions, s = t.child (fileName i ext)

section Convert

variable {tools : Tools} {ws t : Site} {i : Nat} {type : ImageType} {d d' : Depot}

/-- The location text of a numbered file. -/
lemma uri_fileName (ht : t.Ordinary) (i : Nat) (ext : String) :
    (t.child (fileName i ext)).uri = t.uri ++ "/" ++ toString i ++ "." ++ ext := by
  rw [t.uri_child ht.ne_nil, fileName]
  simp only [String.append_assoc]

/-- The name of the picture of an image is its number. -/
lemma stem_picture (ws : String) (i : Nat) (type : ImageType) :
    stem (ws ++ "/" ++ toString i ++ "." ++ type.ext) = toString i := by
  obtain ⟨hslash, -, hdot⟩ := noSeparator_of_mem_extensions (ext_mem type)
  exact stem_append ws (toString i) type.ext (by simp [notMem_toDigits]) ⟨hslash, hdot⟩

/-- An event in a workspace. -/
lemma among_workspace (hws : ws.Ordinary) (htemp : ws.area = .temp) {e : Event} {name : String}
    (hname : Path.Ordinary name.toList) (he : e.uri = ws.uri ++ "/" ++ name) :
    e.Among (ImageSite t i) := by
  refine ⟨ws.child name, Or.inl htemp, hws.child hname, ?_⟩
  rw [he, ws.uri_child hws.ne_nil]

/-- An event at the texture of an image. -/
lemma among_texture (ht : t.Ordinary) {e : Event} {ext : String} (hext : ext ∈ extensions)
    (he : e.uri = t.uri ++ "/" ++ toString i ++ "." ++ ext) : e.Among (ImageSite t i) :=
  ⟨t.child (fileName i ext), Or.inr ⟨ext, hext, rfl⟩, ht.child (ordinary_fileName i hext), by
    rw [he, uri_fileName ht]⟩

/-- **Everything that happens in the workspace of an image** takes place at the sites of the
image. -/
lemma convertIn_among (hws : ws.Ordinary) (htemp : ws.area = .temp) (ht : t.Ordinary)
    (data : Bytes) :
    Evolves (Among (ImageSite t i)) (convertIn (convert tools) i type data ws.uri t.uri) := by
  have hmkdir : (Event.mkdir ws.uri).Among (ImageSite t i) := ⟨ws, Or.inl htemp, hws, rfl⟩
  have hpicture : (Event.create (ws.uri ++ "/" ++ toString i ++ "." ++ type.ext)).Among
      (ImageSite t i) :=
    among_workspace hws htemp (ordinary_fileName i (ext_mem type))
      (by simp [Event.uri, fileName, String.append_assoc])
  refine convertIn_steps (Job.createDirectory_evolves hmkdir)
    (fun _ => Job.writeAll_evolves hpicture)
    (convert_steps tools (fun format _ => ?_) fun format _ => ?_) data
  · rw [stem_picture]
    refine Job.writeAll_evolves (among_workspace hws htemp
      (ordinary_scratch i (extensionFor_mem format)) ?_)
    simp [Event.uri, String.append_assoc]
  · rw [stem_picture]
    exact Job.writeAll_evolves (among_texture ht (extensionFor_mem format) rfl)

/-- A picture that was converted is there as a texture. -/
lemma holds_of_convertIn (ht : t.Ordinary) {data : Bytes}
    (h : (convertIn (convert tools) i type data ws.uri t.uri).run d = (.ok (), d')) :
    ∃ ext ∈ extensions, ∃ bytes, d'.Holds (t.child (fileName i ext)).uri bytes := by
  obtain ⟨_, d₁, -, h⟩ := Job.exists_of_bind_run h
  obtain ⟨_, d₂, -, h⟩ := Job.exists_of_bind_run h
  rw [Job.run_mapFailure_eq_ok_iff, convert, Job.run_mapFailure_eq_ok_iff] at h
  obtain ⟨picture, d₃, -, h⟩ := Job.exists_of_bind_run h
  obtain ⟨texture, d₄, -, h⟩ := Job.exists_of_bind_run h
  obtain ⟨_, d₅, -, h⟩ := Job.exists_of_bind_run h
  obtain ⟨bytes, d₆, -, h⟩ := Job.exists_of_bind_run h
  rw [stem_picture] at h
  refine ⟨extensionFor (formatOf tools.codecs (ws.uri ++ "/" ++ toString i ++ "." ++ type.ext) picture),
    extensionFor_mem _, bytes, ?_⟩
  rw [uri_fileName ht]
  exact Depot.holds_of_writeAll h

/-- Removing a workspace takes place in scratch space. -/
lemma dropWorkspace_among (hws : ws.Ordinary) (htemp : ws.area = .temp) :
    Evolves (Among (·.area = .temp)) (dropWorkspace ws.uri) :=
  (Job.deleteDirectory_evolves ⟨ws, htemp, hws, rfl⟩).orWarn _

end Convert

end Texture

/-- The texture of an image is there. -/
def Depot.HoldsTexture (d : Depot) (t : Site) (i : Nat) : Prop :=
  ∃ ext ∈ Texture.extensions, ∃ bytes, d.Holds (t.child (Texture.fileName i ext)).uri bytes

/-- A world that names scratch directories by ordinary elements. -/
def World.ScratchOrdinary (w : World) : Prop := ∀ n, Path.Ordinary (w.scratch n).toList

namespace Texture

variable {tools : Tools} {doc : Document} {t : Site} {i : Nat} {type : ImageType} {d d' : Depot}
  {top : Location}

/-- Extracting an image, whatever fails, takes place at the sites of the image. -/
lemma extractImage_among (hscratch : d.world.ScratchOrdinary) (ht : t.Ordinary) :
    d.Evolves (Among (ImageSite t i))
      ((extractImage (convert tools) doc t.uri i type).run d).2 := by
  refine Job.evolves_bind_run (Job.ofExcept_evolves _ d) fun data d₁ hdata => ?_
  obtain ⟨-, rfl⟩ := Job.run_ofExcept_eq_ok_iff.mp hdata
  refine Job.evolves_bind_run (Job.nextScratch_evolves d) fun name d₂ hname => ?_
  cases hname
  have hws := workspace_ordinary (hscratch d.scratchUsed)
  simp only [← workspace_uri]
  exact Evolves.thenAlways (convertIn_among hws rfl ht data)
    ((dropWorkspace_among hws rfl).mono fun e he => he.mono fun s hs => Or.inl hs) _

/-- Scratch space is apart from textures. -/
lemma apart_of_temp {s : Site} (hs : s.area = .temp) (harea : t.area = .texture) (name : String) :
    s.Apart (t.child name) := by
  refine Or.inl ?_
  rw [Site.area_child, hs, harea]
  decide

/-- An image that was extracted has its texture, also after its workspace was removed. -/
lemma holdsTexture_of_extractImage (htop : d.assigns.Rooted top)
    (hscratch : d.world.ScratchOrdinary) (ht : t.Ordinary) (harea : t.area = .texture)
    (h : (extractImage (convert tools) doc t.uri i type).run d = (.ok (), d')) :
    d'.HoldsTexture t i := by
  obtain ⟨data, d₁, hdata, h⟩ := Job.exists_of_bind_run h
  obtain ⟨-, rfl⟩ := Job.run_ofExcept_eq_ok_iff.mp hdata
  obtain ⟨name, d₂, hname, h⟩ := Job.exists_of_bind_run h
  cases hname
  have hws := workspace_ordinary (hscratch d.scratchUsed)
  rw [Job.run_thenAlways_eq_ok_iff, ← workspace_uri] at h
  obtain ⟨d₃, hconvert, rfl⟩ := h
  obtain ⟨ext, hext, bytes, hholds⟩ := holds_of_convertIn ht hconvert
  have hevolves := Evolves.of_run (convertIn_among hws rfl ht data) hconvert
  exact ⟨ext, hext, bytes, hholds.of_apart (dropWorkspace_among hws rfl d₃)
    (hevolves.assigns ▸ htop) (ht.child (ordinary_fileName i hext)) fun s hs =>
      apart_of_temp hs harea _⟩

/-- Extracting images, whatever fails, takes place at the sites of these images. -/
lemma extractAll_among (ht : t.Ordinary) (images : List (Document.Image × Nat)) :
    ∀ {d : Depot} (count : Nat), d.world.ScratchOrdinary →
      d.Evolves (Among fun s => ∃ p ∈ images, ImageSite t p.2 s)
        ((extractAll (convert tools) doc t.uri count images).run d).2 := by
  induction images with
  | nil => exact fun count _ => .of_same rfl rfl rfl rfl
  | cons p images ih =>
    intro d count hscratch
    obtain ⟨image, i⟩ := p
    have hrest : ∀ {d : Depot} (count : Nat), d.world.ScratchOrdinary →
        d.Evolves (Among fun s => ∃ p ∈ (image, i) :: images, ImageSite t p.2 s)
          ((extractAll (convert tools) doc t.uri count images).run d).2 := fun count hscratch =>
      (ih count hscratch).mono fun e he => he.mono fun s ⟨p, hp, hs⟩ =>
        ⟨p, List.mem_cons_of_mem _ hp, hs⟩
    unfold extractAll
    split_ifs
    · exact hrest count hscratch
    have hfirst : d.Evolves (Among fun s => ∃ p ∈ (image, i) :: images, ImageSite t p.2 s)
        ((extractImage (convert tools) doc t.uri i image.type).run d).2 :=
      (extractImage_among hscratch ht).mono fun e he => he.mono fun s hs =>
        ⟨(image, i), List.mem_cons_self, hs⟩
    refine Job.evolves_bind_run hfirst fun r d₁ hr => ?_
    cases r with
    | error f => exact .of_same rfl rfl rfl rfl
    | ok _ =>
      rw [Job.run_attempt_eq_ok_iff] at hr
      rw [hr] at hfirst
      exact hrest (count + 1) (hfirst.world ▸ hscratch)

/-- **Images that were extracted have their textures**: those of later images go elsewhere.

**Proof sketch.** By induction on the images. The texture of the first one is there after its
extraction; what follows takes place in scratch space and at textures with other numbers. -/
lemma holdsTexture_of_extractAll (ht : t.Ordinary) (harea : t.area = .texture)
    (images : List (Document.Image × Nat)) :
    ∀ {d : Depot} {count n : Nat}, d.assigns.Rooted top → d.world.ScratchOrdinary →
      (images.map (·.2)).Nodup →
      (extractAll (convert tools) doc t.uri count images).run d = (.ok (n, none), d') →
      ∀ p ∈ images, p.1.embedded = true → d'.HoldsTexture t p.2 := by
  induction images with
  | nil => simp
  | cons p images ih =>
    intro d count n htop hscratch hnodup h
    obtain ⟨image, i⟩ := p
    rw [List.map_cons, List.nodup_cons] at hnodup
    rw [List.forall_mem_cons]
    unfold extractAll at h
    split_ifs at h with hembedded
    · refine ⟨fun hp => ?_, ih htop hscratch hnodup.2 h⟩
      simp [hp] at hembedded
    obtain ⟨r, d₁, hr, h⟩ := Job.exists_of_bind_run h
    rw [Job.run_attempt_eq_ok_iff] at hr
    cases r with
    | error f => cases h
    | ok _ =>
      have hevolves : d.Evolves (Among (ImageSite t i))
          ((extractImage (convert tools) doc t.uri i image.type).run d).2 :=
        extractImage_among hscratch ht
      rw [hr] at hevolves
      have htop₁ : d₁.assigns.Rooted top := hevolves.assigns ▸ htop
      have hscratch₁ : d₁.world.ScratchOrdinary := hevolves.world ▸ hscratch
      refine ⟨fun _ => ?_, ih htop₁ hscratch₁ hnodup.2 h⟩
      obtain ⟨ext, hext, bytes, hholds⟩ :=
        holdsTexture_of_extractImage htop hscratch ht harea hr
      have hlater : d₁.Evolves (Among fun s => ∃ p ∈ images, ImageSite t p.2 s)
          ((extractAll (convert tools) doc t.uri (count + 1) images).run d₁).2 :=
        extractAll_among ht images (count + 1) hscratch₁
      rw [h] at hlater
      refine ⟨ext, hext, bytes, hholds.of_apart hlater htop₁
        (ht.child (ordinary_fileName i hext)) ?_⟩
      rintro s ⟨q, hq, hs | ⟨ext', -, rfl⟩⟩
      · exact apart_of_temp hs harea _
      · refine Site.child_apart fun heq => hnodup.1 ?_
        rw [← fileName_inj heq]
        exact List.mem_map.mpr ⟨q, hq, rfl⟩

/-- **Extracting textures** takes place among textures and in scratch space, whatever fails. -/
lemma extract_among (hscratch : d.world.ScratchOrdinary) (ht : t.Ordinary)
    (harea : t.area = .texture) :
    d.Evolves (Among fun s => s.area = .texture ∨ s.area = .temp)
      ((extract (convert tools) doc t.uri).run d).2 := by
  have hdir : ∀ e : Event, e.uri = t.uri → e.Among fun s => s.area = .texture ∨ s.area = .temp :=
    fun e he => ⟨t, Or.inl harea, ht, he⟩
  have hpurge : Evolves (Among fun s => s.area = .texture ∨ s.area = .temp)
      (Job.purgeDirectory t.uri "cannot purge texture directory") :=
    Job.purgeDirectory_evolves (hdir _ rfl)
  have hmkdir : Evolves (Among fun s => s.area = .texture ∨ s.area = .temp)
      (Job.orWarn "cannot create texture directory" (Job.createDirectory t.uri)) :=
    (Job.createDirectory_evolves (hdir _ rfl)).orWarn _
  refine Job.evolves_bind_run (hpurge d) fun _ d₁ hpurged => ?_
  split_ifs
  · exact .of_same rfl rfl rfl rfl
  refine Job.evolves_bind_run (hmkdir d₁) fun _ d₂ hmade => ?_
  have hscratch₂ : d₂.world.ScratchOrdinary := by
    rw [(hmkdir.of_run hmade).world, (hpurge.of_run hpurged).world]
    exact hscratch
  refine (extractAll_among ht doc.images.zipIdx 0 hscratch₂).mono fun e he => he.mono ?_
  rintro s ⟨p, -, hs | ⟨ext, -, rfl⟩⟩
  · exact Or.inr hs
  · exact Or.inl harea

/-- **Textures that were extracted**: every embedded image has one. -/
lemma holdsTexture_of_extract {n k : Nat} {image : Document.Image} (htop : d.assigns.Rooted top)
    (hscratch : d.world.ScratchOrdinary) (ht : t.Ordinary) (harea : t.area = .texture)
    (h : (extract (convert tools) doc t.uri).run d = (.ok (n, none), d'))
    (hk : doc.images[k]? = some image) (hembedded : image.embedded = true) :
    d'.HoldsTexture t k := by
  obtain ⟨_, d₁, hpurge, h⟩ := Job.exists_of_bind_run h
  split_ifs at h with hcount
  · have hnone := List.filter_eq_nil_iff.mp (List.length_eq_zero_iff.mp hcount)
    exact absurd hembedded (hnone image (List.mem_of_getElem? hk))
  obtain ⟨_, d₂, hmkdir, h⟩ := Job.exists_of_bind_run h
  have hpurged := (Job.purgeDirectory_evolves (S := fun _ => True) trivial).of_run hpurge
  have hmade := ((Job.createDirectory_evolves (S := fun _ => True) trivial).orWarn _).of_run hmkdir
  have hboth := hpurged.trans hmade
  have hnodup : (doc.images.zipIdx.map (·.2)).Nodup := by
    rw [List.zipIdx_map_snd]
    exact List.nodup_range'
  exact holdsTexture_of_extractAll ht harea _ (hboth.assigns ▸ htop) (hboth.world ▸ hscratch) hnodup
    h (image, k) (List.mem_zipIdx_iff_getElem?.mpr hk) hembedded

end Texture

/-- Where the textures of an asset go. -/
def AssetId.textureSite (id : AssetId) : Site := id.site .texture ("_" ++ id.ext)

/-- Where the surfaces of an asset go. -/
def AssetId.surfaceSite (id : AssetId) : Site := id.site .surface ("_" ++ id.ext)

/-- The location text of the textures. -/
lemma AssetId.textureDir_eq_uri (id : AssetId) : id.textureDir = id.textureSite.uri :=
  (id.site_uri .texture _).symm

/-- The location text of the surfaces. -/
lemma AssetId.surfaceDir_eq_uri (id : AssetId) : id.surfaceDir = id.surfaceSite.uri :=
  (id.site_uri .surface _).symm

/-- An ordinary asset has ordinary directories. -/
lemma AssetId.Ordinary.dir {id : AssetId} (h : id.Ordinary) (area : Area) :
    (id.site area ("_" ++ id.ext)).Ordinary :=
  h.site area (by simp [h.ext.1, h.ext.2.1])

/-- A stage whose count was settled did all of its work, and counted it. -/
lemma Stage.exists_of_settle {job : Job (Nat × Option Failure)} {f : Nat → Measures → Measures}
    {d d' : Depot} {n : Nat}
    (h : (do
      let n ← settle (← job)
      Job.measure (f n)
      return n : Job Nat).run d = (.ok n, d')) :
    ∃ d₁, job.run d = (.ok (n, none), d₁) ∧ d' = { d₁ with measures := f n d₁.measures } := by
  obtain ⟨⟨m, failed⟩, d₁, hjob, h⟩ := Job.exists_of_bind_run h
  obtain ⟨m', d₂, hsettle, h⟩ := Job.exists_of_bind_run h
  obtain ⟨_, d₃, hmeasure, h⟩ := Job.exists_of_bind_run h
  cases failed with
  | some f => cases hsettle
  | none =>
    cases hsettle
    cases hmeasure
    cases h
    exact ⟨d₁, hjob, rfl⟩

/-- The stage of textures takes place among textures and in scratch space. -/
lemma Stage.textures_among {tools : Texture.Tools} {doc : Document} {id : AssetId} {d : Depot}
    (hscratch : d.world.ScratchOrdinary) (hid : id.Ordinary) :
    d.Evolves (Among fun s => s.area = .texture ∨ s.area = .temp)
      ((Stage.textures (.standard tools) doc id).run d).2 := by
  unfold Stage.textures
  rw [id.textureDir_eq_uri]
  refine Job.evolves_bind_run (Texture.extract_among hscratch (hid.dir _) rfl) fun r d₁ _ => ?_
  exact ((settle_evolves r).bind fun n => (Job.measure_evolves _).bind fun _ =>
    Job.pure_evolves _) d₁

/-- **Every embedded image has a texture** after the stage of textures. -/
lemma Stage.holdsTexture_of_textures {tools : Texture.Tools} {doc : Document} {id : AssetId}
    {d d' : Depot} {n : Nat} {top : Location} (htop : d.assigns.Rooted top)
    (hscratch : d.world.ScratchOrdinary) (hid : id.Ordinary)
    (h : (Stage.textures (.standard tools) doc id).run d = (.ok n, d')) {k : Nat}
    {image : Document.Image} (hk : doc.images[k]? = some image) (hembedded : image.embedded = true) :
    d'.HoldsTexture id.textureSite k := by
  obtain ⟨d₁, hextract, rfl⟩ := exists_of_settle h
  rw [id.textureDir_eq_uri] at hextract
  exact (Texture.holdsTexture_of_extract htop hscratch (hid.dir _) rfl hextract hk hembedded :)

/-! ## Surfaces -/

namespace Surface

variable {doc : Document} {id : AssetId} {template : String} {d d' : Depot} {top : Location}

/-- The file name of a surface. -/
def fileName (name : String) : String := name ++ ".sur"

/-- The location text of a surface file. -/
lemma surfacePath_eq_uri (hid : id.Ordinary) (name : String) :
    id.surfacePath name = (id.surfaceSite.child (fileName name)).uri := by
  rw [Site.uri_child (s := id.surfaceSite) (hid.dir .surface).ne_nil, ← id.surfaceDir_eq_uri,
    fileName, AssetId.surfacePath, AssetId.surfaceRef]
  simp only [String.append_assoc]

/-- The file name of the surface of a material is ordinary. -/
lemma ordinary_fileName (i : Nat) (m : Document.Material) :
    Path.Ordinary (fileName (Document.materialName i m)).toList := by
  rw [fileName, String.toList_append]
  exact Path.ordinary_append (Document.noSeparator_materialName i m) (by decide)
    ⟨'s', by decide, by decide⟩

/-- Surfaces with different names have different files. -/
lemma fileName_inj {name name' : String} (h : fileName name = fileName name') : name = name' := by
  rw [← String.toList_inj] at h ⊢
  simpa [fileName] using h

/-- What generating surfaces can do: the directory is renewed, and the surfaces of materials are
written. -/
inductive Touches (doc : Document) (id : AssetId) : Event → Prop where
  /-- The directory is removed. -/
  | purge : Touches doc id (.rmdir id.surfaceDir)
  /-- The directory is made. -/
  | renew : Touches doc id (.mkdir id.surfaceDir)
  /-- The surface of a material is written. -/
  | write {k : Nat} {m : Document.Material} (material : doc.materials[k]? = some m) :
      Touches doc id (.create (id.surfacePath (Document.materialName k m)))

/-- Writing a surface takes place at its file. -/
lemma among_create (hid : id.Ordinary) {name : String}
    (hname : Path.Ordinary (fileName name).toList) :
    (Event.create (id.surfacePath name)).Among (· = id.surfaceSite.child (fileName name)) :=
  ⟨_, rfl, (hid.dir .surface).child hname, surfacePath_eq_uri hid name⟩

/-- Generating surfaces takes place in the area of surfaces. -/
lemma Touches.among (hid : id.Ordinary) {e : Event} (h : Touches doc id e) :
    e.Among (·.area = .surface) := by
  cases h with
  | purge => exact ⟨id.surfaceSite, rfl, hid.dir _, id.surfaceDir_eq_uri⟩
  | renew => exact ⟨id.surfaceSite, rfl, hid.dir _, id.surfaceDir_eq_uri⟩
  | @write k m _ =>
    refine (among_create hid (ordinary_fileName k m)).mono ?_
    rintro s rfl
    rfl

/-- Writing surfaces creates their files. -/
lemma saveAll_creates (id : AssetId) (surfaces : List Surface) :
    ∀ count, Evolves (fun e => ∃ s ∈ surfaces, e = .create (id.surfacePath s.name))
      (saveAll id count surfaces) :=
  saveAll_steps surfaces fun s hs _ => Job.writeAll_evolves ⟨s, hs, rfl⟩

/-- A surface that was saved is there. -/
lemma holds_of_save {uri : String} {s : Surface} (h : (s.save uri).run d = (.ok (), d')) :
    ∃ text, s.render = .ok text ∧ d'.Holds uri (utf8 text) := by
  obtain ⟨text, d₁, htext, h⟩ := Job.exists_of_bind_run h
  rw [Job.run_within_eq_ok_iff, Job.run_ofExcept_eq_ok_iff] at htext
  obtain ⟨htext, rfl⟩ := htext
  exact ⟨text, htext, Depot.holds_of_writeAll h⟩

/-- **Surfaces that were written are there**: their names differ, so none replaces another.

**Proof sketch.** Induction on the surfaces. The file of the first one is there after it was
written, and the later ones have other names, so their sites are apart and it is kept
(`Holds.of_apart`). -/
lemma holds_of_saveAll (hid : id.Ordinary) (surfaces : List Surface) :
    ∀ {d : Depot} {count n : Nat}, d.assigns.Rooted top →
      (∀ s ∈ surfaces, Path.Ordinary (fileName s.name).toList) → (surfaces.map (·.name)).Nodup →
      (saveAll id count surfaces).run d = (.ok (n, none), d') →
      ∀ s ∈ surfaces, ∃ text, s.render = .ok text ∧
        d'.Holds (id.surfacePath s.name) (utf8 text) := by
  induction surfaces with
  | nil => simp
  | cons s surfaces ih =>
    intro d count n htop hnames hnodup h
    obtain ⟨hname, hrest⟩ := List.forall_mem_cons.mp hnames
    rw [List.map_cons, List.nodup_cons] at hnodup
    obtain ⟨r, d₁, hr, h⟩ := Job.exists_of_bind_run h
    rw [Job.run_attempt_eq_ok_iff] at hr
    cases r with
    | error f => cases h
    | ok _ =>
      have hsaved := (save_evolves _ s).of_run hr
      have htop₁ : d₁.assigns.Rooted top := hsaved.assigns ▸ htop
      rw [List.forall_mem_cons]
      refine ⟨?_, ih htop₁ hrest hnodup.2 h⟩
      obtain ⟨text, htext, hholds⟩ := holds_of_save hr
      rw [surfacePath_eq_uri hid] at hholds ⊢
      have hlater : d₁.Evolves (Among fun x => ∃ s' ∈ surfaces,
          x = id.surfaceSite.child (fileName s'.name)) d' := by
        refine ((saveAll_creates id surfaces _).of_run h).mono ?_
        rintro e ⟨s', hs', rfl⟩
        exact (among_create hid (hrest s' hs')).mono fun x hx => ⟨s', hs', hx⟩
      refine ⟨text, htext, hholds.of_apart hlater htop₁ ((hid.dir .surface).child hname) ?_⟩
      rintro x ⟨s', hs', rfl⟩
      refine Site.child_apart fun heq => hnodup.1 ?_
      rw [← fileName_inj heq]
      exact List.mem_map.mpr ⟨s', hs', rfl⟩

/-- The files of surfaces that were built have ordinary names. -/
lemma ordinary_of_build {surfaces : List Surface} (h : build doc id template = .ok surfaces) :
    ∀ s ∈ surfaces, Path.Ordinary (fileName s.name).toList := by
  intro s hs
  obtain ⟨k, m, -, hname⟩ := exists_of_mem_build h hs
  rw [hname]
  exact ordinary_fileName k m

/-- **Generating surfaces** renews the directory and writes the surfaces of materials, whatever
fails. -/
lemma generate_touches : Evolves (Touches doc id) (generate doc id template) := by
  refine generate_steps (fun _ => Job.purgeDirectory_evolves .purge)
    (Job.createDirectory_evolves .renew) fun surfaces hbuild s hs data => ?_
  obtain ⟨k, m, hk, hname⟩ := exists_of_mem_build hbuild hs
  rw [hname]
  exact Job.writeAll_evolves (.write hk)

/-- **Surfaces that were generated**: every material has its own. -/
lemma holds_of_generate {n k : Nat} {m : Document.Material} (htop : d.assigns.Rooted top)
    (hid : id.Ordinary) (h : (generate doc id template).run d = (.ok (n, none), d'))
    (hk : doc.materials[k]? = some m) :
    ∃ s text, ofMaterial doc id (Document.materialName k m) template m = .ok s ∧
      s.render = .ok text ∧ d'.Holds (id.surfacePath (Document.materialName k m)) (utf8 text) := by
  unfold generate at h
  split_ifs at h with hnone
  · rw [List.isEmpty_iff.mp hnone] at hk
    cases hk
  cases hbuild : build doc id template with
  | error f =>
    rw [hbuild] at h
    cases h
  | ok surfaces =>
    simp only [hbuild] at h
    obtain ⟨_, d₁, hrenew, h⟩ := Job.exists_of_bind_run h
    have hrenewed := (renewDirectory_evolves _).of_run hrenew
    obtain ⟨s, hs, hmade⟩ := getElem?_of_build hbuild hk
    obtain ⟨text, htext, hholds⟩ := holds_of_saveAll hid surfaces (hrenewed.assigns ▸ htop)
      (ordinary_of_build hbuild) (nodup_of_build hbuild) h s (List.mem_of_getElem? hs)
    rw [name_of_ofMaterial hmade] at hholds
    exact ⟨s, text, hmade, htext, hholds⟩

end Surface

namespace Stage

variable {doc : Document} {id : AssetId} {mode : Mode} {d d' : Depot} {top : Location}

/-- The stage of surfaces renews their directory and writes those of materials. -/
lemma surfaces_touches : Evolves (Surface.Touches doc id) (surfaces doc id mode) :=
  surfaces_steps Surface.generate_touches

/-- **Every material has a surface** after the stage of surfaces. -/
lemma holds_of_surfaces {n k : Nat} {m : Document.Material} (htop : d.assigns.Rooted top)
    (hid : id.Ordinary) (h : (surfaces doc id mode).run d = (.ok n, d'))
    (hk : doc.materials[k]? = some m) :
    ∃ s text, Surface.ofMaterial doc id (Document.materialName k m) (template mode) m = .ok s ∧
      s.render = .ok text ∧ d'.Holds (id.surfacePath (Document.materialName k m)) (utf8 text) := by
  unfold surfaces at h
  split_ifs at h with hnone
  · rw [List.isEmpty_iff.mp hnone] at hk
    cases hk
  · obtain ⟨d₁, hgenerate, rfl⟩ := exists_of_settle h
    exact (Surface.holds_of_generate htop hid hgenerate hk :)

end Stage

end SceneForge
