import SceneForge.Proofs.Export.Faults
import SceneForge.Proofs.Json.Compact

set_option autoImplicit false

/-!
# Meshes that are too large

An asset whose mesh does not fit the format of mesh files cannot be exported. Once its textures and
surfaces are there the failure is counted as trouble with files, although nothing is wrong with the
files. So the one exception to what a failed export is counted as does occur: a document whose only
mesh has a name of 65536 bytes is such a source.

## Main definitions

* `SceneForge.Batch.salon` — a depot whose only document has a mesh with a long name.

## Main results

* `SceneForge.Scene.Prepared.exists_shape_of_mem_groups` — groups are named after meshes.
* `SceneForge.Document.load_of_holds` — a document is loaded from the compact text of its value.
* `SceneForge.Batch.io_of_oversized` — a mesh that is too large is counted as trouble with files.
* `SceneForge.Batch.io_of_longName` — this happens in the salon.
-/

namespace SceneForge

/-! ## Names of groups -/

namespace Gltf

open Json (Value)

/-- The mesh that a value describes has the name that it gives. -/
lemma name_of_shape {s : Source} {v : Value} {i : Nat} {t : Document.Shape}
    (h : shape s v i = .ok t) : t.name = (v.field "name").textD := by
  obtain ⟨primitives, -, ht⟩ := bind_eq_ok_iff.mp h
  cases ht
  rfl

/-- The meshes of a document that was put together have the names that its value gives them. -/
lemma names_of_assemble {v : Value} {buffers : List Bytes} {d : Document}
    (h : assemble v buffers = .ok d) : List.Forall₂ (fun e s => s.name = (e.field "name").textD)
      (v.field "meshes").items d.meshes := by
  simp only [assemble, bind, Except.bind] at h
  split at h
  · cases h
  rename_i meshes hmeshes
  split at h
  · cases h
  cases h
  have hall := forall₂_of_mapM_eq_ok hmeshes
  rw [← List.zipIdx_map_fst 0 (v.field "meshes").items, List.forall₂_map_left_iff]
  exact hall.imp fun p s hs => name_of_shape hs

end Gltf

namespace Scene
variable {s : Scene} {d : Document} {settings : Settings}

/-- Groups have the names of their pieces. -/
lemma groupsFrom_names (first : Nat) (ps : List Piece) :
    (groupsFrom first ps).map (·.name) = ps.map fun p => utf8 p.name := by
  induction ps generalizing first with
  | nil => rfl
  | cons p ps ih => rw [groupsFrom, List.map_cons, List.map_cons, ih]

/-- Groups are named after meshes. -/
lemma Prepared.exists_shape_of_mem_groups (hp : s.Prepared d settings) {mesh : Mesh}
    (h : s.flatten.1 = .ok mesh) {g : Group} (hg : g ∈ mesh.groups) :
    ∃ shape ∈ d.meshes, g.name = utf8 shape.name := by
  obtain ⟨bs, box, hbs, rfl⟩ := hp.exists_blocks_of_flatten h
  have hgroups := (foldl_add_groups bs (emptyMesh s.mode)).trans (List.nil_append _)
  have hname : g.name ∈ (bs.map Piece.ofBlock).map fun p => utf8 p.name := by
    rw [← groupsFrom_names, ← hgroups]
    exact List.mem_map_of_mem hg
  obtain ⟨p, hp', hpname⟩ := List.mem_map.mp hname
  obtain ⟨b, hb, rfl⟩ := List.mem_map.mp hp'
  obtain ⟨node, base, shape, hshape, p, -, -, hblock⟩ := exists_of_mem_blocks hbs hb
  simp only [blockOf, Option.bind_eq_bind, Option.bind_eq_some_iff, Option.pure_def,
    Option.some.injEq] at hblock
  obtain ⟨normals, -, rfl⟩ := hblock
  exact ⟨shape, hshape, hpname.symm⟩

end Scene

/-- The groups of the merged mesh are named after meshes. -/
lemma Document.Merges.exists_shape {doc : Document} {settings : Settings} {m : Mesh}
    (hmerges : doc.Merges settings m) (hwired : doc.Wired) (hvalid : settings.validate = .ok ())
    {g : Group} (hg : g ∈ m.groups) : ∃ shape ∈ doc.meshes, g.name = utf8 shape.name := by
  have hscale := settings.validate_excused (S := fun _ => True) trivial
  rw [hvalid] at hscale
  obtain ⟨ready, hsetup, hp⟩ := Scene.exists_setup {} hwired hscale
  obtain ⟨scene', hmerge⟩ := hmerges {}
  obtain ⟨ready', hsetup', hflatten, -⟩ := Stage.exists_of_merge hmerge
  cases hsetup.symm.trans hsetup'
  exact hp.exists_shape_of_mem_groups hflatten hg

/-! ## Exports of meshes that are too large -/

namespace Job

/-- Purging a directory never fails. -/
lemma exists_purgeDirectory (dir warning : String) (d : Depot) :
    ∃ d', (purgeDirectory dir warning).run d = (.ok (), d') := by
  rw [purgeDirectory, run_bind_of_ok (run_look _ d)]
  split_ifs
  · rcases hrun : (deleteDirectory dir).run d with ⟨r, d₁⟩
    rw [orWarn, run_bind_of_ok (run_attempt_eq_ok_iff.mpr hrun)]
    cases r with
    | error f => exact ⟨_, rfl⟩
    | ok a => exact ⟨_, rfl⟩
  · exact ⟨d, rfl⟩

end Job

/-- A mesh that does not fit cannot be encoded, for that reason. -/
lemma MeshFile.cause_of_not_storable {m : Mesh} {p : Platform} (hplatform : p.isKnown)
    (hlarge : ¬ m.Storable) : ∃ f, encode m p = .error f ∧ f.cause = .meshTooLarge := by
  have hexcused : Excused.Any (· = .meshTooLarge) (encode m p) :=
    encode_excused (fun h => absurd hplatform h) fun _ => rfl
  cases hencode : encode m p with
  | error f =>
    rw [hencode] at hexcused
    exact ⟨f, rfl, hexcused⟩
  | ok data =>
    obtain ⟨-, hvertices, hindices, hnames, -⟩ := encode_eq_ok_iff.mp hencode
    exact absurd ⟨hvertices, hindices, hnames⟩ hlarge

section

variable (tools : Texture.Tools) {platform : Platform} {doc : Document} {settings : Settings}
  {m : Mesh}

/-- A document without embedded images has no textures to make. -/
lemma Stage.exists_textures_of_none (himages : doc.embeddedCount = 0) (id : AssetId) (d : Depot) :
    ∃ d', (textures (.standard tools) doc id).run d = (.ok 0, d') := by
  obtain ⟨d₁, hpurge⟩ := Job.exists_purgeDirectory id.textureDir "cannot purge texture directory" d
  have hextract : (Texture.extract (Workshop.standard tools).convert doc id.textureDir).run d =
      (.ok (0, none), d₁) := by
    rw [Texture.extract, Job.run_bind_of_ok hpurge, if_pos himages]
    rfl
  rw [textures, Job.run_bind_of_ok hextract]
  exact ⟨_, rfl⟩

/-- A document without materials has no surfaces to make. -/
lemma Stage.surfaces_of_none (hmaterials : doc.materials = []) (id : AssetId) (mode : Mode)
    (d : Depot) : (surfaces doc id mode).run d = (.ok 0, d) := by
  rw [surfaces, hmaterials]
  rfl

/-- A mesh that cannot be encoded is not written. -/
lemma Stage.mesh_of_encode {f : Failure} (hencode : MeshFile.encode m platform = .error f)
    (id : AssetId) (d : Depot) : (mesh (.standard tools) platform id (.ok m)).run d = (.error f, d) := by
  have hgiven : (Job.ofExcept (MeshFile.encode m platform)).run d = (.error f, d) := by
    rw [Job.run_ofExcept, hencode]
  show ((MeshFile.save id.mesh m platform >>= fun _ => _) : Job Mesh).run d = _
  rw [MeshFile.save, Job.run_bind, Job.run_bind, hgiven]

/-- **A mesh that is too large** ends the first phase once nothing else is left to do. -/
lemma Stage.exists_all_of_oversized (hplatform : platform.isKnown) (himages : doc.embeddedCount = 0)
    (hmaterials : doc.materials = []) (hmerges : doc.Merges settings m) (hlarge : ¬ m.Storable)
    (scene : Scene) (id : AssetId) (d : Depot) : ∃ f scene' d',
    (all (.standard tools) platform scene doc id settings).run d = (.ok (.error f, scene'), d') ∧
      f.cause = .meshTooLarge := by
  obtain ⟨f, hencode, hcause⟩ := MeshFile.cause_of_not_storable hplatform hlarge
  obtain ⟨scene', hmerge⟩ := hmerges scene
  obtain ⟨d₁, htextures⟩ := exists_textures_of_none tools himages id d
  have hfirst : (Job.attempt do
      let textures ← Job.within "textures stage" (textures (.standard tools) doc id)
      let surfaces ← Job.within "surfaces stage" (surfaces doc id settings.mode)
      return (textures, surfaces) : Job (Except Failure (Nat × Nat))).run d =
        (.ok (.ok (0, 0)), d₁) := by
    rw [Job.run_attempt_eq_ok_iff, Job.run_bind_of_ok (Job.run_within_eq_ok_iff.mpr htextures),
      Job.run_bind_of_ok (Job.run_within_eq_ok_iff.mpr (surfaces_of_none hmaterials id _ d₁))]
    rfl
  have hlast : (Job.attempt
      (Job.within "mesh stage" (mesh (.standard tools) platform id (.ok m)))).run d₁ = (.ok (.error (f.within "mesh stage")), d₁) := by
    have hwithin : (Job.within "mesh stage" (mesh (.standard tools) platform id (.ok m))).run d₁ =
        (inContext "mesh stage" ((mesh (.standard tools) platform id (.ok m)).run d₁).1,
          ((mesh (.standard tools) platform id (.ok m)).run d₁).2) := rfl
    rw [Job.run_attempt_eq_ok_iff, hwithin, mesh_of_encode tools hencode]
    rfl
  refine ⟨f.within "mesh stage", scene', d₁, ?_, hcause⟩
  rw [all, Job.run_bind_of_ok hfirst]
  simp only [hmerge]
  rw [Job.run_bind_of_ok hlast]
  rfl

end

section

variable {tools : Texture.Tools} {doc : Document} {settings : Settings} {m : Mesh}
  {s s' : Session} {path : String} {d d' : Depot} (hopen : s.state = .isOpen)
  (hplatform : s.platform.isKnown) (hstale : s.force = true ∨ d.needsExport path = true)
  (hvalid : settings.validate = .ok ())
  (hload : ((Document.load (AssetId.ofPath path).source).run d).1 = .ok doc)
  (himages : doc.embeddedCount = 0) (hmaterials : doc.materials = [])
  (hmerges : doc.Merges settings m) (hlarge : ¬ m.Storable)

include hopen hplatform hstale hvalid hload himages hmaterials hmerges hlarge

/-- An export whose mesh is too large cannot be started, for that reason. -/
lemma Session.exists_of_start_oversized {r : Except Failure Pending}
    (h : (s.start (.standard tools) path settings).run d = (.ok (r, s'), d')) :
    ∃ f, r = .error f ∧ f.cause = .meshTooLarge := by
  cases starts_of_start h with
  | misplaced state => exact absurd hopen state
  | invalid state bad => cases hvalid.symm.trans bad
  | current state good fresh =>
    rcases hstale with hforce | hneeds
    · cases hforce.symm.trans fresh.1
    · cases hneeds.symm.trans fresh.2
  | unread state good load => cases hload.symm.trans (congrArg Prod.fst load)
  | @broken f doc' scene d₁ d₂ state good load stages =>
    obtain rfl : doc' = doc := Except.ok.inj ((congrArg Prod.fst load).symm.trans hload)
    obtain ⟨f', scene', d₃, hall, hcause⟩ := Stage.exists_all_of_oversized tools hplatform
      himages hmaterials hmerges hlarge (s.sceneFor path) (AssetId.ofPath path) d₁
    cases hall.symm.trans stages
    exact ⟨f, rfl, hcause⟩
  | started state good load stages pending =>
    exact absurd (storable_of_start h hload hmerges) hlarge

/-- **An asset whose mesh is too large** is counted as trouble with files, even if nothing is wrong
with the files. -/
theorem Batch.io_of_oversized {defaults : Settings} {patterns : List String} {result : ExportResult}
    (hsettings : (Job.settingsFor defaults (AssetId.ofPath path)).run d = (.ok settings, d))
    (h : ((standard tools defaults patterns).exportFile s path).run d = (.ok (result, s'), d')) :
    result.status = .failed ∧ result.kind = .io := by
  obtain ⟨r, elapsed, d₁, hasset, rfl, -⟩ := exists_of_exportFile hopen h
  have hgiven : ((standard tools defaults patterns).settings (AssetId.ofPath path)).run d =
      (.ok settings, d) := hsettings
  obtain ⟨r₁, s₁, d₂, hstart, -⟩ := Session.exists_starts (.standard tools) s path settings d
  obtain ⟨f, rfl, hcause⟩ := Session.exists_of_start_oversized hopen hplatform hstale hvalid hload
    himages hmaterials hmerges hlarge hstart
  have hstarted : (s.start (standard tools defaults patterns).workshop path settings).run d =
      (.ok (.error f, s₁), d₂) := hstart
  simp only [exportAsset, Job.run_bind, Job.run_attempt, hgiven, hstarted] at hasset
  cases hasset
  simp [ExportResult.ofOutcome, ExportResult.kind, Failure.kind, hcause, Cause.kind]

end

/-! ## Documents from values -/

namespace Gltf

open Json (Value)

/-- The text of an object is no container. -/
lemma split_compact (fs : List (String × Value)) :
    Container.split (utf8 (String.ofList (Value.object fs).compact)) =
      .ok ⟨utf8 (String.ofList (Value.object fs).compact), none⟩ := by
  have hbrace : ∃ cs, (Value.object fs).compact = '{' :: cs := by
    rcases fs with _ | ⟨⟨key, v⟩, fs⟩ <;> exact ⟨_, rfl⟩
  obtain ⟨cs, hcs⟩ := hbrace
  have hbytes : utf8 (String.ofList (Value.object fs).compact) =
      0x7b :: cs.flatMap String.utf8EncodeChar := by
    rw [Text.Utf8.utf8_eq_flatMap, String.toList_ofList, hcs, List.flatMap_cons]
    rfl
  rw [hbytes, Container.split, if_pos]
  simp [Container.magic]

end Gltf

/-- **A value is loaded** from a file with its compact text. -/
lemma Document.load_of_holds {uri : String} {d : Depot} {fs : List (String × Json.Value)}
    {doc : Document}
    (hholds : d.Holds uri (utf8 (String.ofList (Json.Value.object fs).compact)))
    (hcalm : d.world.Calm) (hplain : (Json.Value.object fs).Plain Json.maxDepth)
    (hshape : Gltf.documentShape (.object fs) = true)
    (hbuffers : ((Json.Value.object fs).field "buffers").items = [])
    (hassemble : Gltf.assemble (.object fs) [] = .ok doc) (hvalid : doc.validate = .ok ()) :
    (load uri).run d = (.ok doc, d) := by
  have hread : Gltf.readText (utf8 (String.ofList (Json.Value.object fs).compact)) =
      .ok (.object fs) := by
    simp only [Gltf.readText, Json.parse?_compact hplain, hshape, if_true]
  have hfetch : ∀ dir, (Gltf.fetchBuffers dir none
      ((Json.Value.object fs).field "buffers").items).run d = (.ok [], d) := by
    intro dir
    rw [hbuffers]
    rfl
  rw [load, Job.run_bind_of_ok (Job.run_mapFailure_eq_ok_iff.mpr (hholds.readAll hcalm)),
    Job.run_mapFailure_eq_ok_iff, Gltf.decode,
    Job.run_bind_of_ok (Job.run_ofExcept_eq_ok_iff.mpr ⟨Gltf.split_compact fs, rfl⟩),
    Job.run_bind_of_ok (Job.run_ofExcept_eq_ok_iff.mpr ⟨hread, rfl⟩),
    Job.run_bind_of_ok (hfetch _),
    Job.run_bind_of_ok (Job.run_ofExcept_eq_ok_iff.mpr ⟨hassemble, rfl⟩),
    Job.run_bind_of_ok (Job.run_ofExcept_eq_ok_iff.mpr ⟨hvalid, rfl⟩)]
  rfl

/-- Settings are the defaults if there are no attributes. -/
lemma Job.settingsFor_of_missing {defaults : Settings} {id : AssetId} {d : Depot}
    (hmissing : d.fileExists id.attributes = false) (hvalid : defaults.validate = .ok ()) :
    (settingsFor defaults id).run d = (.ok defaults, d) := by
  rw [settingsFor, run_bind_of_ok (run_look _ d), hmissing]
  simp only [Bool.false_eq_true, if_false]
  rw [run_bind_of_ok (run_ofExcept_eq_ok_iff.mpr ⟨hvalid, rfl⟩)]
  rfl

/-! ## A mesh with a long name -/

namespace Batch

open Json (Value)

/-- A result that is some value. -/
lemma exists_of_isSome {α : Type} {r : Except Failure α} (h : r.toOption.isSome = true) :
    ∃ a, r = .ok a := by
  cases r with
  | error f => cases h
  | ok a => exact ⟨a, rfl⟩

/-- A natural number as a value. -/
def natural (n : Nat) : Value := .number { digits := n }

/-- The value of a mesh with a single vertex. -/
def figure (name : String) : Value :=
  .object [("primitives", .array [.object [("attributes", .object [("POSITION", natural 0)])]]),
    ("name", .text name)]

/-- The fields of a document with a single mesh, which is scaled. -/
def portrait (name : String) : List (String × Value) :=
  [("accessors", .array [.object [("componentType", natural 5126), ("count", natural 1),
      ("type", .text "VEC3")]]),
    ("nodes", .array [.object [("mesh", natural 0),
      ("matrix", .array ([2, 0, 0, 0, 0, 2, 0, 0, 0, 0, 2, 0, 0, 0, 0, 1].map natural))]]),
    ("meshes", .array [figure name])]

/-- The only mesh is found under its name. -/
lemma items_portrait (name : String) :
    ((Value.object (portrait name)).field "meshes").items = [figure name] := by
  simp [Value.field, Value.get?, portrait, Text.equalFold, Value.isNull, Value.items]

/-- The mesh has the name that it is given. -/
lemma textD_figure (name : String) : ((figure name).field "name").textD = name := by
  simp [Value.field, Value.get?, figure, Text.equalFold, Value.isNull, Value.textD]

/-- A portrait is plain if the name is. -/
lemma plain_portrait {name : String} (h : Json.PlainText name) :
    (Value.object (portrait name)).Plain Json.maxDepth := by
  simp only [Json.maxDepth, portrait, figure, natural, Value.Plain, Json.PlainItems,
    Json.PlainFields, List.map, h, and_true, true_and]
  decide

/-- A name of so many characters. -/
def nameOfLength (n : Nat) : String := String.ofList (List.replicate n 'x')

/-- Nothing has to be escaped in such a name. -/
lemma plainText_nameOfLength (n : Nat) : Json.PlainText (nameOfLength n) := by
  intro c hc
  rw [nameOfLength, String.toList_ofList] at hc
  rw [List.eq_of_mem_replicate hc]
  decide

/-- Such a name takes as many bytes as it has characters. -/
lemma length_utf8_nameOfLength (n : Nat) : (utf8 (nameOfLength n)).length = n := by
  have hchar : String.utf8EncodeChar 'x' = [0x78] := by decide
  rw [Text.Utf8.utf8_eq_flatMap, nameOfLength, String.toList_ofList, List.flatMap_replicate, hchar]
  simp

/-- A name that is one byte too long for mesh files. -/
def longName : String := nameOfLength 0x10000

/-- The document that the portrait with the long name describes. -/
def bust : Document := (Gltf.assemble (.object (portrait longName)) []).toOption.getD {}

/-- What is computed of the bust without spelling out its name. -/
lemma computed_bust : Gltf.documentShape (.object (portrait longName)) = true ∧
    ((Value.object (portrait longName)).field "buffers").items.isEmpty = true ∧
    (Gltf.assemble (.object (portrait longName)) []).toOption.isSome = true ∧
    bust.validate.toOption.isSome = true ∧ bust.embeddedCount = 0 ∧ bust.materials.isEmpty = true ∧
    (Stage.merge {} bust {}).1.toOption.map (·.groups.isEmpty) = some false := by
  decide +kernel

/-- The portrait describes it. -/
lemma assemble_portrait : Gltf.assemble (.object (portrait longName)) [] = .ok bust := by
  obtain ⟨-, -, hsome, -⟩ := computed_bust
  obtain ⟨doc, hdoc⟩ := exists_of_isSome hsome
  rw [bust, hdoc]
  rfl

/-- Its mesh has the long name. -/
lemma name_of_mem_bust {shape : Document.Shape} (h : shape ∈ bust.meshes) :
    shape.name = longName := by
  have hnames := Gltf.names_of_assemble assemble_portrait
  rw [items_portrait, List.forall₂_cons_left_iff] at hnames
  obtain ⟨shape', rest, hname, hrest, hmeshes⟩ := hnames
  rw [hmeshes, List.forall₂_nil_left_iff.mp hrest, List.mem_singleton] at h
  rw [h, hname, textD_figure]

/-- It is valid. -/
lemma validate_bust : bust.validate = .ok () := by
  obtain ⟨-, -, -, hsome, -⟩ := computed_bust
  obtain ⟨⟨⟩, hvalid⟩ := exists_of_isSome hsome
  exact hvalid

/-- Its merged mesh has a group. -/
lemma exists_group {m : Mesh} (h : bust.Merges {} m) : ∃ g, g ∈ m.groups := by
  obtain ⟨scene', hmerge⟩ := h {}
  obtain ⟨-, -, -, -, -, -, hgroups⟩ := computed_bust
  rw [hmerge] at hgroups
  cases hm : m.groups with
  | nil => simp [Except.toOption, hm] at hgroups
  | cons g gs => exact ⟨g, List.mem_cons_self⟩

/-- Its merged mesh is too large. -/
lemma not_storable {m : Mesh} (h : bust.Merges {} m) : ¬ m.Storable := by
  intro hstorable
  obtain ⟨g, hg⟩ := exists_group h
  obtain ⟨shape, hshape, hname⟩ :=
    h.exists_shape (Document.validate_eq_ok_iff_wired.mp validate_bust).1 (by rfl) hg
  have hlen := hstorable.names g hg
  rw [hname, name_of_mem_bust hshape, longName, length_utf8_nameOfLength] at hlen
  omega

/-- A depot whose only document has a mesh with a long name. -/
def salon : Depot := exhibit (utf8 (String.ofList (Value.object (portrait longName)).compact))

/-- What is computed of the salon: its source has a place, there are no attributes, and an export is
due. -/
lemma computed_salon : (Assigns.below "").Leads (AssetId.ofPath "a/poster.gltf").source
      ["assets", "a", "poster.gltf"] ∧
    salon.fileExists (AssetId.ofPath "a/poster.gltf").attributes = false ∧
    salon.needsExport "a/poster.gltf" = true := by
  decide +kernel

/-- The document of the salon is loaded. -/
lemma load_salon : (Document.load (AssetId.ofPath "a/poster.gltf").source).run salon =
    (.ok bust, salon) := by
  obtain ⟨⟨path, hpath, hloc⟩, -, -⟩ := computed_salon
  obtain ⟨hshape, hbuffers, -⟩ := computed_bust
  refine Document.load_of_holds ⟨10, ?_⟩ (fun _ _ _ => rfl)
    (plain_portrait (plainText_nameOfLength _)) hshape (List.isEmpty_iff.mp hbuffers)
    assemble_portrait validate_bust
  rw [Depot.stat?_eq_find? hpath hloc]
  rfl

/-- **Trouble with files where there is none**: the files of the salon are as they should be, and
yet the failure of its document is counted as trouble with files, since its mesh has a long name. -/
theorem io_of_longName : salon.world.Calm ∧ salon.FreshScratch ∧ salon.tree.Grounded ∧
    salon.Unobstructed (AssetId.ofPath "a/poster.gltf") ∧
    salon.Oversized {} (AssetId.ofPath "a/poster.gltf") ∧
    ∃ result s' d', ((standard {} {} []).exportFile (History.opened 0) "a/poster.gltf").run salon =
      (.ok (result, s'), d') ∧ result.status = .failed ∧ result.kind = .io := by
  have hwired := (Document.validate_eq_ok_iff_wired.mp validate_bust).1
  obtain ⟨-, -, -, -, himages, hmaterials, -⟩ := computed_bust
  obtain ⟨-, hattributes, hdue⟩ := computed_salon
  obtain ⟨m, hmerges⟩ : ∃ m, bust.Merges {} m := hwired.exists_merges rfl
  have hsettings : (Job.settingsFor {} (AssetId.ofPath "a/poster.gltf")).run salon =
      (.ok {}, salon) := Job.settingsFor_of_missing hattributes rfl
  have hload := congrArg Prod.fst load_salon
  refine ⟨fun _ _ _ => rfl, freshScratch_exhibit, grounded_exhibit, unobstructed_exhibit,
    ⟨{}, bust, m, congrArg Prod.fst hsettings, hload, hmerges, not_storable hmerges⟩, ?_⟩
  obtain ⟨result, s', -, d', hrun, -, -⟩ := exportFile_agree (standard {} {} [])
    (⟨rfl, rfl, rfl, rfl⟩ : Alike (History.opened 0) (History.opened 0)) "a/poster.gltf" salon
  exact ⟨result, s', d', hrun, io_of_oversized rfl (by decide) (Or.inr hdue) rfl hload himages
    (List.isEmpty_iff.mp hmaterials) hmerges (not_storable hmerges) hsettings hrun⟩

end Batch

end SceneForge
