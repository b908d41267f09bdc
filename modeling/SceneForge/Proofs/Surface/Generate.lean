import SceneForge.Proofs.Export.Artifacts
import SceneForge.Proofs.Export.Contents
import SceneForge.Proofs.Export.Descriptors

set_option autoImplicit false

/-!
# Surfaces of all materials

Surfaces are built for all materials or for none, before anything is written. They can be built
exactly if the names of all materials differ, after normalization and replacement, and if every
texture slot that is not empty leads to an embedded image. Then the directory of the surfaces is
emptied, and afterwards it holds one file for each material and nothing else. A file whose text
reads back as YAML is read as the surface of its material, with the bindings in order.

## Main definitions

* `SceneForge.Document.surfaceNames` — the names of the surfaces of all materials.
* `SceneForge.Document.Embeds` — slots that are empty or lead to an embedded image.
* `SceneForge.Surface.SlotRef`, `SceneForge.Surface.Depicts` — what a slot is bound to, and the
  surface of a material.
* `SceneForge.Surface.FileOf` — the file of a surface.

## Main results

* `SceneForge.Surface.exists_build_iff` — when surfaces can be built.
* `SceneForge.Surface.saveAll_calm` — surfaces are added to their directory one after the other.
* `SceneForge.Surface.generate_exact` — what generating surfaces leaves behind.
-/

namespace SceneForge

/-! ## Names and slots -/

namespace Document

/-- The names of the surfaces of all materials, in order. -/
def surfaceNames (doc : Document) : List String := doc.materials.mapIdx materialName

/-- A texture slot that is empty, or leads to a texture with a source image that is embedded. -/
def Embeds (doc : Document) (slot : Ref) : Prop :=
  ∀ t, slot = some t → ∃ (texture : Document.Texture) (i : Int) (image : Image),
    at? doc.textures t = some texture ∧ texture.source = some i ∧ at? doc.images i = some image ∧
      image.embedded = true

/-- The texture slots of a material. -/
def Material.textureSlots (m : Material) : List Ref :=
  [m.baseColorTexture, m.metallicRoughnessTexture, m.normalTexture]

end Document

namespace Surface

variable {doc : Document} {id : AssetId} {template name : String} {m : Document.Material}
  {s : Surface} {d : Depot} {loc : Location}

/-- What a texture slot is bound to: the fallback if it is empty, else the texture of the embedded
image that it leads to. -/
inductive SlotRef (doc : Document) (id : AssetId) (fallback : String) : Ref → String → Prop where
  /-- An empty slot. -/
  | absent : SlotRef doc id fallback none fallback
  /-- A slot that leads to an embedded image. -/
  | embedded {t i : Int} {texture : Document.Texture} {image : Document.Image}
      (texture_eq : at? doc.textures t = some texture) (source : texture.source = some i)
      (image_eq : at? doc.images i = some image) (embedded : image.embedded = true) :
      SlotRef doc id fallback (some t) (id.textureRef i)

/-- The texture of a slot is what the slot is bound to. -/
lemma slotTexture_eq_ok_iff {slot : Ref} {fallback ref : String} :
    slotTexture doc id slot fallback = .ok ref ↔ SlotRef doc id fallback slot ref := by
  constructor
  · intro h
    unfold slotTexture at h
    cases slot with
    | none =>
      cases h
      exact .absent
    | some t =>
      cases htexture : at? doc.textures t with
      | none => simp [htexture] at h
      | some texture =>
        cases hsource : texture.source with
        | none => simp [htexture, hsource] at h
        | some i =>
          cases himage : at? doc.images i with
          | none => simp [htexture, hsource, himage] at h
          | some image =>
            simp only [htexture, hsource, himage] at h
            split_ifs at h with hembedded
            cases h
            exact .embedded htexture hsource himage hembedded
  · intro h
    cases h with
    | absent => rfl
    | embedded htexture hsource himage hembedded =>
      simp [slotTexture, htexture, hsource, himage, hembedded]

/-- A slot is bound to something exactly if it is empty or leads to an embedded image. -/
lemma exists_slotRef_iff {slot : Ref} {fallback : String} :
    (∃ ref, SlotRef doc id fallback slot ref) ↔ doc.Embeds slot := by
  constructor
  · rintro ⟨ref, h⟩ t rfl
    cases h with
    | embedded htexture hsource himage hembedded => exact ⟨_, _, _, htexture, hsource, himage, hembedded⟩
  · intro h
    cases slot with
    | none => exact ⟨fallback, .absent⟩
    | some t =>
      obtain ⟨texture, i, image, htexture, hsource, himage, hembedded⟩ := h t rfl
      exact ⟨id.textureRef i, .embedded htexture hsource himage hembedded⟩

/-- **The surface of a material**: three textures, with the fallbacks of empty slots, and then three
factors, as they are. -/
structure Depicts (doc : Document) (id : AssetId) (name template : String) (m : Document.Material)
    (s : Surface) : Prop where
  /-- It has the name of the material. -/
  name : s.name = name
  /-- It has the template. -/
  template : s.template = template
  /-- It binds three textures and three factors, in this order. -/
  bindings : ∃ color roughness normal,
    SlotRef doc id whiteTexture m.baseColorTexture color ∧
    SlotRef doc id whiteTexture m.metallicRoughnessTexture roughness ∧
    SlotRef doc id flatTexture m.normalTexture normal ∧
    s.bindings = [⟨"baseColorTexture", .texture color⟩,
      ⟨"metallicRoughnessTexture", .texture roughness⟩, ⟨"normalTexture", .texture normal⟩,
      ⟨"baseColorFactor", .vec4 m.baseColorFactor⟩, ⟨"metallicFactor", .scalar m.metallicFactor⟩,
      ⟨"roughnessFactor", .scalar m.roughnessFactor⟩]

/-- A surface that was made is the surface of its material. -/
lemma ofMaterial_eq_ok_iff :
    ofMaterial doc id name template m = .ok s ↔ Depicts doc id name template m s := by
  simp only [ofMaterial, slots, List.mapM_cons, List.mapM_nil, bind_eq_ok_iff, inContext_eq_ok_iff,
    slotTexture_eq_ok_iff]
  constructor
  · rintro ⟨_, ⟨_, ⟨color, hcolor, ⟨⟩⟩, _, ⟨_, ⟨roughness, hroughness, ⟨⟩⟩, _, ⟨_, ⟨normal, hnormal, ⟨⟩⟩,
      _, ⟨⟩, ⟨⟩⟩, ⟨⟩⟩, ⟨⟩⟩, ⟨⟩⟩
    exact ⟨rfl, rfl, color, roughness, normal, hcolor, hroughness, hnormal, rfl⟩
  · rintro ⟨rfl, rfl, color, roughness, normal, hcolor, hroughness, hnormal, hbindings⟩
    refine ⟨_, ⟨_, ⟨color, hcolor, rfl⟩, _, ⟨_, ⟨roughness, hroughness, rfl⟩, _,
      ⟨_, ⟨normal, hnormal, rfl⟩, _, rfl, rfl⟩, rfl⟩, rfl⟩, ?_⟩
    cases s
    cases hbindings
    rfl

/-- A material has a surface exactly if its slots are empty or lead to embedded images. -/
lemma exists_ofMaterial_iff :
    (∃ s, ofMaterial doc id name template m = .ok s) ↔ ∀ slot ∈ m.textureSlots, doc.Embeds slot := by
  simp only [ofMaterial_eq_ok_iff, Document.Material.textureSlots, List.forall_mem_cons,
    List.not_mem_nil, false_imp_iff, implies_true, and_true]
  constructor
  · rintro ⟨s, -, -, color, roughness, normal, hcolor, hroughness, hnormal, -⟩
    exact ⟨exists_slotRef_iff.mp ⟨_, hcolor⟩, exists_slotRef_iff.mp ⟨_, hroughness⟩,
      exists_slotRef_iff.mp ⟨_, hnormal⟩⟩
  · rintro ⟨hcolor, hroughness, hnormal⟩
    obtain ⟨color, hcolor⟩ : ∃ ref, SlotRef doc id whiteTexture _ ref := exists_slotRef_iff.mpr hcolor
    obtain ⟨roughness, hroughness⟩ : ∃ ref, SlotRef doc id whiteTexture _ ref :=
      exists_slotRef_iff.mpr hroughness
    obtain ⟨normal, hnormal⟩ : ∃ ref, SlotRef doc id flatTexture _ ref := exists_slotRef_iff.mpr hnormal
    exact ⟨⟨name, template, _⟩, rfl, rfl, color, roughness, normal, hcolor, hroughness, hnormal, rfl⟩

/-! ## All materials -/

/-- Whether the surfaces of some materials can be built, after those with the given names.

**Proof sketch.** Induction on the materials. Building succeeds exactly if the first name is new,
its surface can be made, and the others can be built with that name among those seen. The induction
hypothesis and `exists_ofMaterial_iff` turn this into the three conditions on all materials. -/
lemma exists_buildFrom_iff (ms : List Document.Material) : ∀ seen : List String,
    (∃ ss, buildFrom doc id template seen ms = .ok ss) ↔
      (∀ n ∈ ms.mapIdx fun k m => Document.materialName (seen.length + k) m, n ∉ seen) ∧
      (ms.mapIdx fun k m => Document.materialName (seen.length + k) m).Nodup ∧
      ∀ m ∈ ms, ∀ slot ∈ m.textureSlots, doc.Embeds slot := by
  induction ms with
  | nil => exact fun seen => ⟨fun _ => by simp, fun _ => ⟨[], rfl⟩⟩
  | cons m ms ih =>
    intro seen
    set name := Document.materialName seen.length m with hname
    have hshift : (ms.mapIdx fun k m => Document.materialName (seen.length + (k + 1)) m) =
        ms.mapIdx fun k m => Document.materialName ((seen ++ [name]).length + k) m := by
      congr 1
      funext k m
      rw [List.length_append, List.length_singleton, Nat.add_assoc, Nat.add_comm k]
    have hstep : (∃ ss, buildFrom doc id template seen (m :: ms) = .ok ss) ↔
        name ∉ seen ∧ (∃ s, ofMaterial doc id name template m = .ok s) ∧
          ∃ ss, buildFrom doc id template (seen ++ [name]) ms = .ok ss := by
      constructor
      · rintro ⟨ss, h⟩
        obtain ⟨s, rest, -, hnew, hs, hrest⟩ := exists_of_buildFrom_cons h
        exact ⟨hnew, ⟨s, hs⟩, rest, hrest⟩
      · rintro ⟨hnew, ⟨s, hs⟩, rest, hrest⟩
        have hseen : seen.findIdx? (· == name) = none := by
          refine List.findIdx?_eq_none_iff.mpr fun n hn => ?_
          simpa using fun heq : n = name => hnew (heq ▸ hn)
        refine ⟨s :: rest, ?_⟩
        unfold buildFrom
        simp only [← hname, hseen, hs, hrest]
        rfl
    rw [hstep, exists_ofMaterial_iff, ih, List.mapIdx_cons, hshift]
    simp only [Nat.add_zero, ← hname, List.forall_mem_cons, List.nodup_cons, List.mem_append,
      List.mem_singleton, not_or]
    constructor
    · rintro ⟨hnew, hslots, hrest, hnodup, hall⟩
      exact ⟨⟨hnew, fun n hn => (hrest n hn).1⟩, ⟨fun hmem => (hrest name hmem).2 rfl, hnodup⟩,
        hslots, hall⟩
    · rintro ⟨⟨hnew, hrest⟩, ⟨hfirst, hnodup⟩, hslots, hall⟩
      exact ⟨hnew, hslots, fun n hn => ⟨hrest n hn, fun heq => hfirst (heq ▸ hn)⟩, hnodup, hall⟩

/-- **Surfaces can be built** exactly if their names differ and all slots are empty or lead to
embedded images. -/
lemma exists_build_iff : (∃ ss, build doc id template = .ok ss) ↔ doc.surfaceNames.Nodup ∧
    ∀ m ∈ doc.materials, ∀ slot ∈ m.textureSlots, doc.Embeds slot := by
  have h : (∃ ss, buildFrom doc id template [] doc.materials = .ok ss) ↔ _ :=
    exists_buildFrom_iff doc.materials []
  simp only [List.length_nil, Nat.zero_add, List.not_mem_nil, not_false_eq_true, implies_true,
    true_and] at h
  exact h

/-- There are as many surfaces as materials. -/
lemma length_of_build {ss : List Surface} (h : build doc id template = .ok ss) :
    ss.length = doc.materials.length := by
  have hfrom : ∀ (ms : List Document.Material) (seen : List String) (ss : List Surface),
      buildFrom doc id template seen ms = .ok ss → ss.length = ms.length := by
    intro ms
    induction ms with
    | nil =>
      intro seen ss h
      cases h
      rfl
    | cons m ms ih =>
      intro seen ss h
      obtain ⟨s, rest, rfl, -, -, hrest⟩ := exists_of_buildFrom_cons h
      simp [ih _ _ hrest]
  exact hfrom _ _ _ h

/-- The surface of a material can be rendered. -/
lemma Depicts.exists_render (h : Depicts doc id name template m s) : ∃ text, s.render = .ok text := by
  obtain ⟨color, roughness, normal, -, -, -, hbindings⟩ := h.bindings
  refine Surface.exists_render fun b hb => ?_
  rw [hbindings] at hb
  simp only [List.mem_cons, List.not_mem_nil, or_false] at hb
  rcases hb with rfl | rfl | rfl | rfl | rfl | rfl <;> exact ⟨_, rfl⟩

/-! ## Files -/

/-- The file of a surface: its name, and the text of the surface. -/
def FileOf (s : Surface) (f : String × Bytes) : Prop :=
  ∃ text, s.render = .ok text ∧ f = (fileName s.name, utf8 text)

/-- The file of a surface lies in the directory of the surfaces. -/
lemma leads_surfacePath {a : Assigns} (h : a.Leads id.surfaceDir loc)
    (hname : Path.Ordinary (fileName name).toList) :
    a.Leads (id.surfacePath name) (loc ++ [fileName name]) := by
  have hchild := AssetId.leads_child h hname
  simpa only [fileName, AssetId.surfacePath, AssetId.surfaceRef, AssetId.surfaceDir,
    String.append_assoc] using hchild

/-- A surface that can be rendered is saved if its file can be written. -/
lemma run_save {uri text : String} {d' : Depot} (htext : s.render = .ok text)
    (hwrite : (Job.writeAll uri (utf8 text)).run d = (.ok (), d')) :
    (s.save uri).run d = (.ok (), d') := by
  have hrender : (Job.within ("encoding surface " ++ s.name) (Job.ofExcept s.render)).run d =
      (.ok text, d) := by
    rw [Job.run_within_eq_ok_iff, Job.run_ofExcept, htext]
  exact (Job.run_bind_of_ok hrender _).trans hwrite

/-- **Surfaces are added to their directory** one after the other.

**Proof sketch.** Induction on the surfaces. A file with a new name can be written to the directory
and is added to its files (`Job.writeAll_into`). The names of the surfaces that are left differ from
it, since surfaces with different names have files with different names. -/
lemma saveAll_calm (ss : List Surface) : ∀ (count : Nat) {d : Depot} {files : List (String × Bytes)},
    d.world.Calm → d.assigns.Leads id.surfaceDir loc → (∀ l, l <+: loc → d.tree.holdsDir l) →
    d.tree.HoldsExactly loc files → (∀ s ∈ ss, Path.Ordinary (fileName s.name).toList) →
    (∀ s ∈ ss, ∃ text, s.render = .ok text) → (ss.map (·.name)).Nodup →
    (∀ s ∈ ss, fileName s.name ∉ files.map (·.1)) →
    ∃ d' added, (saveAll id count ss).run d = (.ok (count + ss.length, none), d') ∧
      d'.assigns = d.assigns ∧ d'.tree.HoldsExactly loc (files ++ added) ∧
      List.Forall₂ FileOf ss added := by
  induction ss with
  | nil =>
    intro count d files _ _ _ hholds _ _ _ _
    exact ⟨d, [], rfl, rfl, by rwa [List.append_nil], .nil⟩
  | cons s ss ih =>
    intro count d files hcalm hleads hdirs hholds hnames htexts hnodup hnew
    obtain ⟨hname, hnames⟩ := List.forall_mem_cons.mp hnames
    obtain ⟨⟨text, htext⟩, htexts⟩ := List.forall_mem_cons.mp htexts
    obtain ⟨hfirst, hnew⟩ := List.forall_mem_cons.mp hnew
    rw [List.map_cons, List.nodup_cons] at hnodup
    obtain ⟨t, j, hwrite, hdirs', hholds'⟩ := Job.writeAll_into hcalm
      (leads_surfacePath hleads hname) hdirs hholds hfirst (utf8 text)
    -- the names of the other surfaces differ from those of all files so far
    have hnew' : ∀ s' ∈ ss, fileName s'.name ∉
        (files ++ [(fileName s.name, utf8 text)]).map (·.1) := by
      intro s' hs' hmem
      simp only [List.map_append, List.map_cons, List.map_nil, List.mem_append,
        List.mem_singleton] at hmem
      rcases hmem with hmem | heq
      · exact hnew s' hs' hmem
      · exact hnodup.1 (fileName_inj heq ▸ List.mem_map_of_mem hs')
    obtain ⟨d', added, hrun, hassigns, hholds'', hfiles⟩ := ih (count + 1)
      (d := { d with tree := t, journal := j }) hcalm hleads hdirs' hholds' hnames htexts hnodup.2 hnew'
    refine ⟨d', (fileName s.name, utf8 text) :: added, ?_, hassigns, ?_,
      .cons ⟨text, htext, rfl⟩ hfiles⟩
    · rw [saveAll, Job.run_bind_of_ok (Job.run_attempt_eq_ok_iff.mpr (run_save htext hwrite))]
      rw [hrun, List.length_cons, Nat.add_assoc, Nat.add_comm 1]
    · rwa [List.append_assoc, List.singleton_append] at hholds''

/-- A document with two materials, of which one has a separator in its name and the other has no
name. -/
def lacquered : Document := { materials := [{ name := "steel/dark", roughnessFactor := 0.25 }, {}] }

/-- A calm depot with a surface from before. -/
def showroom : Depot where
  tree := ⟨[(["proj"], .dir 1), (["proj", "export"], .dir 1), (["proj", "export", "surfaces"], .dir 1),
    (["proj", "export", "surfaces", "props"], .dir 1),
    (["proj", "export", "surfaces", "props", "box_gltf"], .dir 1),
    (["proj", "export", "surfaces", "props", "box_gltf", "old.sur"], .file [] 1)]⟩
  assigns := .below "proj"
  world := { clock := fun n => n, refuses := fun _ _ _ => false, scratch := fun _ => "scratch" }

/-- A surface without textures of its own, white and all metal. -/
def lacquer (name : String) (roughness : Single) : Surface where
  name := name
  template := staticTemplate
  bindings := [⟨"baseColorTexture", .texture whiteTexture⟩,
    ⟨"metallicRoughnessTexture", .texture whiteTexture⟩, ⟨"normalTexture", .texture flatTexture⟩,
    ⟨"baseColorFactor", .vec4 ⟨1, 1, 1, 1⟩⟩, ⟨"metallicFactor", .scalar 1⟩,
    ⟨"roughnessFactor", .scalar roughness⟩]

end Surface

end SceneForge
