import SceneForge.Proofs.Texture.Workspaces

set_option autoImplicit false

/-!
# Textures of all embedded images

Extracting the textures of a document empties their directory and fills it again, one texture for
every embedded image. If it succeeds, nothing was in the way, so afterwards the directory holds
exactly these textures: each has the number of its image, an extension that is told by the bytes of
the image, and the bytes themselves if they are a texture already. Workspaces are gone, also if it
fails.

## Main definitions

* `SceneForge.Texture.textureExt` — the extension of the texture of an image.
* `SceneForge.Texture.PassesThrough` — pictures that are textures already.
* `SceneForge.Texture.TextureOf` — the texture of an image.

## Main results

* `SceneForge.Texture.exists_of_extractImage` — how an image becomes a texture.
* `SceneForge.Texture.extractAll_exact` — textures are added to their directory one after the other.
* `SceneForge.Texture.extract_exact` — what extracting textures leaves behind.
-/

namespace SceneForge

open Depot (Keeps)
open Job (Steps)

namespace Texture

/-! ## Formats -/

section Formats

variable (c : Codecs)

/-- The extension of the texture of an image: that of JPEG if its bytes tell so, or if they tell
nothing and JPEG is declared. -/
def textureExt (type : ImageType) (data : Bytes) : String :=
  if c.recognize data = some "jpg" ∨ c.recognize data = none ∧ type = .jpg then "jpg" else "png"

/-- A picture that is a texture already: a PNG or JPEG file whose longer side is within the limit.
-/
def PassesThrough (t : Tools) (data : Bytes) : Prop :=
  ∃ format image, t.codecs.recognize data = some format ∧ (format = "png" ∨ format = "jpg") ∧
    t.codecs.read data = .ok image ∧ (t.limits.maxSize ≤ 0 ∨
      ((max (t.codecs.width image) (t.codecs.height image) : Nat) : Int) ≤ t.limits.maxSize)

/-- **The texture of an image**, made from its data: it is numbered like the image, has the
extension that the data tells, and is the data itself if that is a texture already. -/
structure TextureOf (t : Tools) (doc : Document) (p : Document.Image × Nat) (data : Bytes)
    (f : String × Bytes) : Prop where
  /-- The data is that of the image. -/
  imageData : doc.imageData p.2 = .ok data
  /-- The name is the number of the image, with an extension. -/
  name : f.1 = toString p.2 ++ "." ++ textureExt t.codecs p.1.type data
  /-- The texture is made from the data. -/
  encoded : encode t ((t.codecs.recognize data).getD p.1.type.ext) data = .ok f.2
  /-- Data that is a texture already is passed through. -/
  passed : PassesThrough t data → f.2 = data

variable {c} {type : ImageType} {data : Bytes}

/-- The format of the picture of an image: that of its bytes, or the one that is declared. -/
lemma formatOf_picture (ws : String) (i : Nat) (type : ImageType) (data : Bytes) :
    formatOf c (ws ++ "/" ++ toString i ++ "." ++ type.ext) data =
      (c.recognize data).getD type.ext := by
  obtain ⟨hslash, -, hdot⟩ := noSeparator_of_mem_extensions (ext_mem type)
  have hext : Path.ext (ws ++ "/" ++ toString i ++ "." ++ type.ext) = "." ++ type.ext := by
    rw [Path.ext, Path.toList_file, Path.extChars_file _ _ _ (by simp [notMem_toDigits]) ⟨hslash, hdot⟩,
      ← String.toList_inj]
    simp
  unfold formatOf
  cases c.recognize data with
  | some format => rfl
  | none =>
    rw [hext]
    cases type <;> decide +kernel

/-- The extension of the texture of an image. -/
lemma extensionFor_recognize :
    extensionFor ((c.recognize data).getD type.ext) = textureExt c type data := by
  unfold extensionFor textureExt
  cases c.recognize data with
  | some format => simp
  | none => cases type <;> decide

/-- A texture has one of two extensions. -/
lemma textureExt_mem : textureExt c type data ∈ extensions := by
  rw [← extensionFor_recognize]
  exact extensionFor_mem _

/-- **A picture that is a texture already** stays as it is. -/
lemma encode_of_passesThrough {t : Tools} (h : PassesThrough t data) (ext : String) :
    encode t ((t.codecs.recognize data).getD ext) data = .ok data := by
  obtain ⟨format, image, hformat, htexture, hread, hsize⟩ := h
  have hfits : Picture.fitted t.limits.maxSize (t.codecs.width image) (t.codecs.height image) =
      none := by
    simpa [Picture.fitted, or_iff_not_imp_left] using hsize
  have hkept : isTextureFormat format = true ∧ (format == "tga") = false := by
    rcases htexture with rfl | rfl <;> exact ⟨rfl, rfl⟩
  have hdecode : decode t.codecs format data = .ok image := by
    rw [decode, hkept.2, hread]
    rfl
  rw [hformat, Option.getD_some, encode, bind_eq_ok_iff]
  refine ⟨image, hdecode, ?_⟩
  rw [hfits, hkept.1]
  rfl

end Formats

variable {t : Tools} {doc : Document} {root dir : String} {i : Nat} {type : ImageType} {data : Bytes}
  {d d' : Depot} {loc : Location} {files : List (String × Bytes)}

/-! ## One image -/

/-- **How an image became a texture**: its picture was written to the workspace and read again, a
texture was made from it and written there, and that was written to the directory of textures. -/
lemma exists_of_convertIn {ws : String} (hws : Anchored ws) (hcalm : d.world.Calm)
    (h : (convertIn (convert t) i type data ws dir).run d = (.ok (), d')) :
    ∃ texture d₁, encode t ((t.codecs.recognize data).getD type.ext) data = .ok texture ∧
      Keeps { scratch := [ws] } d d₁ ∧
      (Job.writeAll (dir ++ "/" ++ fileName i (textureExt t.codecs type data)) texture).run d₁ =
        (.ok (), d') := by
  have hmem : ws ∈ ({ scratch := [ws] } : Zone).scratch := List.mem_singleton_self ws
  obtain ⟨_, d₁, hmkdir, h⟩ := Job.exists_of_bind_run h
  rw [Job.run_mapFailure_eq_ok_iff] at hmkdir
  have hmade := (Job.createDirectory_keeps (Or.inr hmem)).of_run hmkdir
  obtain ⟨_, d₂, hpicture, h⟩ := Job.exists_of_bind_run h
  have hwritten := hmade.trans ((writePicture_keeps hws hmem i type data).of_run hpicture)
  rw [Job.run_mapFailure_eq_ok_iff, convert, Job.run_mapFailure_eq_ok_iff] at h
  rw [Job.run_bind_of_ok ((Depot.holds_of_writeAll hpicture).readAll (hwritten.world ▸ hcalm))] at h
  simp only [formatOf_picture, extensionFor_recognize, stem_picture] at h
  obtain ⟨texture, d₃, htexture, h⟩ := Job.exists_of_bind_run h
  obtain ⟨hencode, rfl⟩ := Job.run_ofExcept_eq_ok_iff.mp htexture
  obtain ⟨_, d₃, hscratch, h⟩ := Job.exists_of_bind_run h
  have hname := ordinary_scratch i (textureExt_mem : textureExt t.codecs type data ∈ extensions)
  have hall := hwritten.trans ((hws.writeAll_keeps (Or.inr hmem) hname
    (by simp only [String.append_assoc]) texture).of_run hscratch)
  rw [Job.run_bind_of_ok ((Depot.holds_of_writeAll hscratch).readAll (hall.world ▸ hcalm))] at h
  refine ⟨texture, d₃, hencode, hall, ?_⟩
  rwa [fileName, ← String.append_assoc, ← String.append_assoc]

/-- **How an image was extracted**: what happened before and after its texture was written kept to a
workspace. -/
lemma exists_of_extractImage (hcalm : d.world.Calm) (hscratch : d.world.ScratchOrdinary)
    (h : (extractImage (convert t) doc dir i type).run d = (.ok (), d')) :
    ∃ name data texture d₁ d₂, Path.Ordinary name.toList ∧ doc.imageData i = .ok data ∧
      encode t ((t.codecs.recognize data).getD type.ext) data = .ok texture ∧
      Keeps { scratch := [workspaceRoot ++ "/" ++ name] } d d₁ ∧
      (Job.writeAll (dir ++ "/" ++ fileName i (textureExt t.codecs type data)) texture).run d₁ =
        (.ok (), d₂) ∧
      Keeps { scratch := [workspaceRoot ++ "/" ++ name] } d₂ d' := by
  obtain ⟨data, d₁, hread, h⟩ := Job.exists_of_bind_run h
  obtain ⟨hdata, rfl⟩ := Job.run_ofExcept_eq_ok_iff.mp hread
  obtain ⟨name, taken, hname, h⟩ := Job.exists_of_bind_run h
  cases hname
  rw [Job.run_thenAlways_eq_ok_iff] at h
  obtain ⟨d₂, hconvert, rfl⟩ := h
  have hws := anchored_workspace (hscratch d.scratchUsed)
  obtain ⟨texture, d₁, hencode, hkeeps, hwrite⟩ :=
    exists_of_convertIn (d := { d with scratchUsed := d.scratchUsed + 1 }) hws hcalm hconvert
  refine ⟨_, data, texture, d₁, d₂, hscratch d.scratchUsed, ?_, hencode, ?_, hwrite, ?_⟩
  · cases hd : doc.imageData i with
    | error f =>
      rw [hd] at hdata
      cases hdata
    | ok bytes =>
      rw [hd] at hdata
      exact hdata
  · have htaken : Keeps { scratch := [workspaceRoot ++ "/" ++ d.world.scratch d.scratchUsed] } d
        { d with scratchUsed := d.scratchUsed + 1 } :=
      Depot.Lawful.quiet rfl rfl rfl rfl (Nat.le_succ _) rfl
    exact htaken.trans hkeeps
  · exact (Job.deleteDirectory_keeps (List.mem_singleton_self _)).orWarn _ d₂

/-- An image that was extracted had no file on the way to the directory of textures. -/
lemma clear_of_extractImage (hhome : Home dir) (hroot : d.assigns = .below root) (hcalm : d.world.Calm)
    (hscratch : d.world.ScratchOrdinary)
    (h : (extractImage (convert t) doc dir i type).run d = (.ok (), d')) :
    ∃ loc, d.assigns.Leads dir loc ∧ ∀ l, l <+: loc → ¬ d.tree.holdsFile l := by
  obtain ⟨name, data, texture, d₁, d₂, hname, -, -, hkeeps, hwrite, -⟩ :=
    exists_of_extractImage hcalm hscratch h
  obtain ⟨_, hfile, hfree⟩ := Job.clear_of_writeAll hwrite
  obtain ⟨loc, hleads, rfl⟩ := hhome.anchored _ _ _ (ordinary_fileName i textureExt_mem) hfile
  rw [List.dropLast_concat] at hfree
  rw [hkeeps.assigns] at hleads
  have hmiss := misses_home hhome (hroot ▸ hleads) hname
  refine ⟨loc, hleads, fun l' hle hfile => hfree l' hle ?_⟩
  obtain ⟨bytes, time, hfile⟩ := Tree.holdsFile_iff.mp hfile
  refine Tree.holdsFile_iff.mpr ⟨bytes, time, ?_⟩
  rw [hkeeps.find?_eq_of_clear (hroot ▸ hmiss.clear_above hle) (by rw [hfile]; rfl), hfile]

/-- **An image that was extracted** has added its texture to the directory. -/
lemma extractImage_exact {image : Document.Image} (hhome : Home dir) (hroot : d.assigns = .below root)
    (hcalm : d.world.Calm) (hscratch : d.world.ScratchOrdinary) (hleads : d.assigns.Leads dir loc)
    (hholds : d.tree.HoldsExactly loc files)
    (hnew : ∀ ext ∈ extensions, fileName i ext ∉ files.map (·.1))
    (h : (extractImage (convert t) doc dir i image.type).run d = (.ok (), d')) :
    ∃ data f, TextureOf t doc (image, i) data f ∧ d'.tree.HoldsExactly loc (files ++ [f]) := by
  obtain ⟨name, data, texture, d₁, d₂, hname, hdata, hencode, hbefore, hwrite, hafter⟩ :=
    exists_of_extractImage hcalm hscratch h
  have hmiss := misses_home hhome (hroot ▸ hleads) hname
  have hfirst := hholds.of_keeps hbefore (hroot ▸ hmiss)
  have hplace : d₁.assigns.Leads (dir ++ "/" ++ fileName i (textureExt t.codecs image.type data))
      (loc ++ [fileName i (textureExt t.codecs image.type data)]) := by
    rw [hbefore.assigns]
    exact hhome.leads_child hleads (ordinary_fileName i textureExt_mem)
  have hsecond := hfirst.writeAll (hnew _ textureExt_mem) hplace hwrite
  have hassigns : d₂.assigns = .below root := by
    rw [((Job.writeAll_evolves (S := fun _ => True) trivial).of_run hwrite).assigns, hbefore.assigns,
      hroot]
  refine ⟨data, (fileName i (textureExt t.codecs image.type data), texture), ⟨hdata, rfl, hencode, ?_⟩,
    hsecond.of_keeps hafter (hassigns ▸ hmiss)⟩
  intro hpass
  rw [encode_of_passesThrough hpass] at hencode
  exact (Except.ok.inj hencode).symm

/-! ## All images -/

/-- If images were extracted, no file was on the way to the directory of textures. -/
lemma clear_of_extractAll (hhome : Home dir) (hroot : d.assigns = .below root) (hcalm : d.world.Calm)
    (hscratch : d.world.ScratchOrdinary) (images : List (Document.Image × Nat)) :
    ∀ {count n : Nat}, (∃ p ∈ images, p.1.embedded = true) →
      (extractAll (convert t) doc dir count images).run d = (.ok (n, none), d') →
      ∃ loc, d.assigns.Leads dir loc ∧ ∀ l, l <+: loc → ¬ d.tree.holdsFile l := by
  induction images with
  | nil => simp
  | cons p images ih =>
    intro count n hsome h
    obtain ⟨image, i⟩ := p
    unfold extractAll at h
    split_ifs at h with hembedded
    · have hexternal : image.embedded = false := by simpa using hembedded
      exact ih (by simpa [hexternal] using hsome) h
    · obtain ⟨r, d₁, hr, h⟩ := Job.exists_of_bind_run h
      rw [Job.run_attempt_eq_ok_iff] at hr
      cases r with
      | error f => cases h
      | ok _ => exact clear_of_extractImage hhome hroot hcalm hscratch hr

/-- **Textures are added to their directory** one after the other: those of later images have other
numbers.

**Proof sketch.** Induction on the images. An image outside of the document is passed over. An
embedded one adds a file whose name has its number (`extractImage_exact`); the numbers of the later
images differ, so their names are still new, and the induction hypothesis applies to the depot and
to the list with the file added. -/
lemma extractAll_exact (hhome : Home dir) (images : List (Document.Image × Nat)) :
    ∀ {d : Depot} {files : List (String × Bytes)} {count n : Nat}, d.assigns = .below root →
      d.world.Calm → d.world.ScratchOrdinary → d.assigns.Leads dir loc →
      d.tree.HoldsExactly loc files → (images.map (·.2)).Nodup →
      (∀ p ∈ images, ∀ ext ∈ extensions, fileName p.2 ext ∉ files.map (·.1)) →
      (extractAll (convert t) doc dir count images).run d = (.ok (n, none), d') →
      n = count + (images.filter (·.1.embedded)).length ∧
        ∃ added, d'.tree.HoldsExactly loc (files ++ added) ∧
          List.Forall₂ (fun p f => ∃ data, TextureOf t doc p data f)
            (images.filter (·.1.embedded)) added := by
  induction images with
  | nil =>
    intro d files count n _ _ _ _ hholds _ _ h
    cases h
    exact ⟨rfl, [], by rwa [List.append_nil], .nil⟩
  | cons p images ih =>
    intro d files count n hroot hcalm hscratch hleads hholds hnodup hnew h
    obtain ⟨image, i⟩ := p
    rw [List.map_cons, List.nodup_cons] at hnodup
    obtain ⟨hfirst, hnew⟩ := List.forall_mem_cons.mp hnew
    unfold extractAll at h
    split_ifs at h with hembedded
    · have hexternal : image.embedded = false := by simpa using hembedded
      rw [List.filter_cons_of_neg (by simp [hexternal])]
      exact ih hroot hcalm hscratch hleads hholds hnodup.2 hnew h
    have hinside : image.embedded = true := by simpa using hembedded
    obtain ⟨r, d₁, hr, h⟩ := Job.exists_of_bind_run h
    rw [Job.run_attempt_eq_ok_iff] at hr
    cases r with
    | error f => cases h
    | ok _ =>
      have hstep := (extractImage_evolves (convert_evolves t) doc dir i image.type).of_run hr
      obtain ⟨data, f, htexture, hholds₁⟩ :=
        extractImage_exact hhome hroot hcalm hscratch hleads hholds hfirst hr
      have hnew' : ∀ p ∈ images, ∀ ext ∈ extensions,
          fileName p.2 ext ∉ (files ++ [f]).map (·.1) := by
        intro p hp ext hext hmem
        simp only [List.map_append, List.map_cons, List.map_nil, List.mem_append,
          List.mem_singleton] at hmem
        rcases hmem with hmem | heq
        · exact hnew p hp ext hext hmem
        · rw [htexture.name] at heq
          exact hnodup.1 (fileName_inj heq ▸ List.mem_map_of_mem hp)
      obtain ⟨hn, added, hholds', hadded⟩ := ih (hstep.assigns.trans hroot) (hstep.world ▸ hcalm)
        (hstep.world ▸ hscratch) (hstep.assigns ▸ hleads) hholds₁ hnodup.2 hnew' h
      rw [List.filter_cons_of_pos (by simp [hinside])]
      refine ⟨by rw [hn, List.length_cons, Nat.add_assoc, Nat.add_comm 1], f :: added, ?_,
        .cons ⟨data, htexture⟩ hadded⟩
      rwa [List.append_assoc, List.singleton_append] at hholds'

/-- A directory of textures that was purged is not there. -/
lemma directoryExists_of_purge (hhome : Home dir) (hroot : d.assigns = .below root)
    (hcalm : d.world.Calm) (hground : d.tree.Grounded) {warning : String}
    (h : (Job.purgeDirectory dir warning).run d = (.ok (), d')) : d'.directoryExists dir = false := by
  cases hthere : d.directoryExists dir with
  | false =>
    rw [Job.purgeDirectory, Job.run_bind_of_ok (Job.run_look _ d), hthere] at h
    cases h
    exact hthere
  | true =>
    obtain ⟨e, hstat, hdir⟩ : ∃ e, d.stat? dir = some e ∧ e.isDir = true := by
      unfold Depot.directoryExists at hthere
      cases hstat : d.stat? dir with
      | none => simp [hstat] at hthere
      | some e => exact ⟨e, rfl, by simpa [hstat] using hthere⟩
    obtain ⟨path, loc, hpath, hloc, hfind⟩ := Depot.exists_of_stat?_eq_some hstat
    have hfree : ¬ d.tree.holdsFile loc := by
      intro hfile
      obtain ⟨bytes, time, hfile⟩ := Tree.holdsFile_iff.mp hfile
      cases hfind.symm.trans hfile
      cases hdir
    obtain ⟨t, j, hrun, hgone⟩ :=
      Job.purgeDirectory_calm hcalm hground ⟨path, hpath, hloc⟩ hfree warning
    rw [h] at hrun
    obtain ⟨-, rfl⟩ := Prod.mk.inj hrun
    have hne : loc ≠ [] := by
      obtain ⟨top, hexport, -, -⟩ := exists_places root
      have hbranch := hexport dir loc hhome (hroot ▸ ⟨path, hpath, hloc⟩)
      rintro rfl
      simp at hbranch
    have hstat' := Depot.stat?_eq_find? (d := { d with tree := t, journal := j }) hpath hloc
    rw [Depot.directoryExists, hstat', hgone, if_pos ⟨List.prefix_refl loc, hne⟩]

/-- As many images are embedded with their numbers as without. -/
lemma length_filter_zipIdx (images : List Document.Image) :
    (images.zipIdx.filter (·.1.embedded)).length = (images.filter (·.embedded)).length := by
  conv_rhs => rw [← List.zipIdx_map_fst 0 images, List.filter_map, List.length_map]
  rfl

/-- What keeps to the directory of textures removes no file on the way to it. -/
lemma clear_of_keeps (h : Keeps { renewed := [dir] } d d') (hleads : d.assigns.Leads dir loc)
    (hfree : ∀ l, l <+: loc → ¬ d'.tree.holdsFile l) : ∀ l, l <+: loc → ¬ d.tree.holdsFile l := by
  intro l hle hfile
  obtain ⟨bytes, time, hfile⟩ := Tree.holdsFile_iff.mp hfile
  refine hfree l hle (Tree.holdsFile_iff.mpr ⟨bytes, time, h.unremoved l ?_ ?_ bytes time hfile⟩)
  · rintro (⟨hmem, hl, hbelow, hne⟩ | ⟨hmem, -⟩)
    · obtain rfl : _ = dir := by simpa using hmem
      rw [hl.unique hleads] at hbelow hne
      exact hne (hle.eq_of_length_le hbelow.length_le)
    · cases hmem
  · rintro ⟨uri, hmem, -⟩
    cases hmem

/-- **Textures that were extracted**: the directory holds them and nothing else.

**Proof sketch.** That the images were extracted shows that no file is on the way to the directory
(`clear_of_extractAll`), and what came before did not change that. So the directory was emptied and
then made, and from the empty list on the images add their files (`extractAll_exact`). Positions of
images are distinct. -/
lemma holdsExactly_of_extract {n : Nat} (hhome : Home dir) (hroot : d.assigns = .below root)
    (hcalm : d.world.Calm) (hground : d.tree.Grounded) (hscratch : d.world.ScratchOrdinary)
    (hsome : doc.embeddedCount ≠ 0)
    (h : (extract (convert t) doc dir).run d = (.ok (n, none), d')) :
    n = doc.embeddedCount ∧ ∃ loc files, d.assigns.Leads dir loc ∧ d'.tree.HoldsExactly loc files ∧
      List.Forall₂ (fun p f => ∃ data, TextureOf t doc p data f)
        (doc.images.zipIdx.filter (·.1.embedded)) files := by
  obtain ⟨_, d₁, hpurge, h⟩ := Job.exists_of_bind_run h
  rw [if_neg hsome] at h
  obtain ⟨_, d₂, hmake, h⟩ := Job.exists_of_bind_run h
  have hmem : dir ∈ ({ renewed := [dir] } : Zone).renewed := List.mem_singleton_self dir
  have hkeeps : Keeps { renewed := [dir] } d d₂ :=
    ((Job.purgeDirectory_keeps hmem _).of_run hpurge).trans
      (((Job.createDirectory_keeps (Or.inl hmem)).orWarn _).of_run hmake)
  have hroot₂ := hkeeps.assigns.trans hroot
  have hcalm₂ : d₂.world.Calm := hkeeps.world ▸ hcalm
  have hscratch₂ : d₂.world.ScratchOrdinary := hkeeps.world ▸ hscratch
  have hembedded : ∃ p ∈ doc.images.zipIdx, p.1.embedded = true := by
    rw [Document.embeddedCount, ← length_filter_zipIdx] at hsome
    obtain ⟨p, hp⟩ := List.exists_mem_of_length_pos (Nat.pos_of_ne_zero hsome)
    exact ⟨p, List.mem_filter.mp hp⟩
  -- nothing was in the way, so the directory was emptied and made
  obtain ⟨loc, hleads₂, hfree₂⟩ := clear_of_extractAll hhome hroot₂ hcalm₂ hscratch₂ _ hembedded h
  have hleads : d.assigns.Leads dir loc := hkeeps.assigns ▸ hleads₂
  have hfree := clear_of_keeps hkeeps hleads hfree₂
  obtain ⟨t, j, hrun, hfree', hgone⟩ := Job.purgeDirectory_clears hcalm hground hleads hfree
    "cannot purge texture directory"
  rw [hpurge] at hrun
  obtain ⟨-, rfl⟩ := Prod.mk.inj hrun
  obtain ⟨u, k, hmkdir, -, hempty⟩ := Job.createDirectory_empty
    (d := { d with tree := t, journal := j }) hcalm hleads hfree' hgone
  rw [Job.orWarn, Job.run_bind_of_ok (Job.run_attempt_eq_ok_iff.mpr hmkdir)] at hmake
  cases hmake
  have hnodup : (doc.images.zipIdx.map (·.2)).Nodup := by
    rw [List.zipIdx_map_snd]
    exact List.nodup_range'
  obtain ⟨hn, files, hholds, hfiles⟩ := extractAll_exact hhome _ hroot₂ hcalm₂ hscratch₂ hleads₂ hempty
    hnodup (by simp) h
  rw [length_filter_zipIdx, Nat.zero_add] at hn
  exact ⟨hn, loc, files, hleads, hholds, hfiles⟩

/-- **Without embedded images** the directory of textures is removed, and nothing else is tried. -/
lemma directory_gone_of_extract {c : Converter} {n : Nat} (hhome : Home dir)
    (hroot : d.assigns = .below root) (hcalm : d.world.Calm) (hground : d.tree.Grounded)
    (hnone : doc.embeddedCount = 0) (h : (extract c doc dir).run d = (.ok (n, none), d')) :
    n = 0 ∧ d'.directoryExists dir = false ∧ Keeps { renewed := [dir] } d d' ∧
      ∃ events, d'.journal = d.journal ++ events ∧ ∀ e ∈ events, e = .rmdir dir := by
  obtain ⟨_, d₁, hpurge, h⟩ := Job.exists_of_bind_run h
  rw [if_pos hnone] at h
  cases h
  exact ⟨rfl, directoryExists_of_purge hhome hroot hcalm hground hpurge,
    (Job.purgeDirectory_keeps (List.mem_singleton_self dir) _).of_run hpurge,
    ((Job.purgeDirectory_evolves (S := (· = .rmdir dir)) rfl).of_run hpurge).journal⟩

/-- **Extracting textures is exact and leaves no workspace behind.** Take any document, any project
root, and any directory for the textures of an asset. On a calm depot with the usual converter,
whatever its libraries for pictures do: if all textures were extracted, their number is that of the
embedded images. If there are any, the directory holds exactly one texture for each, under the
number of the image and with the extension that its bytes tell; it is the data of the image itself
if that is a PNG or JPEG file within the limit. If there are none, the directory does not exist,
nothing in scratch space was touched, and no call but the removal of the directory was made.
Whatever fails otherwise, and whatever a converter does in its workspace and its target: if the
world lets workspaces go, nothing is in the place of a workspace and below that was not there
before.

**Proof sketch.** Everything that happens in a workspace misses the directory of textures
  (`misses_home`), so only the last step of a conversion adds to it (`extractImage_exact`), under a
  new number (`extractAll_exact`). That the first image was extracted means that no file was in the
  way (`clear_of_extractImage`), so the directory was emptied and made before. For workspaces, every
  image sweeps its own and misses the others (`extractImage_sweeps`). -/
theorem extract_exact (doc : Document) (root dir : String) (d : Depot) (hhome : Home dir)
    (hroot : d.assigns = .below root) (hscratch : d.world.ScratchOrdinary) :
    (d.world.Calm → d.tree.Grounded → ∀ (t : Tools) (n : Nat) (d' : Depot),
      (extract (convert t) doc dir).run d = (.ok (n, none), d') →
      n = doc.embeddedCount ∧
      (doc.embeddedCount ≠ 0 → ∃ loc files, d.assigns.Leads dir loc ∧
        d'.tree.HoldsExactly loc files ∧
        List.Forall₂ (fun p f => ∃ data, TextureOf t doc p data f)
          (doc.images.zipIdx.filter (·.1.embedded)) files) ∧
      (doc.embeddedCount = 0 → d'.directoryExists dir = false ∧
        (∀ temp loc, d.assigns.Leads "temp:" temp → temp <+: loc →
          d'.tree.find? loc = d.tree.find? loc) ∧
        ∃ events, d'.journal = d.journal ++ events ∧ ∀ e ∈ events, e = .rmdir dir)) ∧
    (d.world.FreesWorkspaces → ∀ c, Confined c → ∀ (r : Except Failure (Nat × Option Failure)) d',
      (extract c doc dir).run d = (r, d') →
      ∀ name loc l, Path.Ordinary name.toList →
        d.assigns.Leads (workspaceRoot ++ "/" ++ name) loc → loc <+: l →
        d'.tree.find? l = none ∨ d'.tree.find? l = d.tree.find? l) := by
  refine ⟨fun hcalm hground l n d' h => ?_, fun hfrees c hc r d' h => ?_⟩
  · by_cases hnone : doc.embeddedCount = 0
    · obtain ⟨rfl, hgone, hkeeps, hjournal⟩ :=
        directory_gone_of_extract hhome hroot hcalm hground hnone h
      refine ⟨hnone.symm, fun hsome => absurd hnone hsome, fun _ => ⟨hgone, ?_, hjournal⟩⟩
      intro temp loc htemp hle
      exact hkeeps.find?_eq_of_misses (hroot ▸ (misses_temp hhome (hroot ▸ htemp)).below hle)
    · obtain ⟨hn, hholds⟩ := holdsExactly_of_extract hhome hroot hcalm hground hscratch hnone h
      exact ⟨hn, fun _ => hholds, fun hzero => absurd hzero hnone⟩
  · exact ((extract_sweeps hc hhome).of_run h hroot hscratch hfrees).gone

/-- With the libraries of a run, a PNG file within the limit passes through. -/
lemma passesThrough_builtin {l : Limits} {data : Bytes} {picture : Picture}
    (hformat : Signature.recognize data = some "png") (hread : Picture.read data = .ok picture)
    (hsize : ((max picture.width picture.height : Nat) : Int) ≤ l.maxSize) :
    PassesThrough { limits := l } data :=
  ⟨"png", picture, hformat, Or.inl rfl, hread, Or.inr hsize⟩

/-- A PNG file of one pixel. -/
def dot : Bytes := [137, 80, 78, 71, 13, 10, 26, 10, 0, 0, 0, 13, 73, 72, 68, 82, 0, 0, 0, 1, 0, 0, 0, 1,
  8, 2, 0, 0, 0, 144, 119, 83, 222, 0, 0, 0, 15, 73, 68, 65, 84, 120, 1, 1, 4, 0, 251, 255, 0, 16, 32, 48,
  0, 164, 0, 97, 48, 208, 222, 38, 0, 0, 0, 0, 73, 69, 78, 68, 174, 66, 96, 130]

/-- A document with two images, of which the second one is embedded. -/
def poster : Document := { images := [{ uri := "photo.png" }, { type := .png, data := dot }] }

/-- A calm depot with a texture from before. -/
def gallery : Depot where
  tree := ⟨[(["export"], .dir 1), (["export", "textures"], .dir 1), (["export", "textures", "a"], .dir 1),
    (["export", "textures", "a", "b_gltf"], .dir 1),
    (["export", "textures", "a", "b_gltf", "7.png"], .file [] 1)]⟩
  assigns := .below ""
  world := { clock := fun n => n, refuses := fun _ _ _ => false, scratch := fun _ => "w" }

/-- The embedded image replaces the texture from before, as it is, and its workspace is gone. -/
theorem extract_exact_gallery : Home "tex:a/b_gltf" ∧ gallery.assigns = .below "" ∧
    gallery.world.ScratchOrdinary ∧ gallery.world.Calm ∧ gallery.tree.Grounded ∧
    gallery.world.FreesWorkspaces ∧ Confined (convert {}) ∧
    ∃ d', (extract (convert {}) poster "tex:a/b_gltf").run gallery = (.ok (1, none), d') ∧
      d'.tree.HoldsExactly ["export", "textures", "a", "b_gltf"] [("1.png", dot)] ∧
      d'.tree.find? ["temp", "textureconverter", "w"] = none := by
  have hdir : (AssetId.ofPath "a/b.gltf").textureDir = "tex:a/b_gltf" := by decide
  have hhome : Home "tex:a/b_gltf" := hdir ▸ home_ofPath _
  have hname : Path.Ordinary "w".toList := ⟨⟨by decide, by decide, by decide, by decide⟩, by decide⟩
  have hscratch : gallery.world.ScratchOrdinary := fun _ => hname
  have hcalm : gallery.world.Calm := fun _ _ _ => rfl
  have hground : gallery.tree.Grounded := by decide
  have hfrees : gallery.world.FreesWorkspaces := fun _ _ => rfl
  obtain ⟨hexact, hswept⟩ := extract_exact poster "" "tex:a/b_gltf" gallery hhome rfl hscratch
  obtain ⟨d', hrun⟩ : ∃ d', (extract (convert {}) poster "tex:a/b_gltf").run gallery =
      (.ok (1, none), d') := by
    have hresult : ((extract (convert {}) poster "tex:a/b_gltf").run gallery).1 = .ok (1, none) := by
      decide +kernel
    generalize (extract (convert {}) poster "tex:a/b_gltf").run gallery = result at hresult ⊢
    exact ⟨result.2, Prod.ext hresult rfl⟩
  obtain ⟨-, hholds, -⟩ := hexact hcalm hground {} 1 d' hrun
  obtain ⟨loc, files, hleads, hholds, hfiles⟩ := hholds (by decide)
  have hleads' : gallery.assigns.Leads "tex:a/b_gltf" ["export", "textures", "a", "b_gltf"] := by decide
  rw [hleads.unique hleads'] at hholds
  -- the only texture is that of the second image
  have hembedded : poster.images.zipIdx.filter (·.1.embedded) = [({ type := .png, data := dot }, 1)] := rfl
  rw [hembedded] at hfiles
  obtain ⟨f, rfl⟩ : ∃ f, files = [f] := List.length_eq_one_iff.mp hfiles.length_eq.symm
  obtain ⟨⟨data, htexture⟩, -⟩ := List.forall₂_cons.mp hfiles
  obtain rfl : dot = data := Except.ok.inj htexture.imageData
  have hpass : PassesThrough {} dot := by
    have hformat : Signature.recognize dot = some "png" := by decide
    have hsize : ((Picture.read dot).toOption.map fun p => max p.width p.height) = some 1 := by
      decide +kernel
    obtain ⟨picture, hpicture, hone⟩ := Option.map_eq_some_iff.mp hsize
    have hread : Picture.read dot = .ok picture := by
      generalize Picture.read dot = decoded at hpicture
      cases decoded with
      | error e => cases hpicture
      | ok p => exact congrArg Except.ok (Option.some.inj hpicture)
    have hfits : ((max picture.width picture.height : Nat) : Int) ≤ ({} : Limits).maxSize := by
      rw [hone]
      decide
    exact passesThrough_builtin hformat hread hfits
  have hf : f = ("1.png", dot) := Prod.ext (htexture.name.trans (by decide)) (htexture.passed hpass)
  rw [hf] at hholds
  have hworkspace : gallery.assigns.Leads (workspaceRoot ++ "/" ++ "w")
      ["temp", "textureconverter", "w"] := by decide
  have hgone := hswept hfrees (convert {}) (confined_convert {}) _ d' hrun "w" _ _ hname hworkspace
    (List.prefix_refl _)
  have hnothing : gallery.tree.find? ["temp", "textureconverter", "w"] = none := by decide
  exact ⟨hhome, rfl, hscratch, hcalm, hground, hfrees, confined_convert {}, d', hrun, hholds,
    hgone.elim id fun hsame => hsame.trans hnothing⟩

end Texture

end SceneForge
