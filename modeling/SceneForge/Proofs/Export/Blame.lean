import SceneForge.Attributes
import SceneForge.Proofs.Depot.Outcome
import SceneForge.Proofs.Document.Validity
import SceneForge.Proofs.Export.Footprint

set_option autoImplicit false

/-!
# What failures are blamed on

Failures keep their cause on the way out, unless a part of an export replaces it by one of its own.
So what an export can fail for is known from what its parts can fail for, and that may depend on the
depot: a file that can be written in the depots of some kind does not fail there. The parts of an
export are gone through once, for any kind of depots that they keep to and any kind of causes.

## Main definitions

* `SceneForge.Excused` — a value of some kind, or a failure for a cause of some kind.
* `SceneForge.Depot.Lasting`, `SceneForge.Depot.Preserves` — kinds of depots that only changes of
  the files can end.
* `SceneForge.Job.Abides` — an action that keeps to a kind of depots and has such results there.
* `SceneForge.Mesh.Storable` — meshes that fit the mesh file format.
* `SceneForge.Cause.OfSession` — the causes that sessions have for themselves.

## Main results

* `SceneForge.Texture.extract_abides`, `SceneForge.Surface.generate_abides`,
  `SceneForge.Scene.generateModels_abides` — the parts of an export.
* `SceneForge.Stage.all_abides` — all stages of the first phase.
* `SceneForge.Stage.all_foreign`, `SceneForge.Scene.generateModels_foreign` — none of them fails
  like a session, whatever the depot.
-/

namespace SceneForge

open Job (Steps)

/-! ## Results -/

/-- A value of some kind, or a failure for a cause of some kind. -/
def Excused {α : Type} (S : Cause → Prop) (P : α → Prop) : Except Failure α → Prop
  | .ok a => P a
  | .error f => S f.cause

/-- Any value, or a failure for a cause of some kind. -/
abbrev Excused.Any {α : Type} (S : Cause → Prop) (r : Except Failure α) : Prop :=
  Excused S (fun _ => True) r

namespace Excused

variable {α β : Type} {S T : Cause → Prop} {P : α → Prop} {Q : β → Prop} {r : Except Failure α}

/-- More causes and more values. -/
lemma mono {P' : α → Prop} (h : Excused S P r) (hS : ∀ c, S c → T c) (hP : ∀ a, P a → P' a) :
    Excused T P' r := by
  cases r with
  | error f => exact hS _ h
  | ok a => exact hP a h

/-- One result after the other. -/
lemma bind {f : α → Except Failure β} (h : Excused S P r) (hf : ∀ a, P a → Excused S Q (f a)) :
    Excused S Q (r >>= f) := by
  cases r with
  | error e => exact h
  | ok a => exact hf a h

/-- A context does not change a cause. -/
lemma inContext (h : Excused S P r) (context : String) : Excused S P (inContext context r) := by
  cases r with
  | error f => exact h
  | ok a => exact h

/-- Results one after the other. -/
lemma mapM {f : α → Except Failure β} {as : List α} (h : ∀ a ∈ as, Excused S Q (f a)) :
    Excused S (fun bs => ∀ b ∈ bs, Q b) (as.mapM f) := by
  induction as with
  | nil => exact fun b hb => nomatch hb
  | cons a as ih =>
    obtain ⟨ha, has⟩ := List.forall_mem_cons.mp h
    rw [List.mapM_cons]
    exact ha.bind fun b hb => (ih has).bind fun bs hbs => List.forall_mem_cons.mpr ⟨hb, hbs⟩

/-- Without a cause there is no failure. -/
lemma exists_ok (h : Excused (fun _ => False) P r) : ∃ a, r = .ok a ∧ P a := by
  cases r with
  | error f => exact h.elim
  | ok a => exact ⟨a, rfl, h⟩

/-- A failure that is replaced by one with a cause of its own. -/
lemma mapError {ε : Type} {f : ε → Failure} (hf : ∀ e, S (f e).cause) (r : Except ε α) :
    Any S (r.mapError f) := by
  cases r with
  | error e => exact hf e
  | ok a => exact trivial

end Excused

/-! ## Kinds of depots -/

/-- A kind of depots that notices, counters and the journal have nothing to do with. -/
class Depot.Lasting (I : Depot → Prop) : Prop where
  /-- It only depends on the files, the areas and the world, and lasts if scratch names are used. -/
  quiet : ∀ {d d' : Depot}, d'.tree = d.tree → d'.assigns = d.assigns → d'.world = d.world →
    d.scratchUsed ≤ d'.scratchUsed → I d → I d'

/-- A depot of some kind becomes another of that kind. -/
def Depot.Preserves (I : Depot → Prop) (d d' : Depot) : Prop := I d → I d'

/-- All depots are of a lasting kind. -/
instance Depot.lasting_true : Depot.Lasting fun _ => True := ⟨fun _ _ _ _ _ => trivial⟩

/-- A lasting kind is kept one step after the other. -/
instance Depot.lawful_preserves {I : Depot → Prop} [Depot.Lasting I] :
    Depot.Lawful (Depot.Preserves I) where
  quiet htree hassigns hworld _ hscratch _ := Depot.Lasting.quiet htree hassigns hworld hscratch
  trans h h' := h' ∘ h

open Depot (Lasting Preserves)

/-! ## Actions -/

namespace Job

variable {α β : Type} {I : Depot → Prop} {S T : Cause → Prop} {P : α → Prop} {Q : β → Prop}
  {job : Job α}

/-- From a depot of some kind an action leads to one of that kind. It gives a value of some kind or
fails for a cause of some kind. -/
def Abides (I : Depot → Prop) (S : Cause → Prop) (P : α → Prop) (job : Job α) : Prop :=
  ∀ d, I d → I (job.run d).2 ∧ Excused S P (job.run d).1

/-- The kind is kept and the results are known. -/
lemma Abides.of_steps (h : Steps (Preserves I) job) (hrun : ∀ d, I d → Excused S P (job.run d).1) :
    Abides I S P job := fun d hd => ⟨h d hd, hrun d hd⟩

/-- An action that abides by something keeps it. -/
lemma Abides.steps (h : Abides I S P job) : Steps (Preserves I) job := fun d hd => (h d hd).1

/-- What one run leads to. -/
lemma Abides.of_run (h : Abides I S P job) {d d' : Depot} {r : Except Failure α} (hd : I d)
    (hrun : job.run d = (r, d')) : I d' ∧ Excused S P r := by
  have hjob := h d hd
  rwa [hrun] at hjob

/-- More causes and more values. -/
lemma Abides.mono {P' : α → Prop} (h : Abides I S P job) (hS : ∀ c, S c → T c)
    (hP : ∀ a, P a → P' a) : Abides I T P' job :=
  fun d hd => ⟨(h d hd).1, (h d hd).2.mono hS hP⟩

/-- A given result. -/
lemma ofExcept_abides {r : Except Failure α} (h : Excused S P r) : Abides I S P (ofExcept r) :=
  fun _ hd => ⟨hd, h⟩

/-- A value is given. -/
lemma pure_abides {a : α} (h : P a) : Abides I S P (pure a : Job α) := fun _ hd => ⟨hd, h⟩

/-- A failure. -/
lemma fail_abides {f : Failure} (h : S f.cause) : Abides I S P (fail f : Job α) :=
  fun _ hd => ⟨hd, h⟩

/-- Looking gives what is seen. -/
lemma look_abides (f : Depot → α) : Abides I S (fun _ => True) (look f) := fun _ hd => ⟨hd, trivial⟩

/-- One action after the other. -/
lemma Abides.bind {f : α → Job β} (h : Abides I S P job) (hf : ∀ a, P a → Abides I S Q (f a)) :
    Abides I S Q (job >>= f) := by
  intro d hd
  have hjob := h d hd
  rw [run_bind]
  generalize job.run d = r at hjob ⊢
  obtain ⟨e | a, d'⟩ := r
  · exact hjob
  · exact hf a hjob.2 d' hjob.1

/-- A context does not change a cause. -/
lemma Abides.within (h : Abides I S P job) (context : String) : Abides I S P (job.within context) :=
  fun d hd => ⟨(h d hd).1, (h d hd).2.inContext context⟩

/-- A failure that is replaced. -/
lemma Abides.mapFailure {f : Failure → Failure} (h : Abides I T P job)
    (hf : ∀ e : Failure, T e.cause → S (f e).cause) : Abides I S P (job.mapFailure f) := by
  intro d hd
  refine ⟨(h d hd).1, ?_⟩
  have hjob := (h d hd).2
  show Excused S P ((job.run d).1.mapError f)
  cases hr : (job.run d).1 with
  | error e =>
    rw [hr] at hjob
    exact hf e hjob
  | ok a =>
    rw [hr] at hjob
    exact hjob

/-- The outcome of an action as a value. -/
lemma Abides.attempt (h : Abides I S P job) : Abides I T (Excused S P) job.attempt :=
  fun d hd => h d hd

/-- An action followed by another in any case. -/
lemma Abides.thenAlways (h : Abides I S P job) {last : Job Unit} (hlast : Steps (Preserves I) last) :
    Abides I S P (job.thenAlways last) :=
  fun d hd => ⟨hlast _ (h d hd).1, (h d hd).2⟩

variable [Lasting I]

/-- Something is counted. -/
lemma measure_abides (f : Measures → Measures) : Abides I S (fun _ => True) (measure f) :=
  fun d hd => ⟨Lasting.quiet (d := d) rfl rfl rfl (Nat.le_refl _) hd, trivial⟩

/-- What is only worth a warning never fails. -/
lemma orWarn_abides {job : Job Unit} (h : Steps (Preserves I) job) (text : String) :
    Abides I S (fun _ => True) (orWarn text job) := by
  refine .of_steps (h.orWarn text) fun d _ => ?_
  rw [orWarn, run_bind, run_attempt]
  rcases (job.run d).1 with f | a <;> exact trivial

/-- Purging a directory never fails. -/
lemma purgeDirectory_abides {dir : String} (h : Steps (Preserves I) (deleteDirectory dir))
    (warning : String) : Abides I S (fun _ => True) (purgeDirectory dir warning) := by
  refine (look_abides _).bind fun there _ => ?_
  split_ifs
  · exact orWarn_abides h warning
  · exact pure_abides trivial

end Job

open Job (Abides)

/-! ## Textures -/

namespace Texture

/-- A count, and if something went wrong a failure for a cause of some kind. -/
def Tallied (S : Cause → Prop) (r : Nat × Option Failure) : Prop := ∀ f, r.2 = some f → S f.cause

section Extract

/- What is asked of the workspaces: names of some kind `N` are drawn, and under such a name a directory
can be made, filled and removed. A picture that cannot be converted is a failed conversion, whatever
the converter says. -/
variable {I : Depot → Prop} [Lasting I] {S : Cause → Prop} {N : String → Prop} {c : Converter}
  {dir : String} (hS : S .conversion) (hname : Abides I S N Job.nextScratch)
  (hmkdir : ∀ name, N name → Abides I (fun _ => S .streamOpen) (fun _ => True)
    (Job.createDirectory (workspaceRoot ++ "/" ++ name)))
  (hpicture : ∀ name, N name → ∀ (i : Nat) (type : ImageType) data, Abides I S (fun _ => True)
    (Job.writeAll (workspaceRoot ++ "/" ++ name ++ "/" ++ toString i ++ "." ++ type.ext) data))
  (hconvert : ∀ name, N name → ∀ (i : Nat) (type : ImageType), Steps (Preserves I)
    (c (workspaceRoot ++ "/" ++ name ++ "/" ++ toString i ++ "." ++ type.ext)
      (workspaceRoot ++ "/" ++ name) dir))
  (hdrop : ∀ name, N name → Steps (Preserves I) (Job.deleteDirectory (workspaceRoot ++ "/" ++ name)))

include hS hname hmkdir hpicture hconvert hdrop

/-- **Extracting an image** fails as a conversion, or because of its workspace. -/
lemma extractImage_abides (doc : Document) (i : Nat) (type : ImageType) :
    Abides I S (fun _ => True) (extractImage c doc dir i type) := by
  have hconversion : ∀ f, S (ofConversion i f).cause := by
    intro f
    unfold ofConversion
    split_ifs with hcause
    · rwa [hcause]
    · exact hS
  refine (Job.ofExcept_abides (.mapError (f := imageFailed i) (fun _ => hS) _)).bind
    fun data _ => ?_
  refine hname.bind fun name hN => Abides.thenAlways ?_ ((hdrop name hN).orWarn _)
  refine ((hmkdir name hN).mapFailure fun _ h => h).bind fun _ _ => ?_
  refine (hpicture name hN i type data).bind fun _ _ => ?_
  have hsteps := (hconvert name hN i type).mapFailure (ofConversion i)
  exact .of_steps hsteps fun d _ => .mapError hconversion _

/-- Extracting images one after the other. -/
lemma extractAll_abides (doc : Document) (images : List (Document.Image × Nat)) :
    ∀ count, Abides I S (Tallied S) (extractAll c doc dir count images) := by
  induction images with
  | nil => exact fun count => Job.pure_abides fun f h => nomatch h
  | cons image images ih =>
    intro count
    have himage := extractImage_abides hS hname hmkdir hpicture hconvert hdrop doc image.2
      image.1.type
    unfold extractAll
    split_ifs
    · exact ih count
    · refine himage.attempt.bind fun r hr => ?_
      cases r with
      | ok a => exact ih (count + 1)
      | error f =>
        refine Job.pure_abides fun f' h => ?_
        cases h
        exact hr

/-- **Extracting textures.** The texture directory may be in the way: then conversions fail. -/
lemma extract_abides (hpurge : Steps (Preserves I) (Job.deleteDirectory dir))
    (hrenew : Steps (Preserves I) (Job.createDirectory dir)) (doc : Document) :
    Abides I S (Tallied S) (extract c doc dir) := by
  refine (Job.purgeDirectory_abides hpurge _).bind fun _ _ => ?_
  split_ifs
  · exact Job.pure_abides fun f h => nomatch h
  · refine (Job.orWarn_abides hrenew _).bind fun _ _ => ?_
    exact extractAll_abides hS hname hmkdir hpicture hconvert hdrop doc _ 0

end Extract

end Texture

open Texture (Tallied)

/-! ## Surfaces -/

namespace Surface

/-- A surface whose bindings are all known can be rendered. -/
lemma exists_render {s : Surface} (h : ∀ b ∈ s.bindings, ∃ entry, b.entry = .ok entry) :
    ∃ text, s.render = .ok text := by
  have hentries : Excused (fun _ => False) (fun _ => True) s.entries := by
    refine (Excused.mapM (Q := fun _ => True) fun b hb => ?_).bind fun params _ => trivial
    obtain ⟨entry, hentry⟩ := h b hb
    rw [Binding.toYaml, hentry]
    exact trivial
  obtain ⟨es, hes, -⟩ := hentries.exists_ok
  exact ⟨Yaml.render 4 es, by rw [render, hes]; rfl⟩

variable {S : Cause → Prop} {doc : Document} (hS : S .unresolvedReference)
  (hwired : ¬ S .invalidReference → doc.Wired)

include hS hwired

/-- The texture of a slot. In a wired document no slot leads nowhere. -/
lemma slotTexture_excused {slot : Ref}
    (hslot : ¬ S .invalidReference → Document.RefWithin slot doc.textures.length) (id : AssetId)
    (fallback : String) : Excused.Any S (slotTexture doc id slot fallback) := by
  unfold slotTexture
  cases slot with
  | none => exact trivial
  | some t =>
    simp only
    cases htexture : at? doc.textures t with
    | none =>
      by_contra hbad
      have hsome := isSome_at?_iff.mpr (hslot hbad t rfl)
      simp [htexture] at hsome
    | some texture =>
      simp only
      cases hsource : texture.source with
      | none => exact hS
      | some i =>
        simp only
        cases himage : at? doc.images i with
        | none =>
          by_contra hbad
          have hi := (hwired hbad).textures texture (mem_of_at?_eq_some htexture) i hsource
          have hsome := isSome_at?_iff.mpr hi
          simp [himage] at hsome
        | some image =>
          simp only
          split_ifs
          · exact trivial
          · exact hS

/-- The surface of a material can be rendered. -/
lemma ofMaterial_excused {m : Document.Material} (hm : m ∈ doc.materials) (id : AssetId)
    (name template : String) : Excused S (fun s => ∃ text, s.render = .ok text)
      (ofMaterial doc id name template m) := by
  have hslots : ∀ q ∈ slots m,
      ¬ S .invalidReference → Document.RefWithin q.2.1 doc.textures.length := by
    intro q hq hbad
    obtain ⟨hbase, hmetal, hnormal⟩ := (hwired hbad).materials m hm
    simp only [slots, List.mem_cons, List.not_mem_nil, or_false] at hq
    rcases hq with rfl | rfl | rfl
    · exact hbase
    · exact hmetal
    · exact hnormal
  have htextures : ∀ q ∈ slots m, Excused S (fun b => ∃ entry, b.entry = .ok entry) (do
      let ref ← inContext ("material " ++ Text.quote name ++ " " ++ q.1)
        (slotTexture doc id q.2.1 q.2.2)
      return Binding.mk q.1 (.texture ref)) := fun q hq =>
    ((slotTexture_excused hS hwired (hslots q hq) id q.2.2).inContext _).bind fun ref _ => ⟨_, rfl⟩
  refine (Excused.mapM htextures).bind fun textures h => exists_render fun b hb => ?_
  simp only [List.mem_append, List.mem_cons, List.not_mem_nil, or_false] at hb
  rcases hb with hb | rfl | rfl | rfl
  · exact h b hb
  · exact ⟨_, rfl⟩
  · exact ⟨_, rfl⟩
  · exact ⟨_, rfl⟩

/-- The surfaces of materials can be rendered. -/
lemma buildFrom_excused (hduplicate : S .duplicateMaterial) (id : AssetId) (template : String)
    (materials : List Document.Material) : materials ⊆ doc.materials → ∀ seen,
      Excused S (fun ss => ∀ s ∈ ss, ∃ text, s.render = .ok text)
        (buildFrom doc id template seen materials) := by
  induction materials with
  | nil => exact fun _ seen s hs => nomatch hs
  | cons m materials ih =>
    intro hsub seen
    obtain ⟨hm, hrest⟩ := List.cons_subset.mp hsub
    unfold buildFrom
    simp only
    cases seen.findIdx? (· == Document.materialName seen.length m) with
    | some first => exact hduplicate
    | none =>
      refine (ofMaterial_excused hS hwired hm id _ template).bind fun s hs => ?_
      exact (ih hrest _).bind fun ss hss => List.forall_mem_cons.mpr ⟨hs, hss⟩

/-- **The surfaces of a document** can be rendered. In a wired document only textures that are not
embedded and names that are used twice are in the way. -/
lemma build_excused (hduplicate : S .duplicateMaterial) (id : AssetId) (template : String) :
    Excused S (fun ss => ∀ s ∈ ss, ∃ text, s.render = .ok text) (build doc id template) :=
  buildFrom_excused hS hwired hduplicate id template doc.materials (List.Subset.refl _) []

end Surface

namespace Surface

variable {I J : Depot → Prop} {S : Cause → Prop} {id : AssetId}

/-- Writing surfaces one after the other. -/
lemma saveAll_abides (ss : List Surface) (hrender : ∀ s ∈ ss, ∃ text, s.render = .ok text)
    (hwrite : ∀ s ∈ ss, ∀ data, Abides I S (fun _ => True)
      (Job.writeAll (id.surfacePath s.name) data)) :
    ∀ count, Abides I S (Tallied S) (saveAll id count ss) := by
  induction ss with
  | nil => exact fun count => Job.pure_abides fun f h => nomatch h
  | cons s ss ih =>
    intro count
    obtain ⟨⟨text, htext⟩, hrender⟩ := List.forall_mem_cons.mp hrender
    obtain ⟨hfirst, hwrite⟩ := List.forall_mem_cons.mp hwrite
    have hsave : Abides I S (fun _ => True) (save (id.surfacePath s.name) s) := by
      refine ((Job.ofExcept_abides (P := fun _ => True) ?_).within _).bind fun _ _ => hfirst _
      rw [htext]
      exact trivial
    refine hsave.attempt.bind fun r hr => ?_
    cases r with
    | ok a => exact ih hrender hwrite (count + 1)
    | error f =>
      refine Job.pure_abides fun f' h => ?_
      cases h
      exact hr

/-- Renewing a directory never fails. -/
lemma renewDirectory_run (dir : String) (d : Depot) :
    (renewDirectory dir).run d = (.ok (), ((renewDirectory dir).run d).2) := by
  have hrenew : Abides (fun _ => True) (fun _ => False) (fun _ => True) (renewDirectory dir) := by
    refine (Job.purgeDirectory_abides (fun _ _ => trivial) _).bind fun _ _ => ?_
    exact Job.orWarn_abides (fun _ _ => trivial) _
  obtain ⟨_, hok, -⟩ := (hrenew d trivial).2.exists_ok
  exact Prod.ext hok rfl

/-- **Generating surfaces.** Once their directory is renewed, the depot is of a better kind. -/
lemma generate_abides {doc : Document} {template : String} (hJ : ∀ d, J d → I d)
    (hbuild : Excused S (fun ss => ∀ s ∈ ss, ∃ text, s.render = .ok text) (build doc id template))
    (hrenew : ∀ d, I d → J ((renewDirectory id.surfaceDir).run d).2)
    (hwrite : ∀ ss, build doc id template = .ok ss → ∀ s ∈ ss, ∀ data,
      Abides J S (fun _ => True) (Job.writeAll (id.surfacePath s.name) data)) :
    Abides I S (Tallied S) (generate doc id template) := by
  unfold generate
  split_ifs
  · exact Job.pure_abides fun f h => nomatch h
  cases hss : build doc id template with
  | error f =>
    rw [hss] at hbuild
    refine Job.pure_abides fun f' h => ?_
    cases h
    exact hbuild
  | ok ss =>
    rw [hss] at hbuild
    intro d hd
    have hsave := saveAll_abides ss hbuild (hwrite ss hss) 0 _ (hrenew d hd)
    simp only [Job.run_bind_of_ok (renewDirectory_run id.surfaceDir d)]
    exact ⟨hJ _ hsave.1, hsave.2⟩

end Surface

/-! ## Stages -/

namespace Stage

variable {I : Depot → Prop} {S T : Cause → Prop} {w : Workshop} {doc : Document} {id : AssetId}

/-- A count, or the failure that came with it. -/
lemma settle_abides {r : Nat × Option Failure} (h : Tallied S r) :
    Abides I S (fun _ => True) (settle r) := by
  obtain ⟨n, _ | f⟩ := r
  · exact Job.pure_abides trivial
  · exact Job.fail_abides (h f rfl)

/-- The stage of textures. -/
lemma textures_abides [Lasting I]
    (h : Abides I S (Tallied S) (Texture.extract w.convert doc id.textureDir)) :
    Abides I S (fun _ => True) (textures w doc id) := by
  refine h.bind fun r hr => (settle_abides hr).bind fun n _ => ?_
  exact (Job.measure_abides _).bind fun _ _ => Job.pure_abides trivial

/-- The stage of surfaces. -/
lemma surfaces_abides [Lasting I] {mode : Mode}
    (h : Abides I S (Tallied S) (Surface.generate doc id (template mode))) :
    Abides I S (fun _ => True) (surfaces doc id mode) := by
  unfold surfaces
  split_ifs
  · exact Job.pure_abides trivial
  · refine h.bind fun r hr => (settle_abides hr).bind fun n _ => ?_
    exact (Job.measure_abides _).bind fun _ _ => Job.pure_abides trivial

/-- The merged mesh of a document. -/
lemma merge_excused (hscale : S .invalidScale) (hrange : S Scene.outOfRange.cause)
    (hsetup : S .notSetUp) (honce : S .alreadyFlattened) (scene : Scene) (doc : Document)
    (settings : Settings) : Excused.Any S (merge scene doc settings).1 := by
  have hscene : Excused.Any S (scene.setup doc settings) := by
    unfold Scene.setup
    simp only
    split
    · exact hscale
    split
    · exact hrange
    · exact trivial
  unfold merge
  cases hready : scene.setup doc settings with
  | error f => rwa [hready] at hscene
  | ok ready =>
    simp only [Scene.flatten]
    cases ready.doc with
    | none => exact hsetup
    | some doc =>
      simp only
      split_ifs
      · exact honce
      · cases ready.merge doc with
        | none => exact hrange
        | some m => exact trivial

/-- The stage of the mesh. -/
lemma mesh_abides [Lasting I] {platform : Platform} {Q : Mesh → Prop} {r : Except Failure Mesh}
    (hr : Excused S Q r)
    (hsave : ∀ m, Q m → Abides I S (fun _ => True) (w.saveMesh id.mesh m platform)) :
    Abides I S (fun _ => True) (mesh w platform id r) := by
  refine (Job.ofExcept_abides hr).bind fun m hm => (hsave m hm).bind fun _ _ => ?_
  exact (Job.measure_abides _).bind fun _ _ => Job.pure_abides trivial

/-- **All stages** of the first phase. -/
lemma all_abides {platform : Platform} {scene : Scene} {settings : Settings}
    (htextures : Abides I S (fun _ => True) (textures w doc id))
    (hsurfaces : Abides I S (fun _ => True) (surfaces doc id settings.mode))
    (hmesh : Abides I S (fun _ => True) (mesh w platform id (merge scene doc settings).1)) :
    Abides I T (fun r => Excused.Any S r.1) (all w platform scene doc id settings) := by
  have hfirst : Abides I S (fun _ => True) (do
      let textures ← Job.within "textures stage" (textures w doc id)
      let surfaces ← Job.within "surfaces stage" (surfaces doc id settings.mode)
      return (textures, surfaces)) :=
    (htextures.within _).bind fun _ _ => (hsurfaces.within _).bind fun _ _ => Job.pure_abides trivial
  refine hfirst.attempt.bind fun first hfirst => ?_
  rcases first with f | ⟨t, n⟩
  · exact Job.pure_abides hfirst
  · refine (hmesh.within _).attempt.bind fun last hlast => Job.pure_abides ?_
    cases last with
    | error f => exact hlast
    | ok m => exact trivial

end Stage

/-! ## Files, meshes and models -/

/-- A mesh that fits the counters of the mesh file format. -/
structure Mesh.Storable (m : Mesh) : Prop where
  /-- The vertices can be counted. -/
  vertices : m.vertices.length ≤ 0xffffffff
  /-- The vertex numbers can be counted. -/
  indices : m.indices.length ≤ 0xffffffff
  /-- The bytes of every name can be counted. -/
  names : ∀ g ∈ m.groups, g.name.length ≤ 0xffff

section Models

variable {I : Depot → Prop} {S : Cause → Prop}

/-- A file that is there is read, or else something else is done. -/
lemma Job.ifThere_abides {α : Type} {P : α → Prop} {uri : String} {g : Bytes → Except Failure α}
    {other : Job α}
    (hread : ∀ d, I d → d.fileExists uri → Excused.Any S ((Job.readAll uri).run d).1)
    (hg : ∀ data, Excused S P (g data)) (hother : Abides I S P other) :
    Abides I S P (do
      if ← Job.look (·.fileExists uri) then
        let data ← Job.readAll uri
        Job.ofExcept (g data)
      else other) := by
  intro d hd
  rw [Job.run_bind_of_ok (Job.run_look _ d)]
  split_ifs with hthere
  · have hdata := hread d hd hthere
    have hsame := Job.readAll_run_snd uri d
    rw [Job.run_bind]
    generalize (Job.readAll uri).run d = r at hdata hsame ⊢
    obtain ⟨f | data, d'⟩ := r
    · obtain rfl : d' = d := hsame
      exact ⟨hd, hdata⟩
    · obtain rfl : d' = d := hsame
      exact Job.ofExcept_abides (hg data) d' hd
  · exact hother d hd

/-- Reading a file fails because it cannot be opened, or for a reason of its own. -/
lemma Job.readAll_excused (hopen : S .streamOpen) (hplain : ∀ text, S (.plain text)) (uri : String)
    (d : Depot) : Excused.Any S ((Job.readAll uri).run d).1 := by
  have hcontents : ∀ path, Excused (fun _ => True) (Excused.Any S) (d.contents path) := by
    intro path
    unfold Depot.contents
    split
    · exact trivial
    split
    · exact trivial
    · split
      · exact trivial
      · exact hplain _
    · exact trivial
  show Excused.Any S (Job.readAll uri d).1
  unfold Job.readAll
  split
  · exact hopen
  split
  · exact hopen
  have hpath := hcontents ‹String›
  split
  · exact hopen
  split
  · exact hplain _
  · rename_i r h _
    rw [h] at hpath
    exact Excused.inContext (r := r) hpath _

/-- Writing a file fails because it cannot be opened, or for a reason of its own. -/
lemma Job.writeAll_excused (hopen : S .streamOpen) (hplain : ∀ text, S (.plain text)) (uri : String)
    (data : Bytes) (d : Depot) : Excused.Any S ((Job.writeAll uri data).run d).1 := by
  have hopened : ∀ {f : Failure}, f.cause = .streamOpen → Excused.Any S (.error f : Except _ Unit) :=
    fun hcause => by
      show S _
      rw [hcause]
      exact hopen
  rcases hrun : (Job.writeAll uri data).run d with ⟨r, d'⟩
  cases Job.writing_of_writeAll hrun with
  | unmade cause => exact hopened cause
  | unopened cause hpath hmade => exact hopened cause
  | emptied hpath hmade hopen => exact hplain _
  | written hpath hmade hopen hresult =>
    rcases hresult with rfl | rfl
    · exact trivial
    · exact hplain _

/-- The bytes of a mesh, if it fits the format. -/
lemma MeshFile.encode_excused {m : Mesh} {p : Platform} (hplatform : ¬ p.isKnown → S .meshPlatform)
    (hlarge : ¬ m.Storable → S .meshTooLarge) : Excused.Any S (encode m p) := by
  unfold encode
  split_ifs with hknown hcount
  · exact hplatform (by simpa using hknown)
  · refine hlarge fun h => ?_
    obtain ⟨hv, hi, -⟩ := h
    simp at hcount
    omega
  · split
    · rename_i g hg
      refine hlarge fun h => ?_
      have := h.names g (List.mem_of_find?_eq_some hg)
      have := List.find?_some hg
      simp at this
      omega
    · exact trivial

/-- Saving a mesh. -/
lemma MeshFile.save_abides {uri : String} {m : Mesh} {p : Platform}
    (hencode : Excused.Any S (encode m p))
    (hwrite : ∀ data, Abides I S (fun _ => True) (Job.writeAll uri data)) :
    Abides I S (fun _ => True) (MeshFile.save uri m p) :=
  (Job.ofExcept_abides hencode).bind fun data _ => hwrite data

/-- Reading the physics description. -/
lemma Job.physicsOf_abides {id : AssetId} {base : String} (hS : S .invalidPhysics)
    (hread : ∀ d, I d → d.fileExists (base ++ id.name ++ ".physics") →
      Excused.Any S ((Job.readAll (base ++ id.name ++ ".physics")).run d).1) :
    Abides I S (fun _ => True) (Job.physicsOf id base) := by
  have hparse : ∀ uri data, Excused.Any S (Physics.parse uri data) := by
    intro uri data
    refine (Excused.mapError (fun _ => hS) _).bind fun p _ => ?_
    dsimp only
    generalize (if (Text.toLower p.collider).isEmpty then "none"
      else Text.toLower p.collider) = collider
    split
    · exact hS
    split
    · exact hS
    · exact trivial
  exact Job.ifThere_abides hread (hparse _) (Job.pure_abides trivial)

/-- Generating models. -/
lemma Scene.generateModels_abides {s : Scene} {id : AssetId} {platform : Platform} {base : String}
    (hbase : base ≠ id.basePath → S .basePath) (hnone : s.mesh = none → S .noMesh)
    (hphysics : Abides I S (fun _ => True) (Job.physicsOf id base))
    (hmodel : ∀ data, Abides I S (fun _ => True) (Job.writeAll id.model data))
    (hmesh : ∀ m, s.mesh = some m →
      Abides I S (fun _ => True) (MeshFile.save id.physicsMesh m.collision platform))
    (hlast : ∀ data, Abides I S (fun _ => True) (Job.writeAll id.physicsModel data))
    (flags : Flags) (mode : Mode) :
    Abides I S (fun _ => True) (s.generateModels id platform base flags mode) := by
  have hmake : ∀ m, s.mesh = some m → ∀ p,
      Abides I S (fun _ => True) (PhysicsModel.make id platform m p) := by
    intro m hm p
    unfold PhysicsModel.make
    simp only
    split
    · exact Job.pure_abides trivial
    · exact (hmesh m hm).bind fun _ _ => Job.pure_abides trivial
    · exact Job.pure_abides trivial
  unfold Scene.generateModels
  split_ifs with hne
  · refine (Job.fail_abides (P := fun _ => False) (hbase ?_)).bind fun _ h => h.elim
    simpa using hne
  cases hs : s.mesh with
  | none => exact Job.fail_abides (hnone hs)
  | some m =>
    refine hphysics.bind fun physics _ => ?_
    refine (hmodel _).bind fun _ _ => ?_
    exact (hmake m hs physics).bind fun pm _ => hlast _

/-- Settings that are acceptable have a positive scale. -/
lemma Settings.validate_excused (hS : S .invalidSettings) (s : Settings) :
    Excused S (fun _ => Single.lt 0 s.scale) s.validate := by
  unfold Settings.validate
  split_ifs with hscale
  · exact hscale
  · exact hS

/-- Settings that are not acceptable have a cause of their own. -/
lemma Settings.cause_of_validate {s : Settings} {f : Failure} (h : s.validate = .error f) :
    f.cause = .invalidSettings := by
  have hcause := Settings.validate_excused (S := (· = .invalidSettings)) rfl s
  rwa [h] at hcause

/-- The settings of an asset. -/
lemma Job.settingsFor_abides {id : AssetId} (hS : S .invalidSettings)
    (hread : ∀ d, I d → d.fileExists id.attributes →
      Excused.Any S ((Job.readAll id.attributes).run d).1) (defaults : Settings) :
    Abides I S (fun _ => True) (Job.settingsFor defaults id) := by
  have hoverlay : ∀ file, Excused.Any S (defaults.overlay file) := by
    intro file
    refine (Excused.mapError (fun _ => hS) _).bind fun a _ => ?_
    have hlast : ∀ s : Settings, Excused.Any S (do s.validate; return s) := fun s =>
      (s.validate_excused hS).bind fun _ _ => trivial
    dsimp only
    cases a.flags with
    | some names => exact (Excused.mapError (fun _ => hS) _).bind fun flags _ => hlast _
    | none => exact hlast _
  refine Job.ifThere_abides hread (fun file => (hoverlay file).inContext _) ?_
  exact (Job.ofExcept_abides (defaults.validate_excused hS)).bind fun _ _ => Job.pure_abides trivial

end Models

/-! ## Causes that are no session's -/

/-- The causes that sessions have for themselves. -/
def Cause.OfSession (c : Cause) : Prop := c = .invalidState ∨ c = .upToDate ∨ c = .sourceParse

/-- Whether a cause is one of sessions can be found out. -/
instance Cause.decidableOfSession (c : Cause) : Decidable c.OfSession :=
  inferInstanceAs (Decidable (_ ∨ _ ∨ _))

section Foreign

/- Whatever the depot, the parts of an export fail for causes that are no session's. -/
variable {S : Cause → Prop} (hS : ∀ c, ¬ c.OfSession → S c)

include hS

/-- Writing a file. -/
lemma Job.writeAll_foreign (uri : String) (data : Bytes) :
    Abides (fun _ => True) S (fun _ => True) (Job.writeAll uri data) :=
  .of_steps (fun _ _ => trivial) fun d _ => Job.writeAll_excused (hS _ (by decide))
    (fun text => hS _ (by simp [Cause.OfSession])) uri data d

/-- Reading a file. -/
lemma Job.readAll_foreign (uri : String) (d : Depot) : Excused.Any S ((Job.readAll uri).run d).1 :=
  Job.readAll_excused (hS _ (by decide)) (fun text => hS _ (by simp [Cause.OfSession])) uri d

/-- Saving a mesh. -/
lemma MeshFile.save_foreign (uri : String) (m : Mesh) (p : Platform) :
    Abides (fun _ => True) S (fun _ => True) (MeshFile.save uri m p) :=
  MeshFile.save_abides (MeshFile.encode_excused (fun _ => hS _ (by decide)) fun _ => hS _ (by decide))
    (Job.writeAll_foreign hS uri)

/-- Generating models. -/
lemma Scene.generateModels_foreign (s : Scene) (id : AssetId) (platform : Platform) (base : String)
    (flags : Flags) (mode : Mode) :
    Abides (fun _ => True) S (fun _ => True) (s.generateModels id platform base flags mode) := by
  have hphysics : Abides (fun _ => True) S (fun _ => True) (Job.physicsOf id base) :=
    Job.physicsOf_abides (hS _ (by decide)) fun d _ _ => Job.readAll_foreign hS _ d
  exact Scene.generateModels_abides (fun _ => hS _ (by decide)) (fun _ => hS _ (by decide)) hphysics
    (Job.writeAll_foreign hS _) (fun m _ => MeshFile.save_foreign hS _ _ _) (Job.writeAll_foreign hS _)
    flags mode

/-- The settings of an asset. -/
lemma Job.settingsFor_foreign (defaults : Settings) (id : AssetId) :
    Abides (fun _ => True) S (fun _ => True) (Job.settingsFor defaults id) :=
  Job.settingsFor_abides (hS _ (by decide)) (fun d _ _ => Job.readAll_foreign hS _ d) defaults

/-- Extracting textures, whatever converts them. -/
lemma Texture.extract_foreign (c : Converter) (doc : Document) (dir : String) :
    Abides (fun _ => True) S (Tallied S) (extract c doc dir) := by
  refine extract_abides (N := fun _ => True) (hS _ (by decide)) (fun _ _ => ⟨trivial, trivial⟩) ?_ ?_
    (fun name _ i type d _ => trivial) (fun name _ d _ => trivial) (fun _ _ => trivial)
    (fun _ _ => trivial) doc
  · refine fun name _ => .of_steps (fun _ _ => trivial) fun d _ => ?_
    rcases ((Job.createDirectory (workspaceRoot ++ "/" ++ name)).run d).1 with f | a
    · exact hS .streamOpen (by decide)
    · exact trivial
  · exact fun name _ i type data => Job.writeAll_foreign hS _ _

/-- Generating surfaces. -/
lemma Surface.generate_foreign (doc : Document) (id : AssetId) (template : String) :
    Abides (fun _ => True) S (Tallied S) (generate doc id template) := by
  have hbuild : Excused S (fun ss => ∀ s ∈ ss, ∃ text, s.render = .ok text)
      (build doc id template) := build_excused (hS .unresolvedReference (by decide))
    (fun h => absurd (hS _ (by decide)) h) (hS _ (by decide)) id template
  exact generate_abides (J := fun _ => True) (fun _ h => h) hbuild (fun _ _ => trivial)
    fun _ _ _ _ _ => Job.writeAll_foreign hS _ _

/-- **The stages of the first phase**, if writing a mesh does not fail like a session. -/
lemma Stage.all_foreign {w : Workshop} {platform : Platform} {id : AssetId}
    (hsave : ∀ m, Abides (fun _ => True) S (fun _ => True) (w.saveMesh id.mesh m platform))
    (scene : Scene) (doc : Document) (settings : Settings) :
    Abides (fun _ => True) (fun _ => False) (fun r => Excused.Any S r.1)
      (all w platform scene doc id settings) := by
  have hmerge := merge_excused (hS .invalidScale (by decide)) (hS _ (by decide)) (hS _ (by decide))
    (hS _ (by decide)) scene doc settings
  exact all_abides (textures_abides (Texture.extract_foreign hS _ doc _))
    (surfaces_abides (Surface.generate_foreign hS doc id _)) (mesh_abides hmerge fun m _ => hsave m)

end Foreign

end SceneForge
