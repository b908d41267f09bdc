import SceneForge.Proofs.Depot.Listing
import SceneForge.Proofs.Export.Footprint
import SceneForge.Proofs.Export.Independence
import SceneForge.Proofs.Export.Regular

set_option autoImplicit false

/-!
# Batches are complete and isolated

A batch hands one session from asset to asset. Since both phases of an export leave the session open
whatever fails, and an export takes nothing from an open session but its configuration, every asset
is exported as if a session had been opened for it. What was counted can be read off the results.

## Main definitions

* `SceneForge.Batch.Chain` — one result for each source, each from a session of its own.
* `SceneForge.Batch.Tour` — the results of several categories.
* `SceneForge.tally` — the count of a label.
* `SceneForge.Batch.Regular`, `SceneForge.Batch.Discreet` — what is asked of parts from outside.

## Main results

* `SceneForge.Batch.exportFile_agree` — one asset on two open sessions.
* `SceneForge.Batch.exists_chain`, `SceneForge.Batch.exists_tour` — a category, and all of them.
* `SceneForge.Batch.complete_isolated` — what holds of every batch.
-/

namespace SceneForge

open Job (Gives Steps)

/-! ## Counts -/

/-- The count of a label. -/
def tally (label : String) (entries : List (String × Nat)) : Nat :=
  ((entries.find? fun e => e.1 = label).map (·.2)).getD 0

/-- One more for a label. -/
lemma tally_updateAt (label l : String) (entries : List (String × Nat)) :
    tally label (updateAt l (· + 1) entries) = tally label entries + if l = label then 1 else 0 := by
  induction entries with
  | nil => by_cases h : l = label <;> simp [updateAt, tally, h]
  | cons e entries ih =>
    obtain ⟨l', n⟩ := e
    unfold updateAt
    split_ifs with hl hlabel hlabel
    · subst hl hlabel
      simp [tally]
    · subst hl
      simp [tally, hlabel]
    · subst hlabel
      simpa [tally, hl] using ih
    · by_cases h' : l' = label
      · simp [tally, h']
      · simpa [tally, h', hlabel] using ih

/-- Two states of a depot in which the same assets were counted. -/
def Depot.SameTallies (d d' : Depot) : Prop := d'.measures.tallies = d.measures.tallies

/-- Most actions count no assets. -/
instance Depot.lawful_sameTallies : Depot.Lawful Depot.SameTallies where
  quiet _ _ _ _ _ htallies := htallies
  trans h h' := Eq.trans h' h

namespace Job

open Depot (SameTallies)

/-- Writing a file counts no assets. -/
lemma writeAll_sameTallies (uri : String) (data : Bytes) :
    Steps SameTallies (writeAll uri data) := by
  intro d
  obtain ⟨t, j, heq, -⟩ := exists_of_writeAll uri data d
  rw [heq]
  rfl

/-- Making a directory counts no assets. -/
lemma createDirectory_sameTallies (uri : String) : Steps SameTallies (createDirectory uri) := by
  intro d
  obtain ⟨t, j, heq, -⟩ := exists_of_createDirectory uri d
  rw [heq]
  rfl

/-- Removing a directory counts no assets. -/
lemma deleteDirectory_sameTallies (uri : String) : Steps SameTallies (deleteDirectory uri) := by
  intro d
  obtain ⟨t, j, heq, -⟩ := exists_of_deleteDirectory uri d
  rw [heq]
  rfl

/-- Purging a directory counts no assets. -/
lemma purgeDirectory_sameTallies (dir warning : String) :
    Steps SameTallies (purgeDirectory dir warning) := by
  refine (look_steps _).bind fun there => ?_
  split_ifs
  · exact (deleteDirectory_sameTallies dir).orWarn _
  · exact pure_steps _

end Job

/-- A depot with one more notice. -/
def Depot.note (d : Depot) (severity : Severity) (text : String) : Depot :=
  { d with notices := d.notices ++ [{ severity, text }] }

/-- Logging a notice. -/
lemma Job.run_notice (severity : Severity) (text : String) (d : Depot) :
    (notice severity text).run d = (.ok (), d.note severity text) := rfl

/-! ## Parts from outside -/

namespace Batch

/-- The parts of a batch are not sessions: their failures have other causes. -/
structure Regular (b : Batch) : Prop where
  /-- The parts that do the work. -/
  workshop : b.workshop.Regular
  /-- The settings of assets. -/
  settings : ∀ id, Gives (fun _ => True) (b.settings id)

/-- The parts of a batch count no assets. -/
structure Discreet (b : Batch) : Prop where
  /-- Loading documents. -/
  load : ∀ uri, Steps Depot.SameTallies (b.workshop.load uri)
  /-- Converting textures. -/
  convert : ∀ source scratchDir targetDir,
    Steps Depot.SameTallies (b.workshop.convert source scratchDir targetDir)
  /-- Writing meshes. -/
  saveMesh : ∀ uri m p, Steps Depot.SameTallies (b.workshop.saveMesh uri m p)
  /-- Generating models. -/
  generate : ∀ s id p base flags mode,
    Steps Depot.SameTallies (b.workshop.generate s id p base flags mode)
  /-- The settings of assets. -/
  settings : ∀ id, Steps Depot.SameTallies (b.settings id)

/-- A batch with the usual parts. -/
def standard (tools : Texture.Tools) (defaults : Settings) (patterns : List String) : Batch where
  workshop := .standard tools
  defaults := defaults
  patterns := patterns

/-- The usual parts are not sessions. -/
lemma standard_regular (tools : Texture.Tools) (defaults : Settings) (patterns : List String) :
    (standard tools defaults patterns).Regular :=
  ⟨Workshop.standard_regular tools, Job.settingsFor_gives defaults⟩

/-- The usual parts count no assets. -/
lemma standard_discreet (tools : Texture.Tools) (defaults : Settings) (patterns : List String) :
    (standard tools defaults patterns).Discreet where
  load := Document.load_steps
  convert _ _ _ := Texture.convert_steps tools (fun _ _ => Job.writeAll_sameTallies _ _)
    fun _ _ => Job.writeAll_sameTallies _ _
  saveMesh uri := MeshFile.save_steps (Job.writeAll_sameTallies uri)
  generate s _ := Scene.generateModels_steps (Job.writeAll_sameTallies _)
    (Job.writeAll_sameTallies _) (Job.writeAll_sameTallies _) s
  settings id := by
    refine (Job.look_steps _).bind fun there => ?_
    split_ifs
    · exact (Job.readAll_steps _).bind fun file => Job.ofExcept_steps _
    · exact (Job.ofExcept_steps _).bind fun _ => Job.pure_steps _

variable {b : Batch} {s t : Session}

/-! ## One asset -/

/-- The same configuration, and ready for an export. -/
structure Alike (s t : Session) : Prop where
  /-- The first session is open. -/
  left : s.state = .isOpen
  /-- The second session is open. -/
  right : t.state = .isOpen
  /-- Meshes are written for the same platform. -/
  platform : s.platform = t.platform
  /-- Exports are forced on both or on none. -/
  force : s.force = t.force

/-- A session that is open after a call. -/
lemma open_of_moves {s' : Session} {path : String} {settings : Settings}
    (h : s.Moves (.start path settings) s' none) (hopen : s.state = .isOpen) :
    s'.state = .isOpen := by
  cases h with
  | refused _ => exact hopen
  | failed _ _ => rfl

/-- **Both phases of an export** give the same on open sessions of the same configuration, and leave
them open. -/
lemma exportAsset_agree (b : Batch) (h : Alike s t) (path : String) (id : AssetId) (d : Depot) :
    ∃ r s' t' d', (b.exportAsset s path id).run d = (.ok (r, s'), d') ∧
      (b.exportAsset t path id).run d = (.ok (r, t'), d') ∧ Alike s' t' ∧
      s'.platform = s.platform ∧ s'.force = s.force := by
  simp only [exportAsset, Job.run_bind, Job.run_attempt]
  rcases (b.settings id).run d with ⟨f | settings, d₁⟩
  · exact ⟨_, s, t, d₁, rfl, rfl, h, rfl, rfl⟩
  simp only
  obtain ⟨hstarted, hdepot⟩ := Session.start_agree h.left h.right h.platform h.force b.workshop path
    settings d₁
  obtain ⟨r, s₁, d₂, hs, hmoves⟩ := Session.start_moves b.workshop s path settings d₁
  obtain ⟨r', t₁, d₂', ht, hmoves'⟩ := Session.start_moves b.workshop t path settings d₁
  rw [hs, ht] at hstarted hdepot
  obtain rfl : d₂ = d₂' := hdepot
  obtain ⟨hplatform, hforce⟩ := hmoves.configuration
  obtain ⟨hplatform', hforce'⟩ := hmoves'.configuration
  simp only [Job.run_bind, hs, ht]
  cases hstarted with
  | failed f s₁ t₁ =>
    have halike : Alike s₁ t₁ := ⟨open_of_moves hmoves h.left, open_of_moves hmoves' h.right,
      by rw [hplatform, hplatform', h.platform], by rw [hforce, hforce', h.force]⟩
    exact ⟨_, s₁, t₁, d₂, rfl, rfl, halike, hplatform, hforce⟩
  | started await =>
    obtain ⟨r, d₃, hfinish, hfinish'⟩ := Session.finish_agree await b.workshop d₂
    have halike : Alike s₁.release t₁.release :=
      ⟨rfl, rfl, await.platform, hforce.trans (h.force.trans hforce'.symm)⟩
    exact ⟨r, _, _, d₃, hfinish, hfinish', halike, hplatform, hforce⟩

/-- What an export fails with was not made by a session, unless a part from outside is one. -/
lemma exportAsset_regular (hb : b.Regular) (hopen : s.state = .isOpen) {path : String} {id : AssetId}
    {d d' : Depot} {r : Except Failure Unit} {s' : Session}
    (h : (b.exportAsset s path id).run d = (.ok (r, s'), d')) : Regular.Any r := by
  have hsettings := hb.settings id d
  simp only [exportAsset, Job.run_bind, Job.run_attempt] at h
  generalize (b.settings id).run d = result at hsettings h
  obtain ⟨f | settings, d₁⟩ := result
  · cases h
    exact hsettings
  obtain ⟨r₁, s₁, d₂, hs, hmoves⟩ := Session.start_moves b.workshop s path settings d₁
  have hstart := Session.start_gives hb.workshop hopen path settings d₁
  simp only [Job.run_bind, hs] at h
  rw [hs] at hstart
  cases r₁ with
  | error f =>
    cases h
    exact hstart
  | ok p =>
    replace h : (s₁.finish b.workshop (some p)).run d₂ = (.ok (r, s'), d') := h
    cases hmoves with
    | started _ howner _ =>
      refine Session.finish_regular hb.workshop ?_ ?_ ?_ h
      · rfl
      · rfl
      · exact howner

/-- Both phases of an export count no assets. -/
lemma exportAsset_sameTallies (hb : b.Discreet) (s : Session) (path : String) (id : AssetId) :
    Steps Depot.SameTallies (b.exportAsset s path id) := by
  refine (hb.settings id).attempt.bind fun r => ?_
  cases r with
  | error f => exact Job.pure_steps _
  | ok settings =>
    have hextract : ∀ doc dir, Steps Depot.SameTallies
        (Texture.extract b.workshop.convert doc dir) := fun doc dir =>
      Texture.extract_steps (Job.purgeDirectory_sameTallies dir)
        (Job.createDirectory_sameTallies dir) fun i type =>
          Texture.extractImage_steps (fun name =>
            Texture.convertIn_steps (Job.createDirectory_sameTallies _)
              (Job.writeAll_sameTallies _) (hb.convert _ _ _))
            fun name => Job.deleteDirectory_sameTallies _
    have hgenerate : ∀ doc id mode, Steps Depot.SameTallies
        (Surface.generate doc id (Stage.template mode)) := fun doc id mode =>
      Surface.generate_steps (Job.purgeDirectory_sameTallies _)
        (Job.createDirectory_sameTallies _) fun _ _ _ _ => Job.writeAll_sameTallies _
    have hstart : Steps Depot.SameTallies (s.start b.workshop path settings) :=
      Session.start_steps (hb.load _) fun scene doc =>
        Stage.all_steps (Stage.textures_steps (hextract _ _))
          (Stage.surfaces_steps (hgenerate _ _ _))
          (Stage.mesh_steps fun m => hb.saveMesh _ m _) scene
    refine hstart.bind fun started => ?_
    obtain ⟨f | p, s₁⟩ := started
    · exact Job.pure_steps _
    · exact Session.finish_steps fun scene => hb.generate scene _ _ _ _ _

/-- A result is that of its asset. -/
lemma id_ofOutcome (id : AssetId) (elapsed : Int) (r : Except Failure Unit) :
    (ExportResult.ofOutcome id elapsed r).id = id := by
  cases r with
  | ok _ => rfl
  | error f =>
    simp only [ExportResult.ofOutcome]
    split_ifs <;> rfl

/-- An asset failed exactly if there is a failure to tell of. -/
lemma isSome_ofOutcome_iff (id : AssetId) (elapsed : Int) (r : Except Failure Unit) :
    (ExportResult.ofOutcome id elapsed r).failure.isSome ↔
      (ExportResult.ofOutcome id elapsed r).status = .failed := by
  cases r with
  | ok _ => simp [ExportResult.ofOutcome]
  | error f =>
    simp only [ExportResult.ofOutcome]
    split_ifs <;> simp

/-- A result tells of no other failure than that of its export. -/
lemma failure_of_ofOutcome {id : AssetId} {elapsed : Int} {r : Except Failure Unit} {f : Failure}
    (h : (ExportResult.ofOutcome id elapsed r).failure = some f) : r = .error f := by
  cases r with
  | ok _ => cases h
  | error f' =>
    simp only [ExportResult.ofOutcome] at h
    split_ifs at h
    cases h
    rfl

/-- A result is counted and logged in any case. -/
lemma exists_report_run (r : ExportResult) (d : Depot) : ∃ d', (report r).run d = (.ok (), d') ∧
    ∀ label,
      tally label d'.measures.assets =
        tally label d.measures.assets + (if r.status.name = label then 1 else 0) ∧
      tally label d'.measures.errors = tally label d.measures.errors +
        (if r.status = .failed ∧ r.kind.name = label then 1 else 0) := by
  unfold report
  cases hstatus : r.status with
  | exported => exact ⟨_, rfl, fun label => ⟨tally_updateAt _ _ _, by simp [Measures.asset]⟩⟩
  | skipped => exact ⟨_, rfl, fun label => ⟨tally_updateAt _ _ _, by simp [Measures.asset]⟩⟩
  | failed =>
    refine ⟨_, rfl, fun label => ⟨tally_updateAt _ _ _, ?_⟩⟩
    simp only [true_and]
    exact tally_updateAt _ _ _

/-- The result of an asset is what became of its two phases, and it is counted and logged. -/
lemma exportFile_run {path : String} {d d₁ : Depot} {r : Except Failure Unit} {s' : Session}
    (h : (b.exportAsset s path (AssetId.ofPath path)).run d = (.ok (r, s'), d₁)) :
    let result := .ofOutcome (AssetId.ofPath path) ((d₁.now - d.now).tdiv 1000000) r
    (b.exportFile s path).run d = (.ok (result, s'), ((report result).run d₁).2) := by
  obtain ⟨d', hreport, -⟩ := exists_report_run
    (.ofOutcome (AssetId.ofPath path) ((d₁.now - d.now).tdiv 1000000) r) d₁
  simp only [exportFile, Job.run_bind, Job.run_look, h, hreport]
  rfl

/-- **Exporting an asset** gives the same on open sessions of the same configuration, and leaves
them open. -/
lemma exportFile_agree (b : Batch) (h : Alike s t) (path : String) (d : Depot) :
    ∃ r s' t' d', (b.exportFile s path).run d = (.ok (r, s'), d') ∧
      (b.exportFile t path).run d = (.ok (r, t'), d') ∧ Alike s' t' ∧
      s'.platform = s.platform ∧ s'.force = s.force := by
  obtain ⟨r, s', t', d₁, hs, ht, halike⟩ := exportAsset_agree b h path (AssetId.ofPath path) d
  exact ⟨_, s', t', _, exportFile_run hs, exportFile_run ht, halike⟩

/-- The result of an asset on an open session comes from its two phases. -/
lemma exists_of_exportFile (hopen : s.state = .isOpen) {path : String} {d d' : Depot}
    {res : ExportResult} {s' : Session} (h : (b.exportFile s path).run d = (.ok (res, s'), d')) :
    ∃ r elapsed d₁, (b.exportAsset s path (AssetId.ofPath path)).run d = (.ok (r, s'), d₁) ∧
      res = .ofOutcome (AssetId.ofPath path) elapsed r ∧ d' = ((report res).run d₁).2 := by
  obtain ⟨r, s₁, t₁, d₁, hs, -⟩ :=
    exportAsset_agree b ⟨hopen, hopen, rfl, rfl⟩ path (AssetId.ofPath path) d
  rw [exportFile_run hs] at h
  cases h
  exact ⟨r, _, d₁, hs, rfl, rfl⟩

/-- An asset is counted once, and if it failed then so is the kind of its failure. -/
lemma tally_of_exportFile (hb : b.Discreet) (hopen : s.state = .isOpen) {path : String}
    {d d' : Depot} {res : ExportResult} {s' : Session}
    (h : (b.exportFile s path).run d = (.ok (res, s'), d')) (label : String) :
    tally label d'.measures.assets =
      tally label d.measures.assets + (if res.status.name = label then 1 else 0) ∧
    tally label d'.measures.errors = tally label d.measures.errors +
      (if res.status = .failed ∧ res.kind.name = label then 1 else 0) := by
  obtain ⟨r, elapsed, d₁, hasset, -, rfl⟩ := exists_of_exportFile hopen h
  have htallies := exportAsset_sameTallies hb s path (AssetId.ofPath path) d
  rw [hasset] at htallies
  obtain ⟨hassets, herrors⟩ := Prod.mk.inj htallies
  obtain ⟨d₂, hreport, hcounts⟩ := exists_report_run res d₁
  rw [hreport, ← hassets, ← herrors]
  exact hcounts label

/-! ## A category -/

/-- A session that was just created and opened. -/
def fresh (owner : Nat) (platform : Platform) (force : Bool) : Session :=
  (Session.created owner platform force).acquire.2

/-- An open session is as good as a fresh one. -/
lemma alike_fresh (hopen : s.state = .isOpen) (owner : Nat) :
    Alike s (fresh owner s.platform s.force) := ⟨hopen, rfl, rfl, rfl⟩

/-- One result for each source, in order. Each is what exporting the source gives on a session that
was opened for it, in the state that the sources before it left. -/
inductive Chain (b : Batch) (platform : Platform) (force : Bool) :
    Depot → List String → List ExportResult → Depot → Prop where
  /-- There is no source left. -/
  | nil {d : Depot} : Chain b platform force d [] [] d
  /-- A source and those after it. -/
  | cons {d d₁ d' : Depot} {path : String} {paths : List String} {r : ExportResult}
      {rs : List ExportResult}
      (alone : ∀ owner, ∃ s', (b.exportFile (fresh owner platform force) path).run d =
        (.ok (r, s'), d₁))
      (rest : Chain b platform force d₁ paths rs d') :
      Chain b platform force d (path :: paths) (r :: rs) d'

namespace Chain

variable {platform : Platform} {force : Bool} {d d' : Depot} {paths : List String}
  {rs : List ExportResult}

/-- There is one result for each source, and it is that of the source. -/
lemma map_id (h : b.Chain platform force d paths rs d') :
    rs.map (·.id) = paths.map AssetId.ofPath := by
  induction h with
  | nil => rfl
  | cons alone _ ih =>
    obtain ⟨s', hrun⟩ := alone 0
    obtain ⟨r, elapsed, -, -, rfl, -⟩ := exists_of_exportFile rfl hrun
    rw [List.map_cons, List.map_cons, ih, id_ofOutcome]

/-- An asset failed exactly if there is a failure to tell of. -/
lemma isSome_failure_iff (h : b.Chain platform force d paths rs d') :
    ∀ r ∈ rs, r.failure.isSome ↔ r.status = .failed := by
  induction h with
  | nil => exact fun r hr => nomatch hr
  | cons alone _ ih =>
    obtain ⟨s', hrun⟩ := alone 0
    obtain ⟨r, elapsed, -, -, rfl, -⟩ := exists_of_exportFile rfl hrun
    exact List.forall_mem_cons.mpr ⟨isSome_ofOutcome_iff _ elapsed r, ih⟩

/-- No asset fails because of the state of a session. -/
lemma cause_ne_invalidState (hb : b.Regular) (h : b.Chain platform force d paths rs d') :
    ∀ r ∈ rs, ∀ f, r.failure = some f → f.cause ≠ .invalidState := by
  induction h with
  | nil => exact fun r hr => nomatch hr
  | cons alone _ ih =>
    obtain ⟨s', hrun⟩ := alone 0
    obtain ⟨r, elapsed, d₁, hasset, rfl, -⟩ := exists_of_exportFile rfl hrun
    refine List.forall_mem_cons.mpr ⟨fun f hf => ?_, ih⟩
    have hregular := exportAsset_regular hb rfl hasset
    rwa [failure_of_ofOutcome hf] at hregular

/-- **What is counted** of a chain are its results. -/
lemma tally_eq (hb : b.Discreet) (h : b.Chain platform force d paths rs d') (label : String) :
    tally label d'.measures.assets = tally label d.measures.assets +
      rs.countP (fun r => r.status.name = label) ∧
    tally label d'.measures.errors = tally label d.measures.errors +
      rs.countP (fun r => r.status = .failed ∧ r.kind.name = label) := by
  induction h with
  | nil => exact ⟨rfl, rfl⟩
  | cons alone _ ih =>
    obtain ⟨s', hrun⟩ := alone 0
    obtain ⟨hassets, herrors⟩ := tally_of_exportFile hb rfl hrun label
    rw [ih.1, ih.2, hassets, herrors, List.countP_cons, List.countP_cons]
    simp only [decide_eq_true_eq]
    constructor <;> omega

/-- Chains only depend on the configuration of sessions. -/
lemma unique (h : b.Chain platform force d paths rs d') {rs₁ : List ExportResult} {d₁ : Depot}
    (h₁ : b.Chain platform force d paths rs₁ d₁) : rs = rs₁ ∧ d' = d₁ := by
  induction h generalizing rs₁ d₁ with
  | nil =>
    cases h₁
    exact ⟨rfl, rfl⟩
  | cons alone _ ih =>
    cases h₁ with
    | cons alone₁ rest₁ =>
      obtain ⟨s', hrun⟩ := alone 0
      obtain ⟨s₁, hrun₁⟩ := alone₁ 0
      rw [hrun] at hrun₁
      cases hrun₁
      obtain ⟨rfl, rfl⟩ := ih rest₁
      exact ⟨rfl, rfl⟩

end Chain

/-- The three counts of a summary add up. -/
lemma summary_add (rs : List ExportResult) :
    (Summary.ofResults rs).exported + (Summary.ofResults rs).skipped +
      (Summary.ofResults rs).failed = rs.length := by
  induction rs with
  | nil => rfl
  | cons r rs ih =>
    simp only [Summary.ofResults] at ih ⊢
    cases hstatus : r.status <;> simp [hstatus] <;> omega

/-- **Assets one after the other** give a chain of results. -/
lemma exists_chain (b : Batch) (hopen : s.state = .isOpen) (paths : List String) (d : Depot) :
    ∃ rs s' d', (b.exportFiles s paths).run d = (.ok (rs, s'), d') ∧ s'.state = .isOpen ∧
      s'.platform = s.platform ∧ s'.force = s.force ∧
      b.Chain s.platform s.force d paths rs d' := by
  induction paths generalizing s d with
  | nil => exact ⟨[], s, d, rfl, hopen, rfl, rfl, .nil⟩
  | cons path paths ih =>
    obtain ⟨r, s₁, t₁, d₁, hs, ht, halike, hplatform, hforce⟩ :=
      exportFile_agree b (alike_fresh hopen 0) path d
    obtain ⟨rs, s', d', hrest, hopen', hplatform', hforce', hchain⟩ := ih halike.left d₁
    rw [hplatform, hforce] at hchain
    refine ⟨r :: rs, s', d', ?_, hopen', hplatform'.trans hplatform, hforce'.trans hforce,
      .cons (fun owner => ?_) hchain⟩
    · simp only [exportFiles, Job.run_bind, hs, hrest]
      rfl
    · obtain ⟨r', s₂, t₂, d₂, hs', ht', -⟩ := exportFile_agree b (alike_fresh hopen owner) path d
      rw [hs] at hs'
      cases hs'
      exact ⟨t₂, ht'⟩

/-- **A category** that can be listed gives the chain of its sources; one that cannot changes
nothing. -/
lemma exportCategory_cases (b : Batch) (hopen : s.state = .isOpen) (category : String) (d : Depot) :
    (∃ f, (b.sources category).run d = (.error f, d) ∧
      (b.exportCategory s category).run d = (.ok (.error f, s), d)) ∨
    ∃ paths rs s' d', (b.sources category).run d = (.ok paths, d) ∧
      (b.exportCategory s category).run d =
        (.ok (.ok rs, s'), d'.note .info "category exported") ∧
      s'.state = .isOpen ∧ s'.platform = s.platform ∧ s'.force = s.force ∧
      b.Chain s.platform s.force d paths rs d' := by
  have hstill := sources_still b category d
  simp only [exportCategory, Job.run_bind, Job.run_attempt]
  generalize (b.sources category).run d = result at hstill ⊢
  obtain ⟨f | paths, d₀⟩ := result
  · obtain rfl : d₀ = d := hstill
    exact Or.inl ⟨f, rfl, rfl⟩
  · obtain rfl : d₀ = d := hstill
    obtain ⟨rs, s', d', hrun, hopen', hplatform, hforce, hchain⟩ := exists_chain b hopen paths d₀
    refine Or.inr ⟨paths, rs, s', d', rfl, ?_, hopen', hplatform, hforce, hchain⟩
    simp only [Job.run_bind, hrun]
    rfl

/-! ## All categories -/

/-- The results of categories, in order. Each category gives what it gives on a session that was
opened for it, in the state that the categories before it left; one that cannot be listed is passed
over. -/
inductive Tour (b : Batch) (platform : Platform) (force : Bool) :
    Depot → List String → List ExportResult → Depot → Prop where
  /-- There is no category left. -/
  | nil {d : Depot} : Tour b platform force d [] [] d
  /-- A category and those after it. -/
  | listed {d d₁ d' : Depot} {category : String} {categories : List String}
      {here rs : List ExportResult}
      (alone : ∀ owner, ∃ s', (b.exportCategory (fresh owner platform force) category).run d =
        (.ok (.ok here, s'), d₁))
      (rest : Tour b platform force d₁ categories rs d') :
      Tour b platform force d (category :: categories) (here ++ rs) d'
  /-- A category that cannot be listed. -/
  | passed {d d' : Depot} {category : String} {categories : List String} {rs : List ExportResult}
      {f : Failure} (unlisted : (b.sources category).run d = (.error f, d))
      (rest : Tour b platform force (d.note .warn "cannot list category") categories rs d') :
      Tour b platform force d (category :: categories) rs d'

/-- **Categories one after the other.** -/
lemma exists_tour (b : Batch) (hopen : s.state = .isOpen) (categories : List String) (d : Depot) :
    ∃ rs s' d', (b.exportCategories s categories).run d = (.ok (rs, s'), d') ∧
      s'.state = .isOpen ∧ b.Tour s.platform s.force d categories rs d' := by
  induction categories generalizing s d with
  | nil => exact ⟨[], s, d, rfl, hopen, .nil⟩
  | cons category categories ih =>
    simp only [exportCategories, Job.run_bind]
    rcases exportCategory_cases b hopen category d with ⟨f, hunlisted, hrun⟩ |
      ⟨paths, here, s₁, d₁, hlisted, hrun, hopen₁, hplatform, hforce, hchain⟩
    · obtain ⟨rs, s', d', hrest, hopen', htour⟩ := ih hopen (d.note .warn "cannot list category")
      refine ⟨rs, s', d', ?_, hopen', .passed hunlisted htour⟩
      simp only [hrun, pure_bind, Job.run_bind, Job.run_notice, hrest]
      rfl
    · obtain ⟨rs, s', d', hrest, hopen', htour⟩ := ih hopen₁ (d₁.note .info "category exported")
      rw [hplatform, hforce] at htour
      refine ⟨here ++ rs, s', d', ?_, hopen', .listed (fun owner => ?_) htour⟩
      · simp only [hrun, pure_bind, Job.run_bind, hrest]
        rfl
      · rcases exportCategory_cases b (alike_fresh hopen owner).right category d with
          ⟨f, hunlisted, -⟩ | ⟨paths', here', s₂, d₂, hlisted', hrun', -, -, -, hchain'⟩
        · cases hunlisted.symm.trans hlisted
        · cases hlisted'.symm.trans hlisted
          obtain ⟨rfl, rfl⟩ := hchain'.unique hchain
          exact ⟨s₂, hrun'⟩

/-! ## Batches -/

/-- What can be said of the results of a category, the sources having been found. -/
structure Ledger (b : Batch) (platform : Platform) (force : Bool) (d : Depot) (paths : List String)
    (rs : List ExportResult) (d' : Depot) : Prop where
  /-- There is one result for each source, in order. -/
  ids : rs.map (·.id) = paths.map AssetId.ofPath
  /-- Each result is that of a session opened for it. -/
  chain : b.Chain platform force d paths rs d'
  /-- An asset failed exactly if there is a failure to tell of. -/
  failed : ∀ r ∈ rs, r.failure.isSome ↔ r.status = .failed
  /-- No asset fails because of the state of a session, if no part from outside does. -/
  regular : b.Regular → ∀ r ∈ rs, ∀ f, r.failure = some f → f.cause ≠ .invalidState
  /-- The counts of the summary add up. -/
  summary : (Summary.ofResults rs).exported + (Summary.ofResults rs).skipped +
    (Summary.ofResults rs).failed = rs.length
  /-- Assets are counted by outcome and failures by kind, if no part from outside counts assets. -/
  tallies : b.Discreet → ∀ label,
    tally label d'.measures.assets = tally label d.measures.assets +
      rs.countP (fun r => r.status.name = label) ∧
    tally label d'.measures.errors = tally label d.measures.errors +
      rs.countP (fun r => r.status = .failed ∧ r.kind.name = label)

/-- A chain of results accounts for everything. -/
lemma Chain.ledger {platform : Platform} {force : Bool} {d d' : Depot} {paths : List String}
    {rs : List ExportResult} (h : b.Chain platform force d paths rs d') :
    b.Ledger platform force d paths rs d' :=
  ⟨h.map_id, h, h.isSome_failure_iff, fun hb => h.cause_ne_invalidState hb, summary_add rs,
    fun hb => h.tally_eq hb⟩

/-- **Batches are complete and isolated.** Whatever the parts of a batch do and whichever calls are
refused, on an open session:

* if the sources of a category are found, then their names increase and are those of all files in
  the directory of the category that one of the patterns stands for; exporting the category gives
  one result for each of them, with everything that `Ledger` says, and leaves the session open;
* if the categories are found, then exporting everything gives the results of one category after the
  other, without those that cannot be listed, and leaves the session open.

**Proof sketch.** Listings show what is there (`exists_names_of_sources`). An export leaves the
  session open and takes only its configuration from it (`exportFile_agree`), so that results form a
  chain by induction on the sources (`exists_chain`). -/
theorem complete_isolated (b : Batch) (s : Session) (hopen : s.state = .isOpen) (d : Depot)
    (hsound : d.tree.Sound) :
    (∀ category paths d₀, (b.sources category).run d = (.ok paths, d₀) → d₀ = d ∧
      (∃ (loc : Location) (names : List String), d.assigns.Leads ("src:" ++ category) loc ∧
        paths = names.map (fun n => "src:" ++ category ++ "/" ++ n) ∧ names.Pairwise (· < ·) ∧
        ∀ n, n ∈ names ↔ d.IsSource b.effectivePatterns loc n) ∧
      ∃ rs s' d', (b.exportCategory s category).run d =
          (.ok (.ok rs, s'), d'.note .info "category exported") ∧
        s'.state = .isOpen ∧ b.Ledger s.platform s.force d paths rs d') ∧
    ∀ categories d₀, (Job.listDirectories "src:").run d = (.ok categories, d₀) → d₀ = d ∧
      ∃ rs s' d', (b.exportAll s).run d = (.ok (.ok rs, s'), d') ∧ s'.state = .isOpen ∧
        b.Tour s.platform s.force d categories rs d' := by
  refine ⟨fun category paths d₀ hsources => ?_, fun categories d₀ hlisted => ?_⟩
  · obtain ⟨rfl, hnames⟩ := exists_names_of_sources hsound hsources
    refine ⟨rfl, hnames, ?_⟩
    rcases exportCategory_cases b hopen category d₀ with ⟨f, hunlisted, -⟩ |
      ⟨paths', rs, s', d', hlisted, hrun, hopen', -, -, hchain⟩
    · cases hunlisted.symm.trans hsources
    · cases hlisted.symm.trans hsources
      exact ⟨rs, s', d', hrun, hopen', hchain.ledger⟩
  · obtain rfl := (Job.listDirectories_still "src:").eq_of_run hlisted
    obtain ⟨rs, s', d', hrun, hopen', htour⟩ := exists_tour b hopen categories d₀
    refine ⟨rfl, rs, s', d', ?_, hopen', htour⟩
    have hattempt : (Job.listDirectories (Area.source.tag ++ ":")).run d₀ = (.ok categories, d₀) :=
      hlisted
    simp only [exportAll, Job.run_bind, Job.run_attempt, hattempt, hrun]
    rfl

/-- Two source documents, the first of them broken, and a file that is none. -/
def shelf : Depot where
  tree := ⟨[(["src"], .dir 1), (["src", "a"], .dir 1), (["src", "a", "bad.gltf"], .file (utf8 "?") 10),
    (["src", "a", "box.gltf"], .file (utf8 "{}") 10), (["src", "a", "notes.txt"], .file [] 10)]⟩
  assigns := History.unexported.assigns
  world := History.unexported.world

/-- Two patterns that overlap. -/
def overlapping : Batch := standard {} {} ["*.gltf", "b*"]

/-- A pattern that matches both documents lists them. -/
lemma listFiles_shelf {pattern : String} (hparse : (Pattern.parse pattern).isSome)
    (hbad : Pattern.Matches pattern "bad.gltf") (hbox : Pattern.Matches pattern "box.gltf")
    (hnotes : ¬ Pattern.Matches pattern "notes.txt") :
    (Job.listFiles "src:a" pattern).run shelf = (.ok ["bad.gltf", "box.gltf"], shelf) := by
  have hleads : shelf.assigns.Leads "src:a" ["src", "a"] :=
    ⟨"src/a", by decide +kernel, by decide +kernel⟩
  have hdir : shelf.tree.find? ["src", "a"] = some (.dir 1) := by decide +kernel
  have hfiles : ((shelf.tree.children ["src", "a"]).filter fun e => !e.2.isDir).map (·.1) =
      ["bad.gltf", "box.gltf", "notes.txt"] := by
    rw [Tree.children, Tree.byName, List.mergeSort_of_pairwise (by decide +kernel)]
    decide +kernel
  rw [Job.listFiles_run rfl hleads hdir hparse, hfiles]
  simp [hbad, hbox, hnotes]

/-- The sources of the only category, each once. -/
lemma sources_shelf :
    (overlapping.sources "a").run shelf = (.ok ["src:a/bad.gltf", "src:a/box.gltf"], shelf) := by
  have hfirst : (Job.listFiles "src:a" "*.gltf").run shelf =
      (.ok ["bad.gltf", "box.gltf"], shelf) := by
    refine listFiles_shelf ?_ ?_ ?_ ?_ <;> decide +kernel
  have hsecond : (Job.listFiles "src:a" "b*").run shelf =
      (.ok ["bad.gltf", "box.gltf"], shelf) := by
    refine listFiles_shelf ?_ ?_ ?_ ?_ <;> decide +kernel
  have hfound : (overlapping.effectivePatterns.mapM fun p =>
      Job.within "listing src:a" (Job.listFiles "src:a" p)).run shelf =
        (.ok [["bad.gltf", "box.gltf"], ["bad.gltf", "box.gltf"]], shelf) := by
    show (["*.gltf", "b*"].mapM fun p =>
      Job.within "listing src:a" (Job.listFiles "src:a" p)).run shelf = _
    simp only [List.mapM_cons, List.mapM_nil,
      Job.run_bind_of_ok (Job.run_within_eq_ok_iff.mpr hfirst),
      Job.run_bind_of_ok (Job.run_within_eq_ok_iff.mpr hsecond), bind_assoc, pure_bind]
    rfl
  have hnames : [["bad.gltf", "box.gltf"], ["bad.gltf", "box.gltf"]].flatten.eraseDups.mergeSort
      (fun a b => !decide (b < a)) = ["bad.gltf", "box.gltf"] := by
    have hdups : [["bad.gltf", "box.gltf"], ["bad.gltf", "box.gltf"]].flatten.eraseDups =
        ["bad.gltf", "box.gltf"] := by decide +kernel
    rw [hdups, List.mergeSort_of_pairwise (by decide +kernel)]
  refine (Job.run_bind_of_ok hfound _).trans (congrArg (fun names => (Except.ok names, shelf)) ?_)
  simp only [hnames]
  decide +kernel

/-- How assets ended. -/
def statuses : Except Failure (List ExportResult × Session) → List Status
  | .ok (rs, _) => rs.map (·.status)
  | _ => []

/-- Two patterns overlap, and the first of two documents is broken. Both are exported once, the
second one as on a session of its own, and one failure is counted. -/
theorem complete_isolated_shelf : ∃ rs s' d',
    (overlapping.exportCategory (fresh 0 default false) "a").run shelf =
      (.ok (.ok rs, s'), d'.note .info "category exported") ∧
    rs.map (·.status) = [.failed, .exported] ∧ s'.state = .isOpen ∧
    overlapping.Ledger default false shelf ["src:a/bad.gltf", "src:a/box.gltf"] rs d' ∧
    (∀ r ∈ rs, ∀ f, r.failure = some f → f.cause ≠ .invalidState) ∧
    tally "failed" d'.measures.assets = 1 := by
  have hsound : shelf.tree.Sound := ⟨by decide, by decide⟩
  obtain ⟨-, -, rs, s', d', hrun, hopen, hledger⟩ :=
    (complete_isolated overlapping (fresh 0 default false) rfl shelf hsound).1 "a" _ _ sources_shelf
  have hstatuses : rs.map (·.status) = [.failed, .exported] := by
    have heval : statuses ((overlapping.exportFiles (fresh 0 default false)
        ["src:a/bad.gltf", "src:a/box.gltf"]).run shelf).1 = [.failed, .exported] := by
      decide +kernel
    obtain ⟨rs₁, s₁, d₁, hfiles, -, -, -, hchain⟩ := exists_chain overlapping
      (s := fresh 0 default false) rfl ["src:a/bad.gltf", "src:a/box.gltf"] shelf
    rw [hfiles] at heval
    rw [(hledger.chain.unique hchain).1]
    exact heval
  have htally : tally "failed" d'.measures.assets = 1 := by
    have hcount : rs.countP (fun r => r.status.name = "failed") =
        (rs.map (·.status)).countP (·.name = "failed") := by
      rw [List.countP_map]
      rfl
    rw [(hledger.tallies (standard_discreet _ _ _) "failed").1, hcount, hstatuses]
    rfl
  exact ⟨rs, s', d', hrun, hstatuses, hopen, hledger, hledger.regular (standard_regular _ _ _), htally⟩

end Batch

end SceneForge
