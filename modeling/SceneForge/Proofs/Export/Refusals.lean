import SceneForge.Proofs.Export.Blame
import SceneForge.Proofs.Export.Independence

set_option autoImplicit false

/-!
# Calls without an effect

A call that does not fit the state of a session is refused, settings that are not acceptable are
refused, and an asset that is up to date is passed over. Then nothing happens: session and depot are
what they were before. A source that cannot be read is found out when the export is already running;
the session is rolled back, and since only reading took place, no file has changed either.

That a call was refused is told from the cause of its failure, so nothing else that an export does
may fail for the same cause: the causes that sessions have for themselves are no one else's.

## Main definitions

* `SceneForge.Depot.Untouched` — no file has changed, and no change was attempted.
* `SceneForge.Workshop.Candid` — the parts of a workshop only load by reading, and leave the causes
  of sessions alone.
* `SceneForge.Call.Fails` — the failure of a call, with the session and the depot it leaves.
* `SceneForge.Session.Starts` — everything that starting an export can do.

## Main results

* `SceneForge.Workshop.standard_candid` — the usual parts are candid.
* `SceneForge.Session.no_effect_of_refused` — refused calls have no effect.
-/

namespace SceneForge

open Job (Abides Steps)

/-! ## Candid parts -/

/-- Files, areas, the world and the journal of changes are the same. -/
structure Depot.Untouched (d d' : Depot) : Prop where
  /-- The files are the same. -/
  tree : d'.tree = d.tree
  /-- The areas are the same. -/
  assigns : d'.assigns = d.assigns
  /-- The world is the same. -/
  world : d'.world = d.world
  /-- No change was attempted. -/
  journal : d'.journal = d.journal

/-- A depot is left untouched one step after the other. -/
instance Depot.lawful_untouched : Depot.Lawful Depot.Untouched where
  quiet htree hassigns hworld hjournal _ _ := ⟨htree, hassigns, hworld, hjournal⟩
  trans h h' := ⟨h'.tree.trans h.tree, h'.assigns.trans h.assigns, h'.world.trans h.world,
    h'.journal.trans h.journal⟩

/-- An action that leaves the causes of sessions alone. -/
def Job.Candid {α : Type} (job : Job α) : Prop :=
  ∀ d f d', job.run d = (.error f, d') → ¬ f.cause.OfSession

/-- The parts of a workshop only load by reading, and leave the causes of sessions alone. Whatever a
document cannot be loaded for, or a picture cannot be converted for, is replaced. -/
structure Workshop.Candid (w : Workshop) : Prop where
  /-- Loading a document changes nothing. -/
  load : ∀ uri, Steps Depot.Untouched (w.load uri)
  /-- Writing a mesh does not fail like a session. -/
  saveMesh : ∀ uri m p, (w.saveMesh uri m p).Candid
  /-- Generating models does not fail like a session. -/
  generate : ∀ s id p base flags mode, (w.generate s id p base flags mode).Candid

namespace Job

variable {α : Type} {job : Job α}

/-- On every depot, causes of sessions are left alone. -/
lemma candid_iff_abides :
    job.Candid ↔ Abides (fun _ => True) (¬ ·.OfSession) (fun _ => True) job := by
  constructor
  · refine fun h d _ => ⟨trivial, ?_⟩
    cases hr : (job.run d).1 with
    | error f => exact h d f _ (Prod.ext hr rfl)
    | ok a => exact trivial
  · exact fun h d f d' hrun => (h.of_run trivial hrun).2

end Job

/-- **The usual parts are candid.** -/
lemma Workshop.standard_candid (tools : Texture.Tools) : (Workshop.standard tools).Candid where
  load := Document.load_steps
  saveMesh uri m p := Job.candid_iff_abides.mpr (MeshFile.save_foreign (fun _ h => h) uri m p)
  generate s id p base flags mode :=
    Job.candid_iff_abides.mpr (s.generateModels_foreign (fun _ h => h) id p base flags mode)

/-- The stages of the first phase do not fail like a session. -/
lemma Stage.candid_of_all {w : Workshop} (hw : w.Candid) {platform : Platform}
    {scene scene' : Scene} {doc : Document} {id : AssetId} {settings : Settings} {d d' : Depot}
    {f : Failure} (h : (all w platform scene doc id settings).run d = (.ok (.error f, scene'), d')) :
    ¬ f.cause.OfSession := by
  have hall := all_foreign (S := (¬ ·.OfSession)) (fun _ h => h)
    (fun m => Job.candid_iff_abides.mp (hw.saveMesh id.mesh m platform)) scene doc settings
  exact (hall.of_run trivial h).2

/-! ## Calls -/

/-- The failure of a call, with the session and the depot it leaves. -/
inductive Call.Fails (w : Workshop) (s : Session) (d : Depot) :
    Call → Failure → Session → Depot → Prop where
  /-- Opening fails. -/
  | acquire {f : Failure} {s' : Session} (run : s.acquire = (.error f, s')) :
      Fails w s d .acquire f s' d
  /-- Closing fails. -/
  | close {f : Failure} {s' : Session} (run : s.close = (.error f, s')) : Fails w s d .close f s' d
  /-- Starting an export fails. -/
  | start {path : String} {settings : Settings} {f : Failure} {s' : Session} {d' : Depot}
      (run : (s.start w path settings).run d = (.ok (.error f, s'), d')) :
      Fails w s d (.start path settings) f s' d'
  /-- Ending an export fails. -/
  | finish {p? : Option Pending} {f : Failure} {s' : Session} {d' : Depot}
      (run : (s.finish w p?).run d = (.ok (.error f, s'), d')) : Fails w s d (.finish p?) f s' d'

namespace Session

/-- The scene that the asset at a path is put together in. -/
def sceneFor (s : Session) (path : String) : Scene :=
  { s.scene.getD {} with
    name := (AssetId.ofPath path).name, category := (AssetId.ofPath path).category }

/-- Everything that starting an export can do. -/
inductive Starts (w : Workshop) (s : Session) (path : String) (settings : Settings) (d : Depot) :
    Except Failure Pending → Session → Depot → Prop where
  /-- The session is not open. -/
  | misplaced (state : s.state ≠ .isOpen) :
      Starts w s path settings d (.error (s.misplaced "start export")) s d
  /-- The settings are not acceptable. -/
  | invalid {f : Failure} (state : s.state = .isOpen) (bad : settings.validate = .error f) :
      Starts w s path settings d (.error f) s d
  /-- The asset is up to date. -/
  | current (state : s.state = .isOpen) (good : settings.validate = .ok ())
      (fresh : s.force = false ∧ d.needsExport path = false) :
      Starts w s path settings d (.error ⟨.upToDate, []⟩) s d
  /-- The source cannot be loaded. -/
  | unread {f : Failure} {d₁ : Depot} (state : s.state = .isOpen)
      (good : settings.validate = .ok ())
      (load : (w.load (AssetId.ofPath path).source).run d = (.error f, d₁)) :
      Starts w s path settings d
        (.error ⟨.sourceParse, [(AssetId.ofPath path).source, f.message]⟩) s.release
        { d₁ with notices := d₁.notices ++ [{ severity := .warn, text := "export failed" }] }
  /-- A stage fails. -/
  | broken {f : Failure} {doc : Document} {scene : Scene} {d₁ d₂ : Depot} (state : s.state = .isOpen)
      (good : settings.validate = .ok ())
      (load : (w.load (AssetId.ofPath path).source).run d = (.ok doc, d₁))
      (stages : (Stage.all w s.platform (s.sceneFor path) doc (AssetId.ofPath path) settings).run d₁ =
        (.ok (.error f, scene), d₂)) :
      Starts w s path settings d (.error f) { s.release with scene := some scene }
        { d₂ with notices := d₂.notices ++ [{ severity := .warn, text := "export failed" }] }
  /-- The export waits for its end. -/
  | started {stats : Stats} {doc : Document} {scene : Scene} {p : Pending} {d₁ d₂ : Depot}
      (state : s.state = .isOpen) (good : settings.validate = .ok ())
      (load : (w.load (AssetId.ofPath path).source).run d = (.ok doc, d₁))
      (stages : (Stage.all w s.platform (s.sceneFor path) doc (AssetId.ofPath path) settings).run d₁ =
        (.ok (.ok stats, scene), d₂))
      (pending : p = ⟨s.owner, s.serial, AssetId.ofPath path, settings, stats⟩) :
      Starts w s path settings d (.ok p) { s with
        state := .awaitingFinalize, doc := some doc, scene := some scene, pending := some p,
        serial := s.serial + 1 } d₂

variable {w : Workshop} {s s' : Session} {path : String} {settings : Settings} {d d' : Depot}

/-- Starting an export always gives a result.

**Proof sketch.** Along the checks of the first phase: the state, the settings, whether anything is
stale, the document, the stages. Where one fails, the result is that of the case named after it;
where none does, the export was started. -/
lemma exists_starts (w : Workshop) (s : Session) (path : String) (settings : Settings) (d : Depot) :
    ∃ r s' d', (s.start w path settings).run d = (.ok (r, s'), d') ∧
      Starts w s path settings d r s' d' := by
  by_cases hstate : s.state = .isOpen
  swap
  · exact ⟨_, s, d, by rw [start, if_pos hstate]; rfl, .misplaced hstate⟩
  rw [start, if_neg (not_not.mpr hstate)]
  cases hvalid : settings.validate with
  | error f => exact ⟨_, s, d, rfl, .invalid hstate hvalid⟩
  | ok _ =>
    simp only
    rw [Job.run_bind_of_ok (Job.run_look _ d)]
    split_ifs with hfresh
    · exact ⟨_, s, d, rfl, .current hstate hvalid (by simpa using hfresh)⟩
    obtain ⟨loaded, d₁, hload⟩ : ∃ r d₁, (w.load (AssetId.ofPath path).source).run d = (r, d₁) :=
      ⟨_, _, rfl⟩
    have hattempt := Job.run_attempt_eq_ok_iff.mpr hload
    cases loaded with
    | error f =>
      refine ⟨_, _, _, ?_, .unread hstate hvalid hload⟩
      rw [Job.run_bind, run, Job.run_bind_of_ok hattempt]
      rfl
    | ok doc =>
      obtain ⟨r, scene, d₂, hall⟩ := Stage.exists_run_all w s.platform (s.sceneFor path) doc
        (AssetId.ofPath path) settings d₁
      have hrun : (run w { s with state := .exporting } (AssetId.ofPath path) settings).run d = (.ok
          (r, { s with state := .exporting, doc := some doc, scene := some scene }), d₂) := by
        have hscene := hall
        unfold sceneFor at hscene
        rw [run, Job.run_bind_of_ok hattempt]
        simp only
        rw [Job.run_bind_of_ok hscene]
        rfl
      rw [Job.run_bind_of_ok hrun]
      cases r with
      | error f => exact ⟨_, _, _, rfl, .broken hstate hvalid hload hall⟩
      | ok stats => exact ⟨_, _, _, rfl, .started hstate hvalid hload hall rfl⟩

/-- **What starting an export does** is one of these. -/
lemma starts_of_start {r : Except Failure Pending}
    (h : (s.start w path settings).run d = (.ok (r, s'), d')) : Starts w s path settings d r s' d' := by
  obtain ⟨r₁, s₁, d₁, hrun, hstarts⟩ := exists_starts w s path settings d
  cases hrun.symm.trans h
  exact hstarts

/-- A session that calls have led to is settled. -/
lemma Reached.settled {owner : Nat} {platform : Platform} {force : Bool}
    (h : Reached w (created owner platform force) s) : s.Settled := by
  induction h with
  | init => exact ⟨Or.inl rfl, by simp [created], by simp [created], by simp [created]⟩
  | call past ends ih => exact ih.moves ends.moves

/-- A settled session that is open is as it is after a release. -/
lemma Settled.release_eq (hs : s.Settled) (hopen : s.state = .isOpen) : s.release = s := by
  have hpending : s.pending = none := by
    simpa [hopen] using hs.pending
  have hdoc : s.doc = none := by
    simpa [hopen] using hs.doc
  cases s
  simp_all [release]

/-- Loading a document that fails, and saying so, leaves a depot untouched. -/
lemma untouched_of_load (hw : w.Candid) {uri : String} {f : Failure} {d₁ : Depot}
    (h : (w.load uri).run d = (.error f, d₁)) (notices : List Notice) :
    d.Untouched { d₁ with notices } := by
  have hload := hw.load uri d
  rw [h] at hload
  exact ⟨hload.tree, hload.assigns, hload.world, hload.journal⟩

/-- Ending an export that a session waits for fails because generating the models does. -/
lemma generate_of_finish_error {p : Pending} {f : Failure} (hstate : s.state = .awaitingFinalize)
    (hpending : s.pending = some p) (howner : p.owner = s.owner)
    (h : (s.finish w (some p)).run d = (.ok (.error f, s'), d')) :
    ∃ g d₁, (w.generate (s.scene.getD {}) p.id s.platform p.id.basePath p.settings.flags
      p.settings.mode).run d = (.error g, d₁) ∧ f.cause = g.cause := by
  rw [finish_run_of_current hstate hpending howner] at h
  generalize (w.generate (s.scene.getD {}) p.id s.platform p.id.basePath p.settings.flags
    p.settings.mode).run d = result at h
  obtain ⟨g | _, d₁⟩ := result
  · cases h
    exact ⟨g, d₁, rfl, rfl⟩
  · cases h

/-- A call that is refused, or that has nothing to do, leaves everything as it was.

**Proof sketch.** By the call. Acquiring and closing check the state before anything else, and so do
the phases; there nothing was changed. Loading and the stages are candid, that is, they never fail
with a cause of the session's own, which excludes the remaining cases. -/
lemma eq_of_fails (hw : w.Candid) {c : Call} {f : Failure} (h : c.Fails w s d f s' d')
    (hcause : f.cause = .invalidState ∨ f.cause = .upToDate) : s' = s ∧ d' = d := by
  have hown : f.cause.OfSession := hcause.imp_right Or.inl
  cases h with
  | acquire run =>
    unfold acquire at run
    split_ifs at run
    · cases run
      exact ⟨rfl, rfl⟩
    · cases run
  | close run =>
    unfold close at run
    split_ifs at run
    · cases run
      exact ⟨rfl, rfl⟩
    · cases run
  | start run =>
    cases starts_of_start run with
    | misplaced state => exact ⟨rfl, rfl⟩
    | invalid state bad => exact ⟨rfl, rfl⟩
    | current state good => exact ⟨rfl, rfl⟩
    | unread state good load => simp at hcause
    | broken state good load stages => exact absurd hown (Stage.candid_of_all hw stages)
  | @finish p? f s' d' run =>
    cases hgen : (Call.finish p?).generates s with
    | none =>
      obtain ⟨g, hg⟩ := finish_of_generates_eq_none hgen
      rw [hg w] at run
      cases run
      exact ⟨rfl, rfl⟩
    | some p =>
      obtain ⟨hcall, hstate, hpending, howner⟩ := Call.generates_eq_some_iff.mp hgen
      cases hcall
      obtain ⟨g, d₁, hgenerate, hsame⟩ := generate_of_finish_error hstate hpending howner run
      rw [hsame] at hown
      exact absurd hown (hw.generate _ _ _ _ _ _ _ _ _ hgenerate)

/-- Settings that are not acceptable are refused. -/
lemma start_of_invalid {g : Failure} (hbad : settings.validate = .error g) (w : Workshop)
    (s : Session) (path : String) (d : Depot) :
    ∃ f, (s.start w path settings).run d = (.ok (.error f, s), d) := by
  obtain ⟨r, s', d', hrun, hstarts⟩ := exists_starts w s path settings d
  rw [hrun]
  cases hstarts with
  | misplaced state => exact ⟨_, rfl⟩
  | invalid state bad => exact ⟨_, rfl⟩
  | current state good => cases good.symm.trans hbad
  | unread state good load => cases good.symm.trans hbad
  | broken state good load stages => cases good.symm.trans hbad
  | started state good load stages pending => cases good.symm.trans hbad

/-- A source that cannot be loaded is not exported, and nothing happens. -/
lemma start_of_unread (hw : w.Candid) (hs : s.Settled) {g : Failure} {d₁ : Depot}
    (hload : (w.load (AssetId.ofPath path).source).run d = (.error g, d₁)) (settings : Settings) :
    ∃ f d', (s.start w path settings).run d = (.ok (.error f, s), d') ∧ d.Untouched d' := by
  have hsame : d.Untouched d := ⟨rfl, rfl, rfl, rfl⟩
  obtain ⟨r, s', d', hrun, hstarts⟩ := exists_starts w s path settings d
  rw [hrun]
  cases hstarts with
  | misplaced state => exact ⟨_, d, rfl, hsame⟩
  | invalid state bad => exact ⟨_, d, rfl, hsame⟩
  | current state good => exact ⟨_, d, rfl, hsame⟩
  | unread state good load =>
    rw [hs.release_eq state]
    exact ⟨_, _, rfl, untouched_of_load hw load _⟩
  | broken state good load stages => cases load.symm.trans hload
  | started state good load stages pending => cases load.symm.trans hload

/-- A failure that is put down to the source comes from a session that is open and stays as it was.
-/
lemma of_sourceParse (hw : w.Candid) (hs : s.Settled) {f : Failure}
    (h : (s.start w path settings).run d = (.ok (.error f, s'), d')) (hcause : f.cause = .sourceParse) :
    s' = s ∧ s.state = .isOpen ∧ d.Untouched d' := by
  have hown : f.cause.OfSession := Or.inr (Or.inr hcause)
  cases starts_of_start h with
  | misplaced state => cases hcause
  | invalid state bad => cases (Settings.cause_of_validate bad).symm.trans hcause
  | current state good => cases hcause
  | unread state good load => exact ⟨hs.release_eq state, state, untouched_of_load hw load _⟩
  | broken state good load stages => exact absurd hown (Stage.candid_of_all hw stages)

/-- **Refused calls have no effect.** A call that fails because it does not fit the state of the
session, or because the asset is up to date, leaves session and depot as they were; so does starting
an export with settings that are not acceptable. When the source cannot be loaded, starting an
export fails, the session is what it was, and no file has changed; if that is the failure that is
reported, the session is open and waits for nothing. The parts of the session may be any that are
candid, and the usual ones are.

**Proof sketch.** What starting an export can do is gone through case by case. Everything that comes
  after loading fails for causes that are no session's, and so does generating models. The only case
  in which the session has changed on the way is that of a source that cannot be loaded: it is
  released, and since a session between calls is settled, that is what it was. -/
theorem no_effect_of_refused : (∀ tools, (Workshop.standard tools).Candid) ∧
    ∀ (w : Workshop) (owner : Nat) (platform : Platform) (force : Bool) (s : Session) (d : Depot),
      w.Candid → Reached w (created owner platform force) s →
      (∀ c f s' d', Call.Fails w s d c f s' d' →
        f.cause = .invalidState ∨ f.cause = .upToDate → s' = s ∧ d' = d) ∧
      (∀ path settings g, Settings.validate settings = .error g →
        ∃ f, (s.start w path settings).run d = (.ok (.error f, s), d)) ∧
      (∀ path settings g d₁, (w.load (AssetId.ofPath path).source).run d = (.error g, d₁) →
        ∃ f d', (s.start w path settings).run d = (.ok (.error f, s), d') ∧ d.Untouched d') ∧
      ∀ path settings f s' d', (s.start w path settings).run d = (.ok (.error f, s'), d') →
        f.cause = .sourceParse → s' = s ∧ s.state = .isOpen ∧ s.scene.isSome ∧ s.doc = none ∧
          s.pending = none ∧ d.Untouched d' := by
  refine ⟨Workshop.standard_candid, fun w owner platform force s d hw hreached => ?_⟩
  have hs := hreached.settled
  refine ⟨fun c f s' d' hfails hcause => eq_of_fails hw hfails hcause,
    fun path settings g hbad => start_of_invalid hbad w s path d,
    fun path settings g d₁ hload => start_of_unread hw hs hload settings,
    fun path settings f s' d' hstart hcause => ?_⟩
  obtain ⟨hsame, hopen, huntouched⟩ := of_sourceParse hw hs hstart hcause
  have hwaits : s.state ≠ .awaitingFinalize := by simp [hopen]
  refine ⟨hsame, hopen, hs.scene.mpr (by simp [hopen]), ?_, ?_, huntouched⟩
  · exact Option.not_isSome_iff_eq_none.mp fun h => hwaits (hs.doc.mp h)
  · exact Option.not_isSome_iff_eq_none.mp fun h => hwaits (hs.pending.mp h)

/-- An open session is opened once more, and starts the export of a source that is not there. -/
theorem no_effect_of_refused_missing : ∃ (s : Session) (f g : Failure) (d' : Depot),
    Reached (.standard {}) (created 0 default false) s ∧ s.state = .isOpen ∧
    (∀ s' d', Call.Fails (.standard {}) s History.unexported .acquire f s' d' →
      s' = s ∧ d' = History.unexported) ∧
    Call.Fails (.standard {}) s History.unexported .acquire f s History.unexported ∧
    (s.start (.standard {}) "a/none.gltf" {}).run History.unexported = (.ok (.error g, s), d') ∧
    History.unexported.Untouched d' := by
  obtain ⟨hcandid, hall⟩ := no_effect_of_refused
  have hreached : Reached (.standard {}) (created 0 default false)
      (created 0 default false).acquire.2 := .call (d := History.unexported) .init .acquire
  obtain ⟨hrefused, -, hunread, -⟩ := hall _ 0 default false _ History.unexported (hcandid {}) hreached
  have hmissing : ((Document.load (AssetId.ofPath "a/none.gltf").source).run
      History.unexported).1.toOption.isNone = true := by
    decide +kernel
  cases hload : ((Document.load (AssetId.ofPath "a/none.gltf").source).run History.unexported).1 with
  | ok doc =>
    rw [hload] at hmissing
    cases hmissing
  | error f =>
    obtain ⟨g, d', hrun, huntouched⟩ := hunread "a/none.gltf" {} f _ (Prod.ext hload rfl)
    refine ⟨_, _, g, d', hreached, rfl, fun s' d' hfails => ?_, .acquire rfl, hrun, huntouched⟩
    exact hrefused .acquire _ s' d' hfails (Or.inl rfl)

end Session

end SceneForge
