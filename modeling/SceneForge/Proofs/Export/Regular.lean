import SceneForge.Proofs.Export.Refusals

set_option autoImplicit false

/-!
# Failures that sessions do not make

A call that does not fit the state of a session fails with a cause of its own. No other part of an
export has that cause: what files, documents, pictures, scenes and meshes fail with is told apart
from it, and contexts do not change a cause. So an open session that starts an export and ends it
never reports that cause, unless a part that was brought in from outside does.

## Main definitions

* `SceneForge.Regular` — a value of some kind, or a failure that no session made.
* `SceneForge.Job.Gives` — an action that gives such results.
* `SceneForge.Workshop.Regular` — the parts of a workshop are not sessions.

## Main results

* `SceneForge.Session.start_gives`, `SceneForge.Session.finish_regular` — the phases.
* `SceneForge.Workshop.standard_regular`, `SceneForge.Job.settingsFor_gives` — the usual parts.
-/

namespace SceneForge

open Job (Abides)

/-! ## Results and actions -/

/-- A value of some kind, or a failure that no session made. -/
def Regular {α : Type} (P : α → Prop) : Except Failure α → Prop
  | .ok a => P a
  | .error f => f.cause ≠ .invalidState

/-- Any value, or a failure that no session made. -/
abbrev Regular.Any {α : Type} (r : Except Failure α) : Prop := Regular (fun _ => True) r

/-- A failure is regular if its cause is. -/
lemma regular_iff_excused {α : Type} {P : α → Prop} {r : Except Failure α} :
    Regular P r ↔ Excused (· ≠ .invalidState) P r := by
  cases r <;> exact Iff.rfl

/-- Most causes that sessions do not have are regular. -/
lemma Cause.ne_invalidState_of_foreign (c : Cause) (h : ¬ c.OfSession) : c ≠ .invalidState :=
  fun hc => h (Or.inl hc)

/-- An action that gives values of some kind and fails like no session does, on every depot. -/
def Job.Gives {α : Type} (P : α → Prop) (job : Job α) : Prop := ∀ d, Regular P (job.run d).1

/-- An action gives what it gives on depots of any kind. -/
lemma Job.gives_iff_abides {α : Type} {P : α → Prop} {job : Job α} :
    Job.Gives P job ↔ Abides (fun _ => True) (· ≠ .invalidState) P job :=
  ⟨fun h d _ => ⟨trivial, regular_iff_excused.mp (h d)⟩,
    fun h d => regular_iff_excused.mpr (h d trivial).2⟩

open Job (Gives)

/-! ## Phases -/

/-- The parts of a workshop that write are not sessions: their failures have other causes. -/
structure Workshop.Regular (w : Workshop) : Prop where
  /-- Writing a mesh. -/
  saveMesh : ∀ uri m p, Gives (fun _ => True) (w.saveMesh uri m p)
  /-- Generating models. -/
  generate : ∀ s id p base flags mode, Gives (fun _ => True) (w.generate s id p base flags mode)

namespace Session

variable {w : Workshop} {s : Session}

/-- **Starting an export** on an open session. -/
lemma start_gives (hw : w.Regular) (hstate : s.state = .isOpen) (path : String)
    (settings : Settings) : Gives (fun r => Regular.Any r.1) (s.start w path settings) := by
  intro d
  obtain ⟨r, s', d', hrun, hstarts⟩ := exists_starts w s path settings d
  rw [hrun]
  cases hstarts with
  | misplaced state => exact absurd hstate state
  | invalid state bad =>
    show _ ≠ _
    rw [Settings.cause_of_validate bad]
    decide
  | current state good => exact Cause.noConfusion
  | unread state good load =>
    show Cause.sourceParse ≠ .invalidState
    decide
  | @broken f doc scene d₁ d₂ state good load stages =>
    have hsave : ∀ m, Abides (fun _ => True) (· ≠ .invalidState) (fun _ => True)
        (w.saveMesh (AssetId.ofPath path).mesh m s.platform) :=
      fun m => Job.gives_iff_abides.mp (hw.saveMesh _ m _)
    have hall := Stage.all_foreign Cause.ne_invalidState_of_foreign hsave (s.sceneFor path) doc settings
    exact (hall.of_run trivial stages).2
  | started state good load stages pending => exact trivial

/-- **Ending an export** that a session waits for. -/
lemma finish_regular (hw : w.Regular) {p : Pending} (hstate : s.state = .awaitingFinalize)
    (hpending : s.pending = some p) (howner : p.owner = s.owner) {d d' : Depot}
    {r : Except Failure Unit} {s' : Session} (h : (s.finish w (some p)).run d = (.ok (r, s'), d')) :
    Regular.Any r := by
  cases r with
  | ok a => exact trivial
  | error f =>
    obtain ⟨g, d₁, hgenerate, hsame⟩ := generate_of_finish_error hstate hpending howner h
    have hmodels := hw.generate (s.scene.getD {}) p.id s.platform p.id.basePath p.settings.flags
      p.settings.mode d
    rw [hgenerate] at hmodels
    exact hsame.trans_ne hmodels

end Session

/-! ## The usual parts -/

/-- **The parts of the usual workshop** are not sessions. -/
lemma Workshop.standard_regular (tools : Texture.Tools) : (Workshop.standard tools).Regular where
  saveMesh uri m p :=
    Job.gives_iff_abides.mpr (MeshFile.save_foreign Cause.ne_invalidState_of_foreign uri m p)
  generate s id p base flags mode := Job.gives_iff_abides.mpr
    (s.generateModels_foreign Cause.ne_invalidState_of_foreign id p base flags mode)

/-- **Attribute files** are read without a session. -/
lemma Job.settingsFor_gives (defaults : Settings) (id : AssetId) :
    Gives (fun _ => True) (Job.settingsFor defaults id) :=
  Job.gives_iff_abides.mpr (Job.settingsFor_foreign Cause.ne_invalidState_of_foreign defaults id)

end SceneForge
