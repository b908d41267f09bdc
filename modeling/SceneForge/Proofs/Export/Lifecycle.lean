import Mathlib.Data.List.Nodup
import Mathlib.Logic.Function.Basic
import SceneForge.Export.Session
import SceneForge.Proofs.Depot.Outcome

set_option autoImplicit false

/-!
# The life of sessions

Any number of sessions is opened, closed and used for exports in any order; whatever the parts of an
export do, and whatever happens to the files in between. What a call can do to a session is said
once. From that follow what holds of every session between two calls, and that the models of a
pending export are generated at most once, by the session that produced it and while it waits for
it.

## Main definitions

* `SceneForge.Call`, `SceneForge.Call.Ends` — calls on a session, and how they end.
* `SceneForge.Call.generates` — the pending export whose models a call generates.
* `SceneForge.Session.Moves` — what a call can do to a session.
* `SceneForge.Session.Settled` — a session between two calls.
* `SceneForge.History` — calls on sessions one after the other, with a log.

## Main results

* `SceneForge.Call.exists_ends` — every call ends.
* `SceneForge.Call.Ends.moves` — how a call that ended has moved its session.
* `SceneForge.History.lifecycle` — what holds after every history.
-/

namespace SceneForge

/-! ## Calls -/

/-- A call on a session. -/
inductive Call where
  /-- The session is opened. -/
  | acquire
  /-- The session is closed. -/
  | close
  /-- The export of an asset is started. -/
  | start (path : String) (settings : Settings)
  /-- An export is ended: one that some session produced, none at all, or a made-up one. -/
  | finish (p? : Option Pending)

namespace Call

/-- How a call on a session ends: the session and the depot that it leaves, and the pending export
that it produced. -/
inductive Ends (w : Workshop) (s : Session) (d : Depot) :
    Call → Session → Depot → Option Pending → Prop where
  /-- Opening does not touch the depot. -/
  | acquire : Ends w s d .acquire s.acquire.2 d none
  /-- Closing does not touch the depot. -/
  | close : Ends w s d .close s.close.2 d none
  /-- Starting produces a pending export if it succeeds. -/
  | start {path : String} {settings : Settings} {r : Except Failure Pending} {s' : Session}
      {d' : Depot} (run : (s.start w path settings).run d = (.ok (r, s'), d')) :
      Ends w s d (.start path settings) s' d' r.toOption
  /-- Ending produces nothing. -/
  | finish {p? : Option Pending} {r : Except Failure Unit} {s' : Session} {d' : Depot}
      (run : (s.finish w p?).run d = (.ok (r, s'), d')) : Ends w s d (.finish p?) s' d' none

/-- The pending export whose models a call on a session generates. -/
def generates (s : Session) : Call → Option Pending
  | finish (some p) =>
    if s.state = .awaitingFinalize ∧ s.pending = some p ∧ p.owner = s.owner then some p else none
  | _ => none

/-- Only ending an export that a session waits for generates models. -/
lemma generates_eq_some_iff {s : Session} {c : Call} {p : Pending} :
    c.generates s = some p ↔ c = .finish (some p) ∧ s.state = .awaitingFinalize ∧
      s.pending = some p ∧ p.owner = s.owner := by
  cases c with
  | finish p? =>
    cases p? with
    | none => simp [generates]
    | some q =>
      simp only [generates, Option.ite_none_right_eq_some, Option.some.injEq, finish.injEq]
      constructor
      · rintro ⟨h, rfl⟩
        exact ⟨rfl, h⟩
      · rintro ⟨rfl, h⟩
        exact ⟨h, rfl⟩
  | _ => simp [generates]

end Call

/-- The stages are attempted, so there is a result and a scene in any case. -/
lemma Stage.exists_run_all (w : Workshop) (platform : Platform) (scene : Scene) (doc : Document)
    (id : AssetId) (settings : Settings) (d : Depot) :
    ∃ r scene' d', (Stage.all w platform scene doc id settings).run d = (.ok (r, scene'), d') := by
  rw [Stage.all, Job.run_bind, Job.run_attempt]
  split
  · rename_i first d₁ hfirst
    rcases first with f | ⟨t, n⟩
    · exact ⟨_, _, _, rfl⟩
    · exact ⟨_, _, _, rfl⟩
  · rename_i h
    cases h

namespace Session

variable {w : Workshop} {s : Session}

/-- How ending an export ends, its models having been generated. -/
def concluded (s : Session) :
    Except Failure Unit × Depot → Except Failure (Except Failure Unit × Session) × Depot
  | (.ok _, d) => (.ok (.ok (), s.release), d)
  | (.error f, d) => (.ok (.error (f.within "generating models"), s.release),
      { d with notices := d.notices ++ [{ severity := .warn, text := "model generation failed" }] })

/-- **Ending an export that a session waits for** generates its models once, and the session is
released whatever comes of it. -/
lemma finish_run_of_current {p : Pending} (hstate : s.state = .awaitingFinalize)
    (hpending : s.pending = some p) (howner : p.owner = s.owner) (w : Workshop) (d : Depot) :
    (s.finish w (some p)).run d = s.concluded ((w.generate (s.scene.getD {}) p.id s.platform
      p.id.basePath p.settings.flags p.settings.mode).run d) := by
  have hcurrent : ¬ (s.pending ≠ some p ∨ p.owner ≠ s.owner) := by simp [hpending, howner]
  rw [finish, if_neg (not_not.mpr hstate)]
  simp only [if_neg hcurrent, Job.run_bind, Job.run_attempt]
  rcases (w.generate (s.scene.getD {}) p.id s.platform p.id.basePath p.settings.flags
    p.settings.mode).run d with ⟨f | _, d'⟩
  · rfl
  · rfl

/-- Ending anything else is refused, whatever the parts of an export are. -/
lemma finish_of_generates_eq_none {p? : Option Pending} (h : (Call.finish p?).generates s = none) :
    ∃ f, ∀ w : Workshop, s.finish w p? = pure (.error f, s) := by
  by_cases hstate : s.state = .awaitingFinalize
  · cases p? with
    | none =>
      refine ⟨finish.foreign, fun w => ?_⟩
      rw [finish.eq_def, if_neg (not_not.mpr hstate)]
    | some p =>
      have hforeign : s.pending ≠ some p ∨ p.owner ≠ s.owner := by
        by_contra hne
        rw [not_or, not_not, not_not] at hne
        rw [Call.generates, if_pos ⟨hstate, hne⟩] at h
        cases h
      refine ⟨finish.foreign, fun w => ?_⟩
      rw [finish.eq_def, if_neg (not_not.mpr hstate)]
      exact if_pos hforeign
  · exact ⟨misplaced "end export" s, fun w => by rw [finish.eq_def, if_pos hstate]⟩

/-! ## What a call can do -/

/-- What a call can do to a session, and the pending export that it can produce. -/
inductive Moves (s : Session) : Call → Session → Option Pending → Prop where
  /-- Nothing: the call is refused, or there is nothing to do. -/
  | refused {c : Call} (idle : c.generates s = none) : Moves s c s none
  /-- A closed session gets a scene. -/
  | opened (state : s.state = .closed) :
      Moves s .acquire { s with state := .isOpen, scene := some {} } none
  /-- An open session gives its scene away. -/
  | closed (state : s.state = .isOpen) : Moves s .close { s with state := .closed, scene := none } none
  /-- An export is started and fails; a scene is still there. -/
  | failed {path : String} {settings : Settings} {scene : Option Scene} (state : s.state = .isOpen)
      (held : scene = s.scene ∨ scene.isSome) :
      Moves s (.start path settings) { s.release with scene } none
  /-- An export is started and waits for its end. -/
  | started {path : String} {settings : Settings} {scene : Scene} {doc : Document} {p : Pending}
      (state : s.state = .isOpen) (owner : p.owner = s.owner) (serial : p.serial = s.serial) :
      Moves s (.start path settings) { s with
        state := .awaitingFinalize, scene := some scene, doc := some doc, pending := some p,
        serial := s.serial + 1 } (some p)
  /-- The export that the session waits for is ended. -/
  | finished {p : Pending} (current : (Call.finish (some p)).generates s = some p) :
      Moves s (.finish (some p)) s.release none

/-- What the first phase can do: it fails before there is a document, or it has a document and a
scene when it fails or succeeds. -/
lemma run_cases (w : Workshop) (s : Session) (id : AssetId) (settings : Settings) (d : Depot) :
    ∃ r s' d', (s.run w id settings).run d = (.ok (r, s'), d') ∧
      ((∃ f, r = .error f) ∧ s' = s ∨
        ∃ doc scene, s' = { s with doc := some doc, scene := some scene }) := by
  have hattempt := Job.run_attempt (w.load id.source) d
  cases hload : ((w.load id.source).run d).1 with
  | error f =>
    rw [hload] at hattempt
    rw [run, Job.run_bind_of_ok hattempt]
    exact ⟨_, s, _, rfl, Or.inl ⟨⟨_, rfl⟩, rfl⟩⟩
  | ok doc =>
    rw [hload] at hattempt
    rw [run, Job.run_bind_of_ok hattempt]
    obtain ⟨r, scene, d', hall⟩ := Stage.exists_run_all w s.platform
      { s.scene.getD {} with name := id.name, category := id.category } doc id settings
      ((w.load id.source).run d).2
    simp only
    rw [Job.run_bind_of_ok hall]
    exact ⟨r, _, d', rfl, Or.inr ⟨doc, scene, rfl⟩⟩

/-- **What starting an export can do**: it always gives a result. -/
lemma start_moves (w : Workshop) (s : Session) (path : String) (settings : Settings) (d : Depot) :
    ∃ r s' d', (s.start w path settings).run d = (.ok (r, s'), d') ∧
      s.Moves (.start path settings) s' r.toOption := by
  by_cases hstate : s.state = .isOpen
  swap
  · exact ⟨_, s, d, by rw [start, if_pos hstate]; rfl, .refused rfl⟩
  rw [start, if_neg (not_not.mpr hstate)]
  cases settings.validate with
  | error f => exact ⟨_, s, d, rfl, .refused rfl⟩
  | ok _ =>
    simp only
    rw [Job.run_bind_of_ok (Job.run_look _ d)]
    split_ifs
    · exact ⟨_, s, d, rfl, .refused rfl⟩
    · obtain ⟨r, s', d', hrun, hcases⟩ :=
        run_cases w { s with state := .exporting } (AssetId.ofPath path) settings d
      rw [Job.run_bind_of_ok hrun]
      rcases hcases with ⟨⟨f, rfl⟩, rfl⟩ | ⟨doc, scene, rfl⟩
      · exact ⟨_, _, _, rfl, .failed hstate (Or.inl rfl)⟩
      · cases r with
        | error f =>
          exact ⟨_, _, _, rfl, .failed hstate (Or.inr (Option.isSome_some : (some scene).isSome))⟩
        | ok stats => exact ⟨_, _, _, rfl, .started hstate rfl rfl⟩

/-- What ending an export can do: it always gives a result. -/
lemma finish_moves (w : Workshop) (s : Session) (p? : Option Pending) (d : Depot) :
    ∃ r s' d', (s.finish w p?).run d = (.ok (r, s'), d') ∧ s.Moves (.finish p?) s' none := by
  cases hgen : (Call.finish p?).generates s with
  | none =>
    obtain ⟨f, hf⟩ := finish_of_generates_eq_none hgen
    exact ⟨_, s, d, by rw [hf w]; rfl, .refused hgen⟩
  | some p =>
    obtain ⟨hcall, hstate, hpending, howner⟩ := Call.generates_eq_some_iff.mp hgen
    cases hcall
    rw [finish_run_of_current hstate hpending howner]
    rcases (w.generate (s.scene.getD {}) p.id s.platform p.id.basePath p.settings.flags
      p.settings.mode).run d with ⟨f | _, d'⟩
    · exact ⟨_, _, _, rfl, .finished hgen⟩
    · exact ⟨_, _, _, rfl, .finished hgen⟩

end Session

namespace Call

variable {w : Workshop} {s s' : Session} {d d' : Depot} {c : Call} {issued : Option Pending}

/-- **Every call ends.** -/
lemma exists_ends (w : Workshop) (s : Session) (d : Depot) (c : Call) :
    ∃ s' d' issued, c.Ends w s d s' d' issued := by
  cases c with
  | acquire => exact ⟨_, _, _, .acquire⟩
  | close => exact ⟨_, _, _, .close⟩
  | start path settings =>
    obtain ⟨r, s', d', h, -⟩ := Session.start_moves w s path settings d
    exact ⟨_, _, _, .start h⟩
  | finish p? =>
    obtain ⟨r, s', d', h, -⟩ := Session.finish_moves w s p? d
    exact ⟨_, _, _, .finish h⟩

/-- **A call that ended has moved its session** in one of the ways that are possible. -/
lemma Ends.moves (h : c.Ends w s d s' d' issued) : s.Moves c s' issued := by
  cases h with
  | acquire =>
    by_cases hstate : s.state = .closed
    · rw [Session.acquire, if_neg (not_not.mpr hstate)]
      exact .opened hstate
    · rw [Session.acquire, if_pos hstate]
      exact .refused rfl
  | close =>
    by_cases hstate : s.state = .isOpen
    · rw [Session.close, if_neg (not_not.mpr hstate)]
      exact .closed hstate
    · rw [Session.close, if_pos hstate]
      exact .refused rfl
  | start run =>
    obtain ⟨r, s'', d'', hrun, hmoves⟩ := Session.start_moves w s _ _ d
    rw [run] at hrun
    cases hrun
    exact hmoves
  | finish run =>
    obtain ⟨r, s'', d'', hrun, hmoves⟩ := Session.finish_moves w s _ d
    rw [run] at hrun
    cases hrun
    exact hmoves

/-- A call that generates no models ends in the same way whatever generates them. -/
lemma ends_generate_iff (hgen : c.generates s = none)
    (g : Scene → AssetId → Platform → String → Flags → Mode → Job Unit) :
    c.Ends { w with generate := g } s d s' d' issued ↔ c.Ends w s d s' d' issued := by
  have hswap : ∀ w₁ w₂ : Workshop, (∀ path settings, s.start w₁ path settings =
      s.start w₂ path settings) → c.Ends w₁ s d s' d' issued → c.Ends w₂ s d s' d' issued := by
    intro w₁ w₂ hstart h
    cases h with
    | acquire => exact .acquire
    | close => exact .close
    | start run => exact .start (hstart _ _ ▸ run)
    | finish run =>
      obtain ⟨f, hf⟩ := Session.finish_of_generates_eq_none hgen
      rw [hf w₁, ← hf w₂] at run
      exact .finish run
  -- Starting an export never looks at what generates the models.
  exact ⟨hswap _ _ fun _ _ => rfl, hswap _ _ fun _ _ => rfl⟩

end Call

/-! ## Between calls -/

/-- A session between two calls. -/
structure Session.Settled (s : Session) : Prop where
  /-- It is not in the middle of an export. -/
  state : s.state = .closed ∨ s.state = .isOpen ∨ s.state = .awaitingFinalize
  /-- It holds a scene unless it is closed. -/
  scene : s.scene.isSome ↔ s.state ≠ .closed
  /-- It holds a pending export exactly if it waits for the end of one. -/
  pending : s.pending.isSome ↔ s.state = .awaitingFinalize
  /-- It holds a document exactly if it waits for the end of an export. -/
  doc : s.doc.isSome ↔ s.state = .awaitingFinalize

/-- A call leaves a settled session settled. -/
lemma Session.Settled.moves {s s' : Session} {c : Call} {issued : Option Pending} (hs : s.Settled)
    (h : s.Moves c s' issued) : s'.Settled := by
  cases h with
  | refused _ => exact hs
  | opened state =>
    have hpending := hs.pending
    have hdoc := hs.doc
    rw [state] at hpending hdoc
    exact ⟨Or.inr (Or.inl rfl), by simp, by simpa using hpending, by simpa using hdoc⟩
  | closed state =>
    have hpending := hs.pending
    have hdoc := hs.doc
    rw [state] at hpending hdoc
    exact ⟨Or.inl rfl, by simp, by simpa using hpending, by simpa using hdoc⟩
  | failed state held =>
    have hscene : s.scene.isSome := hs.scene.mpr (by simp [state])
    refine ⟨Or.inr (Or.inl rfl), ?_, by simp [release], by simp [release]⟩
    rcases held with rfl | held
    · simp [release, hscene]
    · simp [release, held]
  | started _ _ _ => exact ⟨Or.inr (Or.inr rfl), by simp, by simp, by simp⟩
  | finished current =>
    obtain ⟨-, state, -, -⟩ := Call.generates_eq_some_iff.mp current
    have hscene : s.scene.isSome := hs.scene.mpr (by simp [state])
    exact ⟨Or.inr (Or.inl rfl), by simp [release, hscene], by simp [release], by simp [release]⟩

/-! ## Histories -/

/-- A call in a history: on which session, in which state of it and on which depot, and what it
produced. -/
structure Turn where
  /-- The session. -/
  session : Nat
  /-- The call. -/
  call : Call
  /-- The session before the call. -/
  before : Session
  /-- The depot before the call. -/
  depot : Depot
  /-- The pending export that was produced. -/
  issued : Option Pending

/-- The pending export whose models were generated. -/
def Turn.generated (t : Turn) : Option Pending := t.call.generates t.before

/-- A history of calls on numbered sessions: all of them are new at first, and each call may find
the depot in any state. -/
inductive History (w : Nat → Workshop) : (Nat → Session) → List Turn → Prop where
  /-- Sessions are made, each with a platform of its own, and none is open. -/
  | init (platform : Nat → Platform) (force : Nat → Bool) :
      History w (fun i => { owner := i, platform := platform i, force := force i }) []
  /-- A call on one of the sessions. -/
  | call {sessions : Nat → Session} {log : List Turn} {i : Nat} {c : Call} {s' : Session}
      {d d' : Depot} {issued : Option Pending} (past : History w sessions log)
      (ends : c.Ends (w i) (sessions i) d s' d' issued) :
      History w (Function.update sessions i s') (log ++ [⟨i, c, sessions i, d, issued⟩])

namespace Session.Moves

variable {s s' : Session} {c : Call} {issued : Option Pending}

/-- A session stays the same one. -/
lemma owner (h : s.Moves c s' issued) : s'.owner = s.owner := by cases h <;> rfl

/-- The number of exports never falls. -/
lemma serial_le (h : s.Moves c s' issued) : s.serial ≤ s'.serial := by
  cases h with
  | started _ _ _ => exact Nat.le_succ _
  | _ => exact Nat.le_refl _

/-- A pending export that is produced has the number of the session and a number of its own, and
nothing is generated with it. -/
lemma of_issued {p : Pending} (h : s.Moves c s' (some p)) :
    p.owner = s.owner ∧ p.serial = s.serial ∧ s.serial < s'.serial ∧ c.generates s = none := by
  cases h with
  | started _ owner serial => exact ⟨owner, serial, Nat.lt_succ_self _, rfl⟩

/-- A session waits for the export that it just produced, or for the same as before. -/
lemma pending_cases {p : Pending} (h : s.Moves c s' issued) (hp : s'.pending = some p) :
    issued = some p ∨ s.pending = some p ∧ c.generates s = none := by
  cases h with
  | refused idle => exact Or.inr ⟨hp, idle⟩
  | opened _ => exact Or.inr ⟨hp, rfl⟩
  | closed _ => exact Or.inr ⟨hp, rfl⟩
  | failed _ _ => cases hp
  | started _ _ _ => exact Or.inl hp
  | finished _ => cases hp

end Session.Moves

/-- What a history keeps, session by session and turn by turn. -/
structure Accounted (sessions : Nat → Session) (log : List Turn) : Prop where
  /-- Every session is settled. -/
  settled : ∀ i, (sessions i).Settled
  /-- Every session has its number. -/
  owner : ∀ i, (sessions i).owner = i
  /-- A pending export has the number of the session that produced it, and a smaller number of its
  own than the next one. -/
  issued : ∀ t ∈ log, ∀ p, t.issued = some p →
    p.owner = t.session ∧ p.serial < (sessions t.session).serial
  /-- A session waits for an export that it produced and that was not ended. -/
  current : ∀ i p, (sessions i).pending = some p →
    (∃ t ∈ log, t.session = i ∧ t.issued = some p) ∧ ∀ t ∈ log, t.generated ≠ some p
  /-- Models are generated for an export that the same session produced before. -/
  origin : ∀ (k : Nat) t p, log[k]? = some t → t.generated = some p →
    ∃ j < k, ∃ t₀, log[j]? = some t₀ ∧ t₀.session = t.session ∧ t₀.issued = some p
  /-- Models are generated once for each export. -/
  once : (log.filterMap Turn.generated).Nodup

namespace Accounted

variable {sessions : Nat → Session} {log : List Turn}

/-- New sessions are accounted for. -/
lemma init (platform : Nat → Platform) (force : Nat → Bool) :
    Accounted (fun i => { owner := i, platform := platform i, force := force i }) [] where
  settled _ := ⟨Or.inl rfl, by simp, by simp, by simp⟩
  owner _ := rfl
  issued _ h := nomatch h
  current _ _ h := nomatch h
  origin _ _ _ h := nomatch h
  once := List.nodup_nil

/-- A pending export that is produced is none whose models were generated: that one was produced
before and has a smaller number. -/
lemma generated_ne (h : Accounted sessions log) {i : Nat} {p : Pending} (howner : p.owner = i)
    (hserial : (sessions i).serial ≤ p.serial) : ∀ t ∈ log, t.generated ≠ some p := by
  intro t ht hgen
  obtain ⟨k, hk⟩ := List.getElem?_of_mem ht
  obtain ⟨j, -, t₀, ht₀, -, hissued⟩ := h.origin k t p hk hgen
  obtain ⟨howner', hserial'⟩ := h.issued t₀ (List.mem_of_getElem? ht₀) p hissued
  rw [← howner', howner] at hserial'
  omega

/-- The export that a session waits for has its number. -/
lemma owner_of_pending (h : Accounted sessions log) {i : Nat} {p : Pending}
    (hp : (sessions i).pending = some p) : p.owner = i := by
  obtain ⟨⟨t, ht, hti, hissued⟩, -⟩ := h.current i p hp
  rw [(h.issued t ht p hissued).1, hti]

section Turns

variable (h : Accounted sessions log) {i : Nat} {c : Call} {s' : Session} {d : Depot}
  {issued : Option Pending}

include h

/-- A turn that ends an export ends one that its session produced before and that was not ended. -/
lemma current_of_generated {p : Pending} (hgen : c.generates (sessions i) = some p) :
    (∃ t ∈ log, t.session = i ∧ t.issued = some p) ∧ ∀ t ∈ log, t.generated ≠ some p := by
  obtain ⟨-, -, hpending, -⟩ := Call.generates_eq_some_iff.mp hgen
  exact h.current i p hpending

/-- After a call every session waits for an export that it produced and that was not ended. -/
lemma current_call (hmoves : (sessions i).Moves c s' issued) (j : Nat) (p : Pending)
    (hp : (Function.update sessions i s' j).pending = some p) :
    (∃ t ∈ log ++ [⟨i, c, sessions i, d, issued⟩], t.session = j ∧ t.issued = some p) ∧
      ∀ t ∈ log ++ [⟨i, c, sessions i, d, issued⟩], t.generated ≠ some p := by
  by_cases hj : j = i
  · subst hj
    rw [Function.update_self] at hp
    rcases hmoves.pending_cases hp with rfl | ⟨hsame, hidle⟩
    · obtain ⟨howner, hnumber, -, hidle⟩ := hmoves.of_issued
      rw [h.owner j] at howner
      have hne := h.generated_ne howner (Nat.le_of_eq hnumber.symm)
      refine ⟨⟨_, List.mem_append_right _ (List.mem_singleton.mpr rfl), rfl, rfl⟩, ?_⟩
      exact List.forall_mem_append.mpr ⟨hne, by simp [Turn.generated, hidle]⟩
    · obtain ⟨⟨t, ht, hti, hissued⟩, hne⟩ := h.current j p hsame
      refine ⟨⟨t, List.mem_append_left _ ht, hti, hissued⟩, ?_⟩
      exact List.forall_mem_append.mpr ⟨hne, by simp [Turn.generated, hidle]⟩
  · rw [Function.update_of_ne hj] at hp
    obtain ⟨⟨t, ht, hti, hissued⟩, hne⟩ := h.current j p hp
    refine ⟨⟨t, List.mem_append_left _ ht, hti, hissued⟩, ?_⟩
    refine List.forall_mem_append.mpr ⟨hne, List.forall_mem_singleton.mpr fun hgen => ?_⟩
    -- The new turn can only end the export of its own session.
    obtain ⟨-, -, hpending, -⟩ := Call.generates_eq_some_iff.mp hgen
    exact hj ((h.owner_of_pending hp).symm.trans (h.owner_of_pending hpending))

/-- After a call every export that was ended was produced before by the same session. -/
lemma origin_call (k : Nat) (t : Turn) (p : Pending)
    (hk : (log ++ [⟨i, c, sessions i, d, issued⟩])[k]? = some t) (hgen : t.generated = some p) :
    ∃ j < k, ∃ t₀, (log ++ [⟨i, c, sessions i, d, issued⟩])[j]? = some t₀ ∧
      t₀.session = t.session ∧ t₀.issued = some p := by
  have hkeep : ∀ {j : Nat} {t₀ : Turn}, log[j]? = some t₀ →
      (log ++ [⟨i, c, sessions i, d, issued⟩])[j]? = some t₀ := by
    intro j t₀ hj
    obtain ⟨hlt, -⟩ := List.getElem?_eq_some_iff.mp hj
    rw [List.getElem?_append_left hlt, hj]
  rcases Nat.lt_or_ge k log.length with hlt | hge
  · rw [List.getElem?_append_left hlt] at hk
    obtain ⟨j, hj, t₀, ht₀, hsame, hissued⟩ := h.origin k t p hk hgen
    exact ⟨j, hj, t₀, hkeep ht₀, hsame, hissued⟩
  · rw [List.getElem?_append_right hge] at hk
    obtain rfl := List.mem_singleton.mp (List.mem_of_getElem? hk)
    obtain ⟨⟨t₀, ht₀, hsame, hissued⟩, -⟩ := h.current_of_generated hgen
    obtain ⟨j, hj⟩ := List.getElem?_of_mem ht₀
    obtain ⟨hjlt, -⟩ := List.getElem?_eq_some_iff.mp hj
    exact ⟨j, by omega, t₀, hkeep hj, hsame, hissued⟩

/-- After a call no export was ended twice. -/
lemma once_call :
    ((log ++ [(⟨i, c, sessions i, d, issued⟩ : Turn)]).filterMap Turn.generated).Nodup := by
  rw [List.filterMap_append, List.nodup_append]
  refine ⟨h.once, ?_, fun p hp q hq => ?_⟩
  · cases hgen : c.generates (sessions i) <;> simp [Turn.generated, hgen]
  · rintro rfl
    obtain ⟨t, ht, hgen⟩ := List.mem_filterMap.mp hp
    obtain ⟨t', ht', hgen'⟩ := List.mem_filterMap.mp hq
    obtain rfl := List.mem_singleton.mp ht'
    exact (h.current_of_generated hgen').2 t ht hgen

/-- **A call keeps account**, whatever it does to its session. -/
lemma call (hmoves : (sessions i).Moves c s' issued) :
    Accounted (Function.update sessions i s') (log ++ [⟨i, c, sessions i, d, issued⟩]) := by
  refine ⟨fun j => ?_, fun j => ?_, ?_, h.current_call hmoves, h.origin_call, h.once_call⟩
  · by_cases hj : j = i
    · subst hj
      simpa using (h.settled j).moves hmoves
    · simpa [hj] using h.settled j
  · by_cases hj : j = i
    · subst hj
      simpa using hmoves.owner.trans (h.owner j)
    · simpa [hj] using h.owner j
  · have hserial : ∀ j, (sessions j).serial ≤ (Function.update sessions i s' j).serial := by
      intro j
      by_cases hj : j = i
      · subst hj
        simpa using hmoves.serial_le
      · simp [hj]
    refine List.forall_mem_append.mpr ⟨fun t ht p hp => ?_, List.forall_mem_singleton.mpr ?_⟩
    · obtain ⟨howner, hlt⟩ := h.issued t ht p hp
      exact ⟨howner, Nat.lt_of_lt_of_le hlt (hserial _)⟩
    · rintro p rfl
      obtain ⟨howner, hnumber, hlt, -⟩ := hmoves.of_issued
      rw [h.owner i] at howner
      exact ⟨howner, by simpa [hnumber] using hlt⟩

end Turns

end Accounted

namespace History

variable {w : Nat → Workshop} {sessions : Nat → Session} {log : List Turn}

/-- Every history is accounted for. -/
lemma accounted (h : History w sessions log) : Accounted sessions log := by
  induction h with
  | init platform force => exact .init platform force
  | call _ ends ih => exact ih.call ends.moves

/-- **The life of sessions**, after every history of calls on any number of them.

Every session is settled, and every further call ends. The models of a pending export are generated
at most once: by a call that ends this very export, on the session that produced it in an earlier
turn, while the session waits for it; that call runs the generator once. All other calls end in the
same way whatever the generator is.

**Proof sketch.** A call moves its session in one of few ways (`Call.Ends.moves`). Each of them
  keeps a session settled (`Session.Settled.moves`), and keeps account of what was produced and
  ended (`Accounted.call`): exports are numbered, so one that was ended is never waited for again.
  -/
theorem lifecycle (w : Nat → Workshop) (sessions : Nat → Session) (log : List Turn)
    (h : History w sessions log) :
    (∀ i, (sessions i).Settled) ∧
    (∀ i c d, ∃ s' d' issued, Call.Ends (w i) (sessions i) d c s' d' issued) ∧
    (log.filterMap Turn.generated).Nodup ∧
    (∀ (k : Nat) t p, log[k]? = some t → t.generated = some p →
      t.call = .finish (some p) ∧ t.before.state = .awaitingFinalize ∧
      t.before.pending = some p ∧
      (∃ j < k, ∃ t₀, log[j]? = some t₀ ∧ t₀.session = t.session ∧ t₀.issued = some p) ∧
      (t.before.finish (w t.session) (some p)).run t.depot =
        t.before.concluded (((w t.session).generate (t.before.scene.getD {}) p.id
          t.before.platform p.id.basePath p.settings.flags p.settings.mode).run t.depot)) ∧
    ∀ t ∈ log, t.generated = none → ∀ g s' d' issued,
      t.call.Ends { w t.session with generate := g } t.before t.depot s' d' issued ↔
        t.call.Ends (w t.session) t.before t.depot s' d' issued := by
  have hall := h.accounted
  refine ⟨hall.settled, fun i c d => Call.exists_ends _ _ d c, hall.once, ?_, ?_⟩
  · intro k t p hk hgen
    obtain ⟨hcall, hstate, hpending, howner⟩ := Call.generates_eq_some_iff.mp hgen
    exact ⟨hcall, hstate, hpending, hall.origin k t p hk hgen,
      Session.finish_run_of_current hstate hpending howner _ _⟩
  · exact fun t _ hgen g s' d' issued => Call.ends_generate_iff hgen g

/-- A depot with an asset that was never exported. -/
def unexported : Depot where
  tree := ⟨[(["src", "a", "box.gltf"], .file (utf8 "{}") 10)]⟩
  assigns := ⟨[("src", "src"), ("mdl", "mdl"), ("phys", "phys"), ("msh", "msh"), ("tex", "tex")]⟩
  world := { clock := fun n => 100 + n, refuses := fun _ _ _ => false, scratch := fun _ => "scratch" }

/-- A numbered session that was just opened. -/
def opened (i : Nat) : Session := { owner := i, platform := default, state := .isOpen, scene := some {} }

/-- Whether an export was started. -/
def hasStarted : Except Failure (Except Failure Pending × Session) → Bool
  | .ok (.ok _, _) => true
  | _ => false

/-- Two sessions are opened and the first one starts an export. The second one is refused when it
ends it; the first one ends it, and is refused when it ends it again. -/
theorem lifecycle_endedTwice : ∃ sessions log p,
    History (fun _ => .standard {}) sessions log ∧ log.map Turn.session = [0, 1, 0, 1, 0, 0] ∧
      log.map Turn.issued = [none, none, some p, none, none, none] ∧
      log.map Turn.generated = [none, none, none, none, some p, none] ∧
      (∀ i, (sessions i).Settled) ∧ (log.filterMap Turn.generated).Nodup := by
  have h₂ := ((History.init (w := fun _ => .standard {}) (fun _ => default) fun _ => false).call
    (i := 0) (d := unexported) .acquire).call (i := 1) (d := unexported) .acquire
  have hok : hasStarted (((opened 0).start (.standard {}) "a/box.gltf" {}).run unexported).1 = true :=
    by decide +kernel
  obtain ⟨r, s₃, d₃, hstart, hmoves⟩ :=
    Session.start_moves (.standard {}) (opened 0) "a/box.gltf" {} unexported
  rw [hstart] at hok
  obtain ⟨p, rfl⟩ : ∃ p, r = .ok p := by
    cases r with
    | error _ => cases hok
    | ok p => exact ⟨p, rfl⟩
  have hcurrent : (Call.finish (some p)).generates s₃ = some p := by
    cases hmoves with
    | started _ howner _ => exact Call.generates_eq_some_iff.mpr ⟨rfl, rfl, rfl, howner⟩
  obtain ⟨r', s₅, d₅, hfinish, hmoves'⟩ := Session.finish_moves (.standard {}) s₃ (some p) d₃
  obtain rfl : s₅ = s₃.release := by
    cases hmoves' with
    | refused hidle => cases hidle.symm.trans hcurrent
    | finished _ => rfl
  have hrefused : ∀ s : Session, (Call.finish (some p)).generates s = none →
      (Call.finish (some p)).Ends (.standard {}) s d₃ s d₃ none := by
    intro s hidle
    obtain ⟨f, hf⟩ := Session.finish_of_generates_eq_none hidle
    exact .finish (r := .error f) (by rw [hf]; rfl)
  have h₆ := (((h₂.call (i := 0) (.start hstart)).call (i := 1) (hrefused (opened 1) rfl)).call
    (i := 0) (.finish hfinish)).call (i := 0) (hrefused s₃.release rfl)
  obtain ⟨hsettled, -, honce, -⟩ := lifecycle _ _ _ h₆
  refine ⟨_, _, p, h₆, rfl, rfl, ?_, hsettled, honce⟩
  exact congrArg (fun g => [none, none, none, none, g, none]) hcurrent

end History

end SceneForge
