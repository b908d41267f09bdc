import SceneForge.Proofs.Export.Lifecycle

set_option autoImplicit false

/-!
# Exports do not depend on earlier ones

A session keeps its scene when an export is released, with whatever the export left in it. The next
export gives the scene a new name, and setting up its document replaces everything else before any
part of the scene is looked at. So all that an export takes from an open session is its platform and
whether exports are forced, and these never change.

## Main definitions

* `SceneForge.Session.created` — a new session.
* `SceneForge.Session.Reached` — what calls can make of a session.
* `SceneForge.Session.complete` — both phases of an export.

## Main results

* `SceneForge.Stage.all_agree` — the stages give the same in scenes of the same name.
* `SceneForge.Session.start_agree`, `SceneForge.Session.complete_agree` — exports on open sessions
  with the same configuration.
* `SceneForge.Session.complete_eq_of_reached` — a session that was used is as good as a new one.
-/

namespace SceneForge

/-! ## Scenes that are used again -/

section Scenes

variable {s t : Scene}

/-- Only the name and the category of a scene are kept when a document is set up. -/
lemma Scene.setup_agree (hname : s.name = t.name) (hcategory : s.category = t.category)
    (doc : Document) (settings : Settings) : s.setup doc settings = t.setup doc settings := by
  unfold setup
  rw [hname, hcategory]

namespace Stage

/-- The merged mesh does not depend on what a scene held before, and neither does the scene that it
was merged in. -/
lemma merge_agree (hname : s.name = t.name) (hcategory : s.category = t.category) (doc : Document)
    (settings : Settings) : (merge s doc settings).1 = (merge t doc settings).1 ∧
      ∀ m, (merge s doc settings).1 = .ok m →
        (merge s doc settings).2 = (merge t doc settings).2 := by
  unfold merge
  rw [Scene.setup_agree hname hcategory]
  cases t.setup doc settings with
  | error f => exact ⟨rfl, fun m h => nomatch h⟩
  | ok scene => exact ⟨rfl, fun m _ => rfl⟩

/-- **The stages give the same** in scenes of the same name and category, and the scene that they
leave is the same if they succeed. -/
lemma all_agree (w : Workshop) (platform : Platform) (hname : s.name = t.name)
    (hcategory : s.category = t.category) (doc : Document) (id : AssetId) (settings : Settings)
    (d : Depot) : ∃ r scene scene' d',
      (all w platform s doc id settings).run d = (.ok (r, scene), d') ∧
      (all w platform t doc id settings).run d = (.ok (r, scene'), d') ∧
      ∀ stats, r = .ok stats → scene = scene' := by
  obtain ⟨hmesh, hscene⟩ := merge_agree hname hcategory doc settings
  -- Textures and surfaces are made without the scene.
  obtain ⟨first, d₁, hfirst⟩ : ∃ first d₁, (Job.attempt do
      let textures ← Job.within "textures stage" (textures w doc id)
      let surfaces ← Job.within "surfaces stage" (surfaces doc id settings.mode)
      return (textures, surfaces)).run d = (.ok first, d₁) := ⟨_, _, Job.run_attempt _ d⟩
  unfold all
  rw [Job.run_bind_of_ok hfirst, Job.run_bind_of_ok hfirst]
  rcases first with f | ⟨n, k⟩
  · exact ⟨.error f, s, t, d₁, rfl, rfl, fun stats h => nomatch h⟩
  · simp only
    generalize merge s doc settings = a at hmesh hscene ⊢
    generalize merge t doc settings = b at hmesh hscene ⊢
    obtain ⟨merged, scene⟩ := a
    obtain ⟨merged', scene'⟩ := b
    obtain rfl : merged = merged' := hmesh
    cases merged with
    | error f => exact ⟨_, scene, scene', _, rfl, rfl, fun stats h => nomatch h⟩
    | ok m => exact ⟨_, scene, scene', _, rfl, rfl, fun _ _ => hscene m rfl⟩

end Stage

end Scenes

namespace Session

variable {s t : Session}

/-! ## Exports on open sessions -/

/-- Both phases of an export: why the first one failed, or what it made and how the second one
ended. -/
def complete (w : Workshop) (s : Session) (path : String) (settings : Settings) :
    Job (Except Failure (Stats × Except Failure Unit)) := do
  match ← s.start w path settings with
  | (.error f, _) => return .error f
  | (.ok p, s) =>
    let (r, _) ← s.finish w (some p)
    return .ok (p.stats, r)

/-- Two sessions wait for the end of the same export. -/
structure Await (s t : Session) (p q : Pending) : Prop where
  /-- The first session waits for its export. -/
  left : s.state = .awaitingFinalize ∧ s.pending = some p ∧ p.owner = s.owner
  /-- The second session waits for its own. -/
  right : t.state = .awaitingFinalize ∧ t.pending = some q ∧ q.owner = t.owner
  /-- Meshes are written for the same platform. -/
  platform : s.platform = t.platform
  /-- Models are made from the same scene. -/
  scene : s.scene = t.scene
  /-- The asset is the same. -/
  id : p.id = q.id
  /-- The settings are the same. -/
  settings : p.settings = q.settings
  /-- The first phase made the same. -/
  stats : p.stats = q.stats

/-- How two calls that start an export end: with the same failure, or with exports that only differ
in the session that waits for them. -/
inductive Started : Except Failure (Except Failure Pending × Session) →
    Except Failure (Except Failure Pending × Session) → Prop where
  /-- Both fail. -/
  | failed (f : Failure) (s t : Session) : Started (.ok (.error f, s)) (.ok (.error f, t))
  /-- Both succeed. -/
  | started {p q : Pending} {s t : Session} (await : Await s t p q) :
      Started (.ok (.ok p, s)) (.ok (.ok q, t))

/-- **Starting an export** gives the same on open sessions with the same configuration, whatever
their scenes hold. -/
lemma start_agree (hs : s.state = .isOpen) (ht : t.state = .isOpen)
    (hplatform : s.platform = t.platform) (hforce : s.force = t.force) (w : Workshop)
    (path : String) (settings : Settings) (d : Depot) :
    Started ((s.start w path settings).run d).1 ((t.start w path settings).run d).1 ∧
      ((s.start w path settings).run d).2 = ((t.start w path settings).run d).2 := by
  simp only [start, hs, ht, hforce, ne_eq, not_true_eq_false, if_false]
  cases settings.validate with
  | error f => exact ⟨.failed f s t, rfl⟩
  | ok _ =>
    simp only [Job.run_bind_of_ok (Job.run_look _ d)]
    split_ifs
    · exact ⟨.failed _ s t, rfl⟩
    generalize AssetId.ofPath path = id
    simp only [run, Job.run_bind, Job.run_attempt]
    rcases (w.load id.source).run d with ⟨f | doc, d₀⟩
    · exact ⟨.failed _ _ _, rfl⟩
    obtain ⟨r, scene, scene', d₁, hall, hall', hscene⟩ := Stage.all_agree w t.platform
      (s := { s.scene.getD {} with name := id.name, category := id.category })
      (t := { t.scene.getD {} with name := id.name, category := id.category })
      rfl rfl doc id settings d₀
    simp only [hplatform, hall, hall', Job.run_bind]
    cases r with
    | error f => exact ⟨.failed _ _ _, rfl⟩
    | ok stats =>
      refine ⟨.started ⟨⟨rfl, rfl, rfl⟩, ⟨rfl, rfl, rfl⟩, rfl, ?_, rfl, rfl, rfl⟩, rfl⟩
      exact congrArg some (hscene stats rfl)

/-- Ending an export gives the same on both sessions that wait for it, and releases them. -/
lemma finish_agree {p q : Pending} (h : Await s t p q) (w : Workshop) (d : Depot) :
    ∃ r d', (s.finish w (some p)).run d = (.ok (r, s.release), d') ∧
      (t.finish w (some q)).run d = (.ok (r, t.release), d') := by
  obtain ⟨hstate, hpending, howner⟩ := h.left
  obtain ⟨hstate', hpending', howner'⟩ := h.right
  rw [finish_run_of_current hstate hpending howner, finish_run_of_current hstate' hpending' howner',
    h.platform, h.scene, h.id, h.settings]
  rcases (w.generate (t.scene.getD {}) q.id t.platform q.id.basePath q.settings.flags
    q.settings.mode).run d with ⟨f | _, d'⟩
  · exact ⟨_, _, rfl, rfl⟩
  · exact ⟨_, _, rfl, rfl⟩

/-- **An export takes nothing from an open session** but its configuration. -/
lemma complete_agree (hs : s.state = .isOpen) (ht : t.state = .isOpen)
    (hplatform : s.platform = t.platform) (hforce : s.force = t.force) (w : Workshop)
    (path : String) (settings : Settings) (d : Depot) :
    (s.complete w path settings).run d = (t.complete w path settings).run d := by
  obtain ⟨hstarted, hdepot⟩ := start_agree hs ht hplatform hforce w path settings d
  simp only [complete, Job.run_bind]
  generalize (s.start w path settings).run d = a at hstarted hdepot ⊢
  generalize (t.start w path settings).run d = b at hstarted hdepot ⊢
  obtain ⟨a, d₁⟩ := a
  obtain ⟨b, d₂⟩ := b
  obtain rfl : d₁ = d₂ := hdepot
  cases hstarted with
  | failed f s' t' => rfl
  | started await =>
    obtain ⟨r, d', hfinish, hfinish'⟩ := finish_agree await w d₁
    simp only [Job.run_bind, hfinish, hfinish', await.stats]

/-! ## Sessions that were used -/

/-- A new session. -/
def created (owner : Nat) (platform : Platform) (force : Bool) : Session where
  owner := owner
  platform := platform
  force := force

/-- What calls can make of a session; each call may find the depot in any state. -/
inductive Reached (w : Workshop) (s₀ : Session) : Session → Prop where
  /-- No call was made. -/
  | init : Reached w s₀ s₀
  /-- One more call was made. -/
  | call {s s' : Session} {c : Call} {d d' : Depot} {issued : Option Pending}
      (past : Reached w s₀ s) (ends : c.Ends w s d s' d' issued) : Reached w s₀ s'

/-- A call does not change the configuration of a session. -/
lemma Moves.configuration {s s' : Session} {c : Call} {issued : Option Pending}
    (h : s.Moves c s' issued) : s'.platform = s.platform ∧ s'.force = s.force := by
  cases h <;> exact ⟨rfl, rfl⟩

/-- Calls do not change the configuration of a session. -/
lemma Reached.configuration {w : Workshop} {s₀ s : Session} (h : Reached w s₀ s) :
    s.platform = s₀.platform ∧ s.force = s₀.force := by
  induction h with
  | init => exact ⟨rfl, rfl⟩
  | call _ ends ih =>
    obtain ⟨hplatform, hforce⟩ := ends.moves.configuration
    exact ⟨hplatform.trans ih.1, hforce.trans ih.2⟩

/-- **A session carries nothing over between exports.** Whatever calls were made on a session, if it
is open then both phases of an export on it give the same failures and the same counts, and leave
the same depot, as on a session that was just created with the same configuration and opened.

**Proof sketch.** Platform and force are those that the session was created with
(`Reached.configuration`), and an export takes nothing else from an open session
(`complete_agree`): the scene is set up anew before it is looked at (`Stage.all_agree`). -/
theorem complete_eq_of_reached (w : Workshop) (owner owner' : Nat) (platform : Platform)
    (force : Bool) (s : Session) (hreached : Reached w (created owner platform force) s)
    (hopen : s.state = .isOpen) (path : String) (settings : Settings) (d : Depot) :
    (s.complete w path settings).run d =
      ((created owner' platform force).acquire.2.complete w path settings).run d := by
  obtain ⟨hplatform, hforce⟩ := hreached.configuration
  exact complete_agree (t := (created owner' platform force).acquire.2) hopen rfl hplatform hforce w
    path settings d

/-- Whether an export succeeds in its first phase and leaves an open session with a flattened
scene. -/
def leavesMesh (w : Workshop) (s : Session) (path : String) (settings : Settings) (d : Depot) :
    Bool :=
  match (s.start w path settings).run d with
  | (.ok (.ok p, s₁), d₁) =>
    match (s₁.finish w (some p)).run d₁ with
    | (.ok (_, s₂), _) => s₂.state = .isOpen && s₂.scene.any (·.flattened)
    | _ => false
  | _ => false

/-- What such an export makes of a session was made by calls. -/
lemma exists_reached_of_leavesMesh {w : Workshop} {s₀ s : Session} {path : String} {settings : Settings}
    {d : Depot} (hreached : Reached w s₀ s) (h : s.leavesMesh w path settings d = true) :
    ∃ s₂, Reached w s₀ s₂ ∧ s₂.state = .isOpen ∧ s₂.scene.any (·.flattened) = true := by
  unfold leavesMesh at h
  split at h
  · rename_i p s₁ d₁ hstart
    split at h
    · rename_i r s₂ d₂ hfinish
      rw [Bool.and_eq_true, decide_eq_true_eq] at h
      exact ⟨s₂, (hreached.call (.start hstart)).call (.finish hfinish), h⟩
    · cases h
  · cases h

/-- Whether both phases of an export succeed. -/
def succeeds : Except Failure (Except Failure (Stats × Except Failure Unit)) → Bool
  | .ok (.ok (_, .ok _)) => true
  | _ => false

/-- A session has exported an asset and still holds the scene of it. The same asset is exported
again as on a new session. -/
theorem complete_eq_of_reached_usedScene : ∃ s : Session,
    Reached (.standard {}) (created 0 default false) s ∧ s.state = .isOpen ∧
      s.scene.any (·.flattened) = true ∧
      (s.complete (.standard {}) "a/box.gltf" {}).run History.unexported =
        ((created 1 default false).acquire.2.complete (.standard {}) "a/box.gltf" {}).run
          History.unexported ∧
      succeeds ((s.complete (.standard {}) "a/box.gltf" {}).run History.unexported).1 = true := by
  have hopened : Reached (.standard {}) (created 0 default false)
      (created 0 default false).acquire.2 := .call (d := History.unexported) .init .acquire
  have hleaves : leavesMesh (.standard {}) (created 0 default false).acquire.2 "a/box.gltf" {}
      History.unexported = true := by decide +kernel
  have hsucceeds : succeeds (((created 1 default false).acquire.2.complete (.standard {})
      "a/box.gltf" {}).run History.unexported).1 = true := by decide +kernel
  obtain ⟨s₂, hreached, hstate, hscene⟩ := exists_reached_of_leavesMesh hopened hleaves
  have heq := complete_eq_of_reached (.standard {}) 0 1 default false s₂ hreached hstate
    "a/box.gltf" {} History.unexported
  refine ⟨s₂, hreached, hstate, hscene, heq, ?_⟩
  rw [heq]
  exact hsucceeds

end Session

end SceneForge
