import SceneForge.Proofs.Export.Lifecycle

set_option autoImplicit false

/-!
# Exports that succeed

What a phase of an export has done if it succeeds: which parts ran on which depots, and what they
gave. Everything about a finished export is derived from this.

## Main results

* `SceneForge.Stage.exists_of_all`, `SceneForge.Scene.exists_of_generateModels` — the work of both
  phases.
* `SceneForge.Session.exists_of_start` — the first phase.
* `SceneForge.Session.generate_of_finish` — the second phase.
-/

namespace SceneForge

namespace Stage

variable {w : Workshop} {platform : Platform} {scene scene' : Scene} {doc : Document} {id : AssetId}
  {settings : Settings} {d d' : Depot}

/-- A mesh that was made has been written. -/
lemma exists_of_mesh {r : Except Failure Mesh} {m : Mesh}
    (h : (mesh w platform id r).run d = (.ok m, d')) : r = .ok m ∧
      ∃ d₁, (w.saveMesh id.mesh m platform).run d = (.ok (), d₁) ∧
        d' = { d₁ with measures := d₁.measures.mesh m.triangleCount } := by
  obtain ⟨m', d₀, hr, h⟩ := Job.exists_of_bind_run h
  obtain ⟨rfl, rfl⟩ := Job.run_ofExcept_eq_ok_iff.mp hr
  obtain ⟨_, d₁, hsave, h⟩ := Job.exists_of_bind_run h
  obtain ⟨_, d₂, hmeasure, h⟩ := Job.exists_of_bind_run h
  cases hmeasure
  cases h
  exact ⟨rfl, d₁, hsave, rfl⟩

/-- **All stages succeed**: textures and surfaces were made, and then the mesh was merged and
written. -/
lemma exists_of_all {stats : Stats}
    (h : (all w platform scene doc id settings).run d = (.ok (.ok stats, scene'), d')) :
    ∃ n k m d₁ d₂, (textures w doc id).run d = (.ok n, d₁) ∧
      (surfaces doc id settings.mode).run d₁ = (.ok k, d₂) ∧
      merge scene doc settings = (.ok m, scene') ∧
      (mesh w platform id (.ok m)).run d₂ = (.ok m, d') := by
  obtain ⟨first, d₂, hfirst, h⟩ := Job.exists_of_bind_run h
  rw [Job.run_attempt_eq_ok_iff] at hfirst
  rcases first with f | ⟨n, k⟩
  · cases h
  obtain ⟨last, d₃, hlast, h⟩ := Job.exists_of_bind_run h
  rw [Job.run_attempt_eq_ok_iff] at hlast
  rcases last with f | m
  · cases h
  rw [Job.run_within_eq_ok_iff] at hlast
  obtain ⟨n', d₁, htextures, hfirst⟩ := Job.exists_of_bind_run hfirst
  obtain ⟨k', d₂', hsurfaces, hfirst⟩ := Job.exists_of_bind_run hfirst
  rw [Job.run_within_eq_ok_iff] at htextures hsurfaces
  obtain ⟨hmerged, -⟩ := exists_of_mesh hlast
  cases hfirst
  cases h
  refine ⟨n, k, m, d₁, d₂, htextures, hsurfaces, Prod.ext hmerged rfl, ?_⟩
  rw [hmerged] at hlast
  exact hlast

end Stage

/-- **Models were generated**: the model was written, then the physics model, both from the merged
mesh. -/
lemma Scene.exists_of_generateModels {s : Scene} {id : AssetId} {platform : Platform} {base : String}
    {flags : Flags} {mode : Mode} {d d' : Depot}
    (h : (s.generateModels id platform base flags mode).run d = (.ok (), d')) :
    ∃ mesh physics pm d₀ d₁ d₂, s.mesh = some mesh ∧
      (Job.physicsOf id base).run d = (.ok physics, d₀) ∧
      (Job.writeAll id.model (utf8 (Model.ofScene s id mesh flags mode).render)).run d₀ =
        (.ok (), d₁) ∧
      (PhysicsModel.make id platform mesh physics).run d₁ = (.ok pm, d₂) ∧
      (Job.writeAll id.physicsModel (utf8 pm.render)).run d₂ = (.ok (), d') := by
  unfold generateModels at h
  split_ifs at h with hbase
  · cases h
  cases hmesh : s.mesh with
  | none =>
    simp only [hmesh] at h
    cases h
  | some mesh =>
    simp only [hmesh] at h
    obtain ⟨physics, d₁, hphysics, h⟩ := Job.exists_of_bind_run h
    obtain ⟨_, d₂, hmodel, h⟩ := Job.exists_of_bind_run h
    obtain ⟨pm, d₃, hmake, hwrite⟩ := Job.exists_of_bind_run h
    exact ⟨mesh, physics, pm, d₁, d₂, d₃, rfl, hphysics, hmodel, hmake, hwrite⟩

namespace Session

variable {w : Workshop} {s s' : Session} {path : String} {settings : Settings} {p : Pending}
  {d d' : Depot}

/-- **The first phase succeeds**: the document was loaded and went through all stages, and the
session holds what they left.

**Proof sketch.** The checks of the first phase must all have passed, for each of them ends it with
a failure. Loading and all stages must then have succeeded, and what they gave was put into the
session and the export that is under way. -/
lemma exists_of_start (h : (s.start w path settings).run d = (.ok (.ok p, s'), d')) :
    p.id = AssetId.ofPath path ∧ p.settings = settings ∧ settings.validate = .ok () ∧
    ∃ doc scene stats d₀, (w.load (AssetId.ofPath path).source).run d = (.ok doc, d₀) ∧
      (Stage.all w s.platform
        { s.scene.getD {} with
          name := (AssetId.ofPath path).name, category := (AssetId.ofPath path).category }
        doc (AssetId.ofPath path) settings).run d₀ = (.ok (.ok stats, scene), d') ∧
      s'.scene = some scene ∧ s'.platform = s.platform := by
  unfold start at h
  split_ifs at h
  · cases h
  cases hvalid : settings.validate with
  | error f =>
    rw [hvalid] at h
    cases h
  | ok _ =>
    simp only [hvalid] at h
    obtain ⟨stale, d₁, hlook, h⟩ := Job.exists_of_bind_run h
    obtain ⟨-, rfl⟩ := Prod.mk.inj hlook
    split_ifs at h
    · cases h
    obtain ⟨⟨r, s₁⟩, d₂, hrun, h⟩ := Job.exists_of_bind_run h
    cases r with
    | error f =>
      obtain ⟨_, d₃, -, h⟩ := Job.exists_of_bind_run h
      cases h
    | ok stats =>
      cases h
      unfold run at hrun
      obtain ⟨loaded, d₀, hload, hrun⟩ := Job.exists_of_bind_run hrun
      rw [Job.run_attempt_eq_ok_iff] at hload
      cases loaded with
      | error f => cases hrun
      | ok doc =>
        obtain ⟨⟨r, scene⟩, d₃, hall, hrun⟩ := Job.exists_of_bind_run hrun
        cases hrun
        exact ⟨rfl, rfl, rfl, doc, scene, stats, d₀, hload, hall, rfl, rfl⟩

/-- **The second phase succeeds**: the models were generated from what the session holds. -/
lemma generate_of_finish (h : (s.finish w (some p)).run d = (.ok (.ok (), s'), d')) :
    (w.generate (s.scene.getD {}) p.id s.platform p.id.basePath p.settings.flags
      p.settings.mode).run d = (.ok (), d') := by
  cases hgen : (Call.finish (some p)).generates s with
  | none =>
    obtain ⟨f, hf⟩ := finish_of_generates_eq_none hgen
    rw [hf w] at h
    cases h
  | some q =>
    obtain ⟨hcall, hstate, hpending, howner⟩ := Call.generates_eq_some_iff.mp hgen
    cases hcall
    rw [finish_run_of_current hstate hpending howner] at h
    rcases hrun : (w.generate (s.scene.getD {}) p.id s.platform p.id.basePath p.settings.flags
      p.settings.mode).run d with ⟨f | _, d₁⟩
    · rw [hrun] at h
      cases h
    · rw [hrun] at h
      cases h
      rfl

end Session

end SceneForge
