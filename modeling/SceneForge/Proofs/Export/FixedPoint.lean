import SceneForge.Proofs.Export.Staleness
import SceneForge.Proofs.Export.Success

set_option autoImplicit false

/-!
# Exports reach a fixed point

An export that succeeds stamps every artifact that is compared with a driver: the mesh is written at
the end of the first phase, and the second phase writes the models and removes nothing. So if the
clock does not run behind the drivers, the asset is up to date afterwards, and starting its export
again changes nothing, however often it is tried.

## Main definitions

* `SceneForge.Depot.StampedSince` — an artifact carries the time of a later call.
* `SceneForge.Session.startAll` — the export of an asset is started again and again.

## Main results

* `SceneForge.Session.stampedSince_of_exported` — every artifact is stamped by a successful export.
* `SceneForge.Session.upToDate_of_exported` — the asset is up to date from then on.
-/

namespace SceneForge

namespace Depot

variable {S T : Event → Prop} {d d' d'' : Depot} {uri : String}

/-- What a location text stands for has the time of a mutating call since an earlier state. -/
def StampedSince (d d' : Depot) (uri : String) : Prop :=
  ∃ n, d.journal.length < n ∧ d'.modTime? uri = some (d.world.clock n)

/-- The journal only grows. -/
lemma Evolves.length_journal_le (h : Evolves S d d') : d.journal.length ≤ d'.journal.length := by
  obtain ⟨events, hevents, -⟩ := h.journal
  simp [hevents]

/-- A file that was written is stamped. -/
lemma stampedSince_of_writeAll {data : Bytes} (h : (Job.writeAll uri data).run d = (.ok (), d')) :
    StampedSince d d' uri := by
  refine ⟨d.journal.length + 1, Nat.lt_succ_self _, ?_⟩
  rw [modTime?, (Job.stat?_of_writeAll h).1]
  rfl

/-- What is stamped since a later state is stamped since an earlier one. -/
lemma StampedSince.of_evolves (h : StampedSince d' d'' uri) (hevolves : Evolves S d d') :
    StampedSince d d'' uri := by
  obtain ⟨n, hn, htime⟩ := h
  exact ⟨n, Nat.lt_of_le_of_lt hevolves.length_journal_le hn, hevolves.world ▸ htime⟩

/-- **What is stamped stays stamped** as long as nothing is removed: it can only be stamped again.
-/
lemma StampedSince.trans_evolves (h : StampedSince d d' uri) (hevolves : Evolves S d d')
    (hlater : Evolves T d' d'') (hcreate : ∀ e, T e → ∃ uri, e = .create uri) :
    StampedSince d d'' uri := by
  obtain ⟨n, hn, htime⟩ := h
  obtain ⟨x, hx, hxtime⟩ := Option.map_eq_some_iff.mp htime
  obtain ⟨path, loc, hpath, hloc, hfind⟩ := exists_of_stat?_eq_some hx
  have hstat : d''.stat? uri = d''.tree.find? loc :=
    stat?_eq_find? (hlater.assigns ▸ hpath) hloc
  cases hlater.fate loc with
  | kept same => exact ⟨n, hn, by rw [modTime?, hstat, same, hfind, Option.map_some, hxtime]⟩
  | removed since event removes gone =>
    obtain ⟨_, rfl⟩ := hcreate _ (hlater.kind since event)
    cases removes
  | made since event makes holds time =>
    refine ⟨_, Nat.lt_succ_of_le (Nat.le_trans hevolves.length_journal_le since), ?_⟩
    rw [modTime?, hstat, holds, Option.map_some, time, hevolves.world]

end Depot

/-- The second phase only writes files. -/
lemma AssetId.Last.exists_create {id : AssetId} {e : Event} (h : id.Last e) :
    ∃ uri, e = .create uri := by
  cases h with
  | model h => exact ⟨_, h⟩
  | physicsMesh h => exact ⟨_, h⟩
  | physicsModel h => exact ⟨_, h⟩

/-- A mesh that was saved is stamped. -/
lemma MeshFile.stampedSince_of_save {uri : String} {m : Mesh} {p : Platform} {d d' : Depot}
    (h : (MeshFile.save uri m p).run d = (.ok (), d')) : d.StampedSince d' uri := by
  obtain ⟨data, d₀, hdata, hwrite⟩ := Job.exists_of_bind_run h
  obtain ⟨-, rfl⟩ := Job.run_ofExcept_eq_ok_iff.mp hdata
  exact Depot.stampedSince_of_writeAll hwrite

/-- **Models that were generated are stamped**, the model and the physics model. -/
lemma Scene.stampedSince_of_generateModels {s : Scene} {id : AssetId} {platform : Platform}
    {base : String} {flags : Flags} {mode : Mode} {d d' : Depot}
    (h : (s.generateModels id platform base flags mode).run d = (.ok (), d')) :
    d.StampedSince d' id.model ∧ d.StampedSince d' id.physicsModel := by
  obtain ⟨mesh, physics, pm, d₀, d₁, d₂, -, hphysics, hmodel, hmake, hlast⟩ :=
    exists_of_generateModels h
  have h₀ : d.Evolves id.Last d₀ := (Job.physicsOf_evolves id base).of_run hphysics
  have h₁ : d.Evolves id.Last d₁ :=
    h₀.trans ((Job.writeAll_evolves (.model rfl)).of_run hmodel)
  have h₂ : d₁.Evolves id.Last d₂ := (PhysicsModel.make_evolves id platform mesh physics).of_run hmake
  have h₃ : d₂.Evolves id.Last d' := (Job.writeAll_evolves (.physicsModel rfl)).of_run hlast
  constructor
  · have hstamped := (Depot.stampedSince_of_writeAll hmodel).of_evolves h₀
    exact hstamped.trans_evolves h₁ (h₂.trans h₃) fun e => AssetId.Last.exists_create
  · exact (Depot.stampedSince_of_writeAll hlast).of_evolves (h₁.trans h₂)

namespace Session

variable {tools : Texture.Tools} {s s₁ s₂ : Session} {path : String} {settings : Settings}
  {p : Pending} {d d₁ d₂ : Depot}

/-- The mesh is stamped by a first phase that succeeds: it is written last. -/
lemma stampedSince_of_start
    (h : (s.start (.standard tools) path settings).run d = (.ok (.ok p, s₁), d₁)) :
    d.StampedSince d₁ (AssetId.ofPath path).mesh := by
  have hw := Workshop.standard_confined tools
  obtain ⟨-, -, -, doc, scene, stats, d₀, hload, hall, -⟩ := exists_of_start h
  -- The identity is only a name here; its text need not be computed.
  generalize AssetId.ofPath path = id at hload hall ⊢
  obtain ⟨n, k, m, dt, ds, htextures, hsurfaces, -, hmesh⟩ := Stage.exists_of_all hall
  obtain ⟨-, dm, hsave, rfl⟩ := Stage.exists_of_mesh hmesh
  have hloaded : d.Evolves id.First d₀ := (Document.load_evolves id.source).of_run hload
  have htextured := (Stage.textures_evolves hw doc id).of_run htextures
  have hsurfaced := (Stage.surfaces_evolves doc id settings.mode).of_run hsurfaces
  obtain ⟨j, hj, htime⟩ := (MeshFile.stampedSince_of_save hsave).of_evolves
    (hloaded.trans (htextured.trans hsurfaced))
  exact ⟨j, hj, htime⟩

/-- **Every artifact is stamped** by an export that succeeds. -/
lemma stampedSince_of_exported
    (hstart : (s.start (.standard tools) path settings).run d = (.ok (.ok p, s₁), d₁))
    (hfinish : (s₁.finish (.standard tools) (some p)).run d₁ = (.ok (.ok (), s₂), d₂)) :
    ∀ c ∈ (AssetId.ofPath path).dependencies, d.StampedSince d₂ c.2.2 := by
  have hw := Workshop.standard_confined tools
  have hid := id_of_start hstart
  have hfirst := (start_evolves hw s path settings).of_run hstart
  have hlast := (finish_evolves hw s₁ p).of_run hfinish
  obtain ⟨hmodel, hphysics⟩ := Scene.stampedSince_of_generateModels (generate_of_finish hfinish)
  rw [hid] at hmodel hphysics
  have hmesh := (stampedSince_of_start hstart).trans_evolves hfirst hlast
    fun e => AssetId.Last.exists_create
  have hmodel := hmodel.of_evolves hfirst
  have hphysics := hphysics.of_evolves hfirst
  simp only [AssetId.dependencies, List.forall_mem_cons, List.not_mem_nil, false_imp_iff,
    implies_true, and_true]
  exact ⟨hmodel, hmodel, hmodel, hphysics, hmesh, hmesh⟩

/-! ## Starting again -/

/-- The export of an asset is started again and again, on any of some sessions: what the calls give,
and the sessions that they leave. -/
def startAll (w : Nat → Workshop) (path : String) (sessions : Nat → Session) :
    List (Nat × Settings) → Job (List (Except Failure Pending) × (Nat → Session))
  | [] => return ([], sessions)
  | (i, settings) :: calls => do
    let (r, s) ← (sessions i).start (w i) path settings
    let (rs, sessions) ← startAll w path (Function.update sessions i s) calls
    return (r :: rs, sessions)

/-- An open session refuses an asset that is up to date, and nothing changes. -/
lemma start_of_upToDate (w : Workshop) (hfresh : d.needsExport path = false)
    (hopen : s.state = .isOpen) (hforce : s.force = false) (hvalid : settings.validate = .ok ()) :
    (s.start w path settings).run d = (.ok (.error ⟨.upToDate, []⟩, s), d) := by
  unfold start
  rw [if_neg (not_not.mpr hopen), hvalid]
  simp only
  rw [Job.run_bind_of_ok (Job.run_look _ d), hfresh, hforce]
  rfl

/-- **However often the export of an asset is started that is up to date**, each call is refused,
and nothing changes. -/
lemma startAll_of_upToDate (w : Nat → Workshop) (sessions : Nat → Session)
    (hfresh : d.needsExport path = false) (calls : List (Nat × Settings))
    (hcalls : ∀ c ∈ calls, (sessions c.1).state = .isOpen ∧ (sessions c.1).force = false ∧
      c.2.validate = .ok ()) :
    (startAll w path sessions calls).run d =
      (.ok (calls.map fun _ => .error ⟨.upToDate, []⟩, sessions), d) := by
  induction calls with
  | nil => rfl
  | cons c calls ih =>
    obtain ⟨⟨hopen, hforce, hvalid⟩, hrest⟩ := List.forall_mem_cons.mp hcalls
    have hhead := start_of_upToDate (w c.1) hfresh hopen hforce hvalid
    unfold startAll
    rw [Job.run_bind_of_ok hhead]
    simp only [Function.update_eq_self]
    rw [Job.run_bind_of_ok (ih hrest)]
    rfl

/-- **Exports reach a fixed point.** If both phases of an export succeed and the clock does not run
behind the drivers of the asset, then it is up to date as long as drivers and artifacts keep their
times; and the export of the asset can be started any number of times, on any open sessions that do
not force exports, with any valid settings: every call is refused because the asset is up to date,
and depot and sessions stay as they are.

**Proof sketch.** Every artifact is stamped by a call of the export (`stampedSince_of_exported`), so
no driver is newer. A call on an asset that is up to date changes nothing (`start_of_upToDate`), so
neither does any number of them. -/
theorem upToDate_of_exported (tools : Texture.Tools) (s s₁ s₂ : Session) (path : String)
    (settings : Settings) (p : Pending) (d d₁ d₂ d' : Depot)
    (hstart : (s.start (.standard tools) path settings).run d = (.ok (.ok p, s₁), d₁))
    (hfinish : (s₁.finish (.standard tools) (some p)).run d₁ = (.ok (.ok (), s₂), d₂))
    (hclock : ∀ n, d.journal.length < n → ∀ c ∈ (AssetId.ofPath path).dependencies,
      ∀ changed, d.modTime? c.2.1 = some changed → changed ≤ d.world.clock n)
    (hdrivers : ∀ c ∈ (AssetId.ofPath path).dependencies, d'.modTime? c.2.1 = d.modTime? c.2.1)
    (hartifacts : ∀ c ∈ (AssetId.ofPath path).dependencies,
      d'.modTime? c.2.2 = d₂.modTime? c.2.2) :
    d'.needsExport path = false ∧
    ∀ (w : Nat → Workshop) (sessions : Nat → Session) (calls : List (Nat × Settings)),
      (∀ c ∈ calls, (sessions c.1).state = .isOpen ∧ (sessions c.1).force = false ∧
        c.2.validate = .ok ()) →
      (startAll w path sessions calls).run d' =
        (.ok (calls.map fun _ => .error ⟨.upToDate, []⟩, sessions), d') := by
  have hfresh : d'.needsExport path = false := by
    rw [Depot.needsExport_eq_false_iff]
    intro c hc
    obtain ⟨n, hn, htime⟩ := stampedSince_of_exported hstart hfinish c hc
    rw [Depot.isStale_eq_false_iff, hdrivers c hc, hartifacts c hc]
    exact ⟨_, htime, hclock n hn c hc⟩
  exact ⟨hfresh, fun w sessions calls => startAll_of_upToDate w sessions hfresh calls⟩

/-- Whether both phases of an export succeed, and leave the times of the drivers as they are. -/
def exports (w : Workshop) (s : Session) (path : String) (settings : Settings) (d : Depot) : Bool :=
  match (s.start w path settings).run d with
  | (.ok (.ok p, s₁), d₁) =>
    match (s₁.finish w (some p)).run d₁ with
    | (.ok (.ok _, _), d₂) =>
      (AssetId.ofPath path).dependencies.all fun c => d₂.modTime? c.2.1 = d.modTime? c.2.1
    | _ => false
  | _ => false

/-- A new asset is exported; after that its export is started three times on two sessions. -/
theorem upToDate_of_exported_unexported : ∃ p s₁ s₂ d₁ d₂,
    ((History.opened 0).start (.standard {}) "a/box.gltf" {}).run History.unexported =
      (.ok (.ok p, s₁), d₁) ∧
    (s₁.finish (.standard {}) (some p)).run d₁ = (.ok (.ok (), s₂), d₂) ∧
    History.unexported.needsExport "a/box.gltf" = true ∧ d₂.needsExport "a/box.gltf" = false ∧
    (startAll (fun _ => .standard {}) "a/box.gltf" History.opened [(0, {}), (1, {}), (0, {})]).run d₂ =
      (.ok ([.error ⟨.upToDate, []⟩, .error ⟨.upToDate, []⟩, .error ⟨.upToDate, []⟩],
        History.opened), d₂) := by
  have hexports : exports (.standard {}) (History.opened 0) "a/box.gltf" {} History.unexported =
      true := by decide +kernel
  have hstale : History.unexported.needsExport "a/box.gltf" = true := by decide +kernel
  have htimes : ∀ c ∈ (AssetId.ofPath "a/box.gltf").dependencies,
      ∀ changed ∈ History.unexported.modTime? c.2.1, changed ≤ 100 := by decide +kernel
  unfold exports at hexports
  split at hexports
  · rename_i p s₁ d₁ hstart
    split at hexports
    · rename_i s₂ d₂ hfinish
      have hdrivers : ∀ c ∈ (AssetId.ofPath "a/box.gltf").dependencies,
          d₂.modTime? c.2.1 = History.unexported.modTime? c.2.1 := by
        simpa using hexports
      have hclock : ∀ n, History.unexported.journal.length < n →
          ∀ c ∈ (AssetId.ofPath "a/box.gltf").dependencies, ∀ changed,
            History.unexported.modTime? c.2.1 = some changed →
              changed ≤ History.unexported.world.clock n := by
        intro n _ c hc changed hchanged
        have hle := htimes c hc changed hchanged
        simp only [History.unexported]
        omega
      obtain ⟨hfresh, hagain⟩ := upToDate_of_exported {} _ _ _ _ _ p _ _ d₂ d₂ hstart hfinish
        hclock hdrivers fun _ _ => rfl
      refine ⟨p, s₁, s₂, d₁, d₂, hstart, hfinish, hstale, hfresh, ?_⟩
      exact hagain _ _ _ (by decide)
    · cases hexports
  · cases hexports

end Session

end SceneForge
