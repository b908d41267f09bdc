import SceneForge.Proofs.Export.Footprint

set_option autoImplicit false

/-!
# Staleness after a failed export

Staleness is read off time stamps, and a failed export leaves stamps behind: the mesh is stamped
when it is opened for writing, before anything is written, and it stays when the second phase fails.
So a failed export can hide that an asset is stale. It does so exactly if each artifact was either
fresh and is kept, or was stamped anew by an event of the export, no earlier than its driver.

## Main definitions

* `SceneForge.Depot.Renewed` — an artifact was made since an earlier state.
* `SceneForge.Depot.LeftFresh` — an artifact looks fresh after what happened.
* `SceneForge.Session.Fails` — how an export of an asset can fail.

## Main results

* `SceneForge.Depot.Evolves.stat?_cases` — what became of an artifact.
* `SceneForge.Session.Fails.evolves` — a failed export keeps to the footprint of the asset.
* `SceneForge.Session.needsExport_eq_false_iff_of_fails` — when a failed export hides staleness.
-/

namespace SceneForge

/-! ## Artifacts -/

namespace Depot

variable {S : Event → Prop} {d d' : Depot}

/-- What a location text stands for was made by an event since an earlier state, at some time. -/
inductive Renewed (S : Event → Prop) (d d' : Depot) (uri : String) (time : Int) : Prop where
  /-- The event that made it, and what it made. -/
  | intro {j : Nat} {e : Event} {x : Entry} {path : String} {loc : Location}
      (resolved : d.assigns.resolve uri = .ok path) (located : locate path = some loc)
      (since : d.journal.length ≤ j) (event : d'.journal[j]? = some e) (kind : S e)
      (makes : e.Makes d.assigns loc x) (holds : d'.stat? uri = some x) (stamp : x.time = time)
      (clock : time = d.world.clock (j + 1))

/-- What is renewed is there, with the time of its event. -/
lemma Renewed.modTime? {uri : String} {time : Int} (h : Renewed S d d' uri time) :
    d'.modTime? uri = some time := by
  obtain ⟨-, -, -, -, -, -, holds, stamp, -⟩ := h
  rw [Depot.modTime?, holds, Option.map_some, stamp]

/-- Nothing is renewed without an event. -/
lemma Renewed.journal_ne {uri : String} {time : Int} (h : Renewed S d d' uri time) :
    d'.journal ≠ d.journal := by
  intro hjournal
  obtain ⟨-, -, since, event, -, -, -, -, -⟩ := h
  obtain ⟨hlt, -⟩ := List.getElem?_eq_some_iff.mp event
  rw [hjournal] at hlt
  omega

/-- An event that came after a state is one of those by which the depot evolved. -/
lemma Evolves.kind (h : Evolves S d d') {j : Nat} {e : Event} (since : d.journal.length ≤ j)
    (event : d'.journal[j]? = some e) : S e := by
  obtain ⟨events, hevents, hS⟩ := h.journal
  rw [hevents, List.getElem?_append_right since] at event
  exact hS e (List.mem_of_getElem? event)

/-- **What became of an artifact**: it is kept, gone, or renewed. -/
lemma Evolves.stat?_cases (h : Evolves S d d') (uri : String) :
    d'.stat? uri = d.stat? uri ∨ d'.stat? uri = none ∨ ∃ time, Renewed S d d' uri time := by
  cases hpath : d.assigns.resolve uri with
  | error f => exact Or.inl (by simp [stat?, h.assigns, hpath])
  | ok path =>
    cases hloc : locate path with
    | none => exact Or.inl (by simp [stat?, h.assigns, hpath, hloc])
    | some loc =>
      have hstat : d.stat? uri = d.tree.find? loc := by simp [stat?, hpath, hloc]
      have hstat' : d'.stat? uri = d'.tree.find? loc := by simp [stat?, h.assigns, hpath, hloc]
      rw [hstat, hstat']
      cases h.fate loc with
      | kept same => exact Or.inl same
      | removed since event removes gone => exact Or.inr (Or.inl gone)
      | made since event makes holds time =>
        have hS := h.kind since event
        have hholds := hstat'.trans holds
        exact Or.inr (Or.inr ⟨_, .intro hpath hloc since event hS makes hholds rfl time⟩)

/-! ## Comparisons -/

/-- An artifact is fresh if it is there and its driver is not newer. -/
lemma isStale_eq_false_iff {driver derived : String} : d.isStale driver derived = false ↔
    ∃ made, d.modTime? derived = some made ∧
      ∀ changed, d.modTime? driver = some changed → changed ≤ made := by
  unfold isStale
  cases d.modTime? derived with
  | none => simp
  | some made =>
    cases d.modTime? driver with
    | none => simp
    | some changed => simp

/-- An asset is up to date if all its artifacts are fresh. -/
lemma needsExport_eq_false_iff {path : String} : d.needsExport path = false ↔
    ∀ c ∈ (AssetId.ofPath path).dependencies, d.isStale c.2.1 c.2.2 = false := by
  simp [needsExport, checks]

/-- An artifact is left fresh: it is kept and was fresh, or it is renewed and its driver is not
newer. -/
def LeftFresh (S : Event → Prop) (d d' : Depot) (driver derived : String) : Prop :=
  d'.stat? derived = d.stat? derived ∧ d.isStale driver derived = false ∨
    ∃ time, Renewed S d d' derived time ∧
      ∀ changed, d.modTime? driver = some changed → changed ≤ time

/-- **Freshness after an evolution**, the driver being as before. -/
lemma Evolves.isStale_eq_false_iff (h : Evolves S d d') {driver derived : String}
    (hdriver : d'.modTime? driver = d.modTime? driver) :
    d'.isStale driver derived = false ↔ LeftFresh S d d' driver derived := by
  unfold LeftFresh
  rw [Depot.isStale_eq_false_iff, Depot.isStale_eq_false_iff, hdriver]
  constructor
  · rintro ⟨made, hmade, hle⟩
    rcases h.stat?_cases derived with hkept | hgone | ⟨time, hrenewed⟩
    · rw [modTime?, hkept] at hmade
      exact Or.inl ⟨hkept, made, hmade, hle⟩
    · rw [modTime?, hgone] at hmade
      cases hmade
    · rw [hrenewed.modTime?, Option.some.injEq] at hmade
      exact Or.inr ⟨time, hrenewed, hmade ▸ hle⟩
  · rintro (⟨hkept, made, hmade, hle⟩ | ⟨time, hrenewed, hle⟩)
    · exact ⟨made, by rw [modTime?, hkept]; exact hmade, hle⟩
    · exact ⟨time, hrenewed.modTime?, hle⟩

end Depot

namespace Session

/-! ## Failed exports -/

/-- Whether a phase of an export ended in a failure. -/
def hasFailed {α : Type} : Except Failure (Except Failure α × Session) → Bool
  | .ok (.ok _, _) => false
  | _ => true

/-- The phases in which an export can fail, and the depots that it leaves then: the first phase
fails, or it succeeds and the second one fails. -/
inductive Fails (w : Workshop) (s : Session) (path : String) (settings : Settings) (d : Depot) :
    Phase → Depot → Prop where
  /-- The first phase fails. -/
  | start (failed : hasFailed ((s.start w path settings).run d).1 = true) :
      Fails w s path settings d .first ((s.start w path settings).run d).2
  /-- The second phase fails. -/
  | finish {p : Pending} {s₁ : Session} {d₁ : Depot}
      (started : (s.start w path settings).run d = (.ok (.ok p, s₁), d₁))
      (failed : hasFailed ((s₁.finish w (some p)).run d₁).1 = true) :
      Fails w s path settings d .second ((s₁.finish w (some p)).run d₁).2

variable {w : Workshop} {s : Session} {path : String} {settings : Settings} {phase : Phase}
  {d d' : Depot}

/-- **A failed export keeps to the footprint** of the asset. -/
lemma Fails.evolves (hw : w.Confined) (h : Fails w s path settings d phase d') :
    d.Evolves ((AssetId.ofPath path).Footprint phase) d' := by
  have hstart := start_evolves hw s path settings d
  cases h with
  | start _ => exact hstart
  | finish started _ =>
    rw [started] at hstart
    refine (hstart.mono fun e h => Or.inl h).trans ((finish_evolves hw _ _ _).mono fun e h => ?_)
    rw [id_of_start started] at h
    exact Or.inr h

/-- **A failed export hides that an asset is stale** exactly if every artifact is as fresh as before
the export, or was stamped anew by it, no earlier than its driver. In particular it hides nothing if
it made no mutating call.

**Proof sketch.** Whatever fails, the depot evolves by events of the export (`Fails.evolves`), so
each artifact is kept, gone or renewed (`Depot.Evolves.stat?_cases`), and its freshness follows from
that since the drivers are as before. -/
theorem needsExport_eq_false_iff_of_fails (tools : Texture.Tools) (s : Session) (path : String)
    (settings : Settings) (phase : Phase) (d d' : Depot)
    (hfails : s.Fails (.standard tools) path settings d phase d')
    (hdrivers : ∀ c ∈ (AssetId.ofPath path).dependencies, d'.modTime? c.2.1 = d.modTime? c.2.1) :
    (d'.needsExport path = false ↔ ∀ c ∈ (AssetId.ofPath path).dependencies,
      Depot.LeftFresh ((AssetId.ofPath path).Footprint phase) d d' c.2.1 c.2.2) ∧
    (d.needsExport path = true → d'.journal = d.journal → d'.needsExport path = true) := by
  have hevolves := hfails.evolves (Workshop.standard_confined tools)
  have hiff : d'.needsExport path = false ↔ ∀ c ∈ (AssetId.ofPath path).dependencies,
      Depot.LeftFresh ((AssetId.ofPath path).Footprint phase) d d' c.2.1 c.2.2 := by
    rw [Depot.needsExport_eq_false_iff]
    exact forall₂_congr fun c hc => hevolves.isStale_eq_false_iff (hdrivers c hc)
  refine ⟨hiff, fun hstale hjournal => ?_⟩
  by_contra hfresh
  have hkept : d.needsExport path = false := by
    rw [Depot.needsExport_eq_false_iff]
    intro c hc
    rcases hiff.mp (by simpa using hfresh) c hc with ⟨-, h⟩ | ⟨time, hrenewed, -⟩
    · exact h
    · exact absurd hjournal hrenewed.journal_ne
  rw [hkept] at hstale
  cases hstale

/-- A depot with an asset of which only the mesh is missing; writing the mesh is refused once it is
open. -/
def meshMissing : Depot where
  tree := ⟨[(["src", "a", "box.gltf"], .file (utf8 "{}") 10),
    (["mdl", "a", "box.model"], .file [] 20), (["phys", "a", "box.physmodel"], .file [] 20)]⟩
  assigns := ⟨[("src", "src"), ("mdl", "mdl"), ("phys", "phys"), ("msh", "msh"), ("tex", "tex")]⟩
  world :=
    { clock := fun n => 100 + n
      refuses := fun _ op uri => op = .write && uri = "msh:a/box.mesh"
      scratch := fun _ => "scratch" }

/-- A session that is ready for an export. -/
def ready : Session where
  platform := default
  state := .isOpen
  scene := some {}

/-- The failed export of the asset leaves an empty mesh that looks fresh. -/
theorem needsExport_eq_false_iff_of_fails_meshMissing :
    ∃ d', ready.Fails (.standard {}) "a/box.gltf" {} meshMissing .first d' ∧
      (∀ c ∈ (AssetId.ofPath "a/box.gltf").dependencies,
        d'.modTime? c.2.1 = meshMissing.modTime? c.2.1) ∧
      meshMissing.needsExport "a/box.gltf" = true ∧ d'.needsExport "a/box.gltf" = false ∧
      ∃ time, Depot.Renewed ((AssetId.ofPath "a/box.gltf").Footprint .first) meshMissing d'
        (AssetId.ofPath "a/box.gltf").mesh time := by
  have hrun : let r := (ready.start (.standard {}) "a/box.gltf" {}).run meshMissing
      hasFailed r.1 = true ∧ meshMissing.needsExport "a/box.gltf" = true ∧
        r.2.needsExport "a/box.gltf" = false ∧
        ∀ c ∈ (AssetId.ofPath "a/box.gltf").dependencies,
          r.2.modTime? c.2.1 = meshMissing.modTime? c.2.1 := by
    decide +kernel
  have hmissing : meshMissing.isStale (AssetId.ofPath "a/box.gltf").source
      (AssetId.ofPath "a/box.gltf").mesh = true := by decide +kernel
  obtain ⟨hfailed, hstale, hfresh, hdrivers⟩ := hrun
  have hfails := Fails.start hfailed
  have hmesh : ("source/mesh", (AssetId.ofPath "a/box.gltf").source,
      (AssetId.ofPath "a/box.gltf").mesh) ∈ (AssetId.ofPath "a/box.gltf").dependencies := by
    simp [AssetId.dependencies]
  have hleft := (needsExport_eq_false_iff_of_fails {} ready "a/box.gltf" {} .first meshMissing _
    hfails hdrivers).1.mp hfresh _ hmesh
  refine ⟨_, hfails, hdrivers, hstale, hfresh, ?_⟩
  rcases hleft with ⟨-, h⟩ | ⟨time, hrenewed, -⟩
  · rw [hmissing] at h
    cases h
  · exact ⟨time, hrenewed⟩

end Session

end SceneForge
