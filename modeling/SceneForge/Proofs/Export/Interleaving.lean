import SceneForge.Proofs.Export.Parties

set_option autoImplicit false

/-!
# Interleaved exports

Several parties take turns on one depot: each starts an export and later ends it, in an order that a
schedule gives. Parties that have nothing to do with each other do not notice the turns of the
others. Each one comes as far as if it had been alone, with the same results, and in the end the
same files are there with the same contents, whatever the order was.

## Main definitions

* `SceneForge.Progress`, `SceneForge.Order.call` — how far a party has come, and its next call.
* `SceneForge.Order.turn`, `SceneForge.play` — turns, and all turns of a schedule.
* `SceneForge.Tree.Grounded` — nothing is there without the directories above.
* `SceneForge.Settled` — what holds between turns.
* `SceneForge.Order.Tracks` — a party cannot tell two depots apart.

## Main results

* `SceneForge.Order.call_cases` — what a call of a party can do.
* `SceneForge.Order.Tracks.own_turn`, `SceneForge.Order.Tracks.other_turn` — one turn.
* `SceneForge.Settled.turn` — what holds between turns holds after each.
* `SceneForge.play_tracks` — all turns of a schedule.
* `SceneForge.play_perm` — the order of turns does not matter.
-/

namespace SceneForge

open Assigns (below)
open Depot (Alike Keeps)

/-! ## Turns -/

/-- How far a party has come: its session, and what its calls returned so far. -/
structure Progress where
  /-- The session. -/
  session : Session
  /-- What starting the export returned. -/
  started : Option (Except Failure Pending) := none
  /-- What ending the export returned. -/
  ended : Option (Except Failure Unit) := none

/-- A depot that comes up with given scratch names next. -/
def Depot.drawing (d : Depot) (names : Nat → String) : Depot :=
  { d with world := { d.world with scratch := names }, scratchUsed := 0 }

namespace Order

/-- A party that has not done anything yet. -/
def fresh (o : Order) : Progress := { session := o.session }

/-- The next call of a party. It starts its export, and ends it if it could be started; then there
is nothing left to do. -/
def call (o : Order) (c : Progress) : Job Progress :=
  match c.started, c.ended with
  | none, _ => do
    let (r, s) ← c.session.start (.standard o.tools) o.path o.settings
    return { c with session := s, started := some r }
  | some (.ok p), none => do
    let (r, s) ← c.session.finish (.standard o.tools) (some p)
    return { c with session := s, ended := some r }
  | _, _ => return c

/-- A turn of a party is its next call, with scratch names of its own. -/
def turn (o : Order) (c : Progress) : Job Progress := fun d => (o.call c).run (d.drawing o.names)

/-- **What a call of a party can do**: it starts the export, or ends the one that was started, or
nothing. -/
lemma call_cases (o : Order) (c : Progress) (d : Depot) :
    (c.started = none ∧ ∃ r s d',
      (c.session.start (.standard o.tools) o.path o.settings).run d = (.ok (r, s), d') ∧
      (o.call c).run d = (.ok { c with session := s, started := some r }, d')) ∨
    (∃ p, c.started = some (.ok p) ∧ ∃ r s d',
      (c.session.finish (.standard o.tools) (some p)).run d = (.ok (r, s), d') ∧
      (o.call c).run d = (.ok { c with session := s, ended := some r }, d')) ∨
    c.started ≠ none ∧ (o.call c).run d = (.ok c, d) := by
  obtain ⟨s, started, ended⟩ := c
  rcases started with _ | f | p
  · obtain ⟨r, s', d', hstart, -⟩ :=
      Session.start_moves (.standard o.tools) s o.path o.settings d
    exact Or.inl ⟨rfl, r, s', d', hstart, Job.run_bind_of_ok hstart _⟩
  · exact Or.inr (Or.inr ⟨by simp, rfl⟩)
  · cases ended with
    | none =>
      obtain ⟨r, s', d', hfinish, -⟩ := Session.finish_moves (.standard o.tools) s (some p) d
      exact Or.inr (Or.inl ⟨p, rfl, r, s', d', hfinish, Job.run_bind_of_ok hfinish _⟩)
    | some r => exact Or.inr (Or.inr ⟨by simp, rfl⟩)

/-- A party has started the export that it was to start. -/
def Fits (o : Order) (c : Progress) : Prop := ∀ p, c.started = some (.ok p) → p.id = o.asset

variable {o : Order} {c c' : Progress} {d d' e : Depot}

/-- **Calls keep to what a party writes.** -/
lemma call_spares (hfits : o.Fits c) : Job.Steps (Depot.Spares o.asset.zone) (o.call c) := by
  obtain ⟨s, started, ended⟩ := c
  rcases started with _ | f | p
  · exact Session.start_spares.bind fun _ => Job.pure_steps _
  · exact Job.pure_steps _
  · rw [← hfits p rfl]
    cases ended with
    | none => exact (Session.finish_spares p).bind fun _ => Job.pure_steps _
    | some r => exact Job.pure_steps _

/-- A party starts the export that it was to start. -/
lemma Fits.call (hfits : o.Fits c) (h : (o.call c).run d = (.ok c', d')) : o.Fits c' := by
  rcases o.call_cases c d with ⟨-, r, s, d₁, hstart, hcall⟩ | ⟨p, hp, r, s, d₁, hfinish, hcall⟩ |
    ⟨-, hcall⟩
  · cases hcall.symm.trans h
    rintro p ⟨⟩
    exact Session.id_of_start hstart
  · cases hcall.symm.trans h
    exact hfits
  · cases hcall.symm.trans h
    exact hfits

/-- After its first call a party has started. -/
lemma started_of_call (h : (o.call c).run d = (.ok c', d')) : c'.started ≠ none := by
  rcases o.call_cases c d with ⟨-, r, s, d₁, -, hcall⟩ | ⟨p, hp, r, s, d₁, -, hcall⟩ |
    ⟨hstarted, hcall⟩
  · cases hcall.symm.trans h
    exact Option.some_ne_none r
  · cases hcall.symm.trans h
    rw [hp]
    exact Option.some_ne_none _
  · cases hcall.symm.trans h
    exact hstarted

end Order

/-- All turns of a schedule, one after the other: how far the parties come. -/
def play {ι : Type} [DecidableEq ι] (orders : ι → Order) : (ι → Progress) → List ι → Job (ι → Progress)
  | progress, [] => return progress
  | progress, i :: schedule => do
    let c ← (orders i).turn (progress i)
    play orders (Function.update progress i c) schedule

/-! ## Starting without a source -/

/-- A file that is not there cannot be read. -/
lemma Job.readAll_of_missing {uri : String} {d : Depot}
    (h : ∀ loc, d.assigns.Leads uri loc → d.tree.find? loc = none) :
    ∃ f, (Job.readAll uri).run d = (.error f, d) := by
  show ∃ f, Job.readAll uri d = (.error f, d)
  unfold Job.readAll
  by_cases hrefused : d.refuses .openStream uri
  · rw [if_pos hrefused]
    exact ⟨_, rfl⟩
  rw [if_neg hrefused]
  cases hpath : d.assigns.resolve uri with
  | error f => exact ⟨_, rfl⟩
  | ok path =>
    obtain ⟨f, hf⟩ : ∃ f, d.contents path = .error f := by
      unfold Depot.contents
      cases hloc : Depot.locate path with
      | none => exact ⟨_, rfl⟩
      | some loc =>
        simp only [h loc ⟨path, hpath, hloc⟩]
        exact ⟨_, rfl⟩
    simp only [hf]
    exact ⟨_, rfl⟩

/-- A failing action fails with the failure that replaces its own. -/
lemma Job.run_mapFailure_of_error {α : Type} {job : Job α} {d d' : Depot} {f : Failure}
    (h : job.run d = (.error f, d')) (g : Failure → Failure) :
    (job.mapFailure g).run d = (.error (g f), d') := by
  show ((job.run d).1.mapError g, (job.run d).2) = _
  rw [h]
  rfl

/-- A document that is not there cannot be loaded. -/
lemma Document.load_of_missing {uri : String} {d : Depot}
    (h : ∀ loc, d.assigns.Leads uri loc → d.tree.find? loc = none) :
    ∃ f, (Document.load uri).run d = (.error f, d) := by
  obtain ⟨f, hread⟩ := Job.readAll_of_missing h
  rw [Document.load, Job.run_bind, Job.run_mapFailure_of_error hread]
  exact ⟨_, rfl⟩

/-- **An export without a source** cannot be started, and nothing is written. -/
lemma Session.start_of_missing {tools : Texture.Tools} {s s' : Session} {path : String}
    {settings : Settings} {d d' : Depot} {r : Except Failure Pending}
    (h : ∀ loc, d.assigns.Leads (AssetId.ofPath path).source loc → d.tree.find? loc = none)
    (hstart : (s.start (.standard tools) path settings).run d = (.ok (r, s'), d')) :
    d'.tree = d.tree ∧ ∀ p, r ≠ .ok p := by
  obtain ⟨f, hload⟩ : ∃ f, ((Workshop.standard tools).load (AssetId.ofPath path).source).run d =
      (.error f, d) := Document.load_of_missing h
  unfold start at hstart
  split_ifs at hstart
  · cases hstart
    exact ⟨rfl, fun p => by simp⟩
  cases hvalid : settings.validate with
  | error f =>
    rw [hvalid] at hstart
    cases hstart
    exact ⟨rfl, fun p => by simp⟩
  | ok _ =>
    simp only [hvalid] at hstart
    obtain ⟨stale, d₁, hlook, hstart⟩ := Job.exists_of_bind_run hstart
    obtain ⟨-, rfl⟩ := Prod.mk.inj hlook
    split_ifs at hstart
    · cases hstart
      exact ⟨rfl, fun p => by simp⟩
    · obtain ⟨⟨r₁, s₁⟩, d₂, hrun, hstart⟩ := Job.exists_of_bind_run hstart
      unfold run at hrun
      rw [Job.run_bind_of_ok (Job.run_attempt_eq_ok_iff.mpr hload)] at hrun
      cases hrun
      cases hstart
      exact ⟨rfl, fun p => by simp⟩

/-! ## What holds between turns -/

/-- Nothing is in a tree without everything above it. -/
def Tree.Grounded (t : Tree) : Prop :=
  ∀ l loc, l <+: loc → (t.find? loc).isSome → (t.find? l).isSome

/-- Whether a tree is grounded can be found out. -/
instance Tree.decidableGrounded (t : Tree) : Decidable t.Grounded :=
  decidable_of_iff (∀ x ∈ t.entries, ∀ l ∈ x.1.inits, (t.find? l).isSome) <| by
    have hsome : ∀ loc, loc ≠ [] → ((t.find? loc).isSome ↔ ∃ x ∈ t.entries, x.1 = loc) := by
      intro loc hne
      rw [find?, if_neg hne, Option.isSome_map, List.find?_isSome]
      simp
    constructor
    · intro h l loc hle hloc
      by_cases hnil : loc = []
      · rw [hnil] at hle
        rw [List.prefix_nil.mp hle]
        rfl
      · obtain ⟨x, hx, rfl⟩ := (hsome loc hnil).mp hloc
        exact h x hx l ((List.mem_inits l x.1).mpr hle)
    · intro h x hx l hl
      refine h l x.1 ((List.mem_inits l x.1).mp hl) ?_
      by_cases hnil : x.1 = []
      · rw [hnil]
        rfl
      · exact (hsome x.1 hnil).mpr ⟨x, hx, rfl⟩

/-- **What holds between turns**: parties have started what they were to start, and the directory
above all sources is there, unless the whole project is missing and no export was started. A source
may be that directory, and exports lie below it: if it was missing, other parties could make it. -/
structure Settled {ι : Type} (root : String) (orders : ι → Order) (progress : ι → Progress) (d : Depot) :
    Prop where
  /-- Areas are below the project root. -/
  assigns : d.assigns = below root
  /-- Exports are those of the orders. -/
  fits : ∀ i, (orders i).Fits (progress i)
  /-- The project is there, or nothing happens. -/
  top : ∀ src, (below root).Leads "src:" src → (d.tree.find? src.dropLast).isSome ∨
    (∀ loc, src.dropLast <+: loc → d.tree.find? loc = none) ∧
      ∀ i p, (progress i).started ≠ some (.ok p)

variable {ι : Type} {root : String} {orders : ι → Order} {progress : ι → Progress} {i j : ι}
  {c : Progress} {d d' e : Depot} {loc src : Location}

/-- Before the first turn. -/
lemma Settled.of_grounded (hroot : d.assigns = below root) (h : d.tree.Grounded) :
    Settled root orders (fun i => (orders i).fresh) d where
  assigns := hroot
  fits i p hp := by cases hp
  top src _ := by
    by_cases hsome : (d.tree.find? src.dropLast).isSome
    · exact Or.inl hsome
    · refine Or.inr ⟨fun loc hle => ?_, fun i p hp => by cases hp⟩
      exact Option.not_isSome_iff_eq_none.mp fun hloc => hsome (h _ _ hle hloc)

namespace Settled

variable (hs : Settled root orders progress d) (h : Unrelated (below root) orders)
  (hturn : ((orders j).turn (progress j)).run d = (.ok c, d'))

include hs h hturn

/-- A turn keeps to what its party writes. -/
lemma keeps : Keeps ((orders j).asset.zone.upTo (d.drawing (orders j).names) d')
    (d.drawing (orders j).names) d' := by
  have hrun : ((orders j).call (progress j)).run (d.drawing (orders j).names) = (.ok c, d') := hturn
  have hkeeps := Order.call_spares (hs.fits j) (d.drawing (orders j).names) (h.ordinary j)
  rwa [hrun] at hkeeps

/-- **No file changes in a turn** that its party does not own. -/
lemma find?_file_iff (hloc : ¬ (orders j).Owns (below root) loc) (data : Bytes) (time : Int) :
    d'.tree.find? loc = some (.file data time) ↔ d.tree.find? loc = some (.file data time) := by
  rw [← hs.assigns] at hloc
  exact (hs.keeps h hturn).find?_file_iff_of_clear (Order.clear_of_not_owns rfl hloc) data time

/-- A turn in a project that is missing does nothing. -/
lemma tree_eq_of_missing (hsrc : (below root).Leads "src:" src)
    (hnone : ∀ loc, src.dropLast <+: loc → d.tree.find? loc = none)
    (hidle : ∀ i p, (progress i).started ≠ some (.ok p)) :
    d'.tree = d.tree ∧ ∀ p, c.started ≠ some (.ok p) := by
  rcases (orders j).call_cases (progress j) (d.drawing (orders j).names) with
    ⟨-, r, s, d₁, hstart, hcall⟩ | ⟨p, hp, -⟩ | ⟨-, hcall⟩
  · cases hcall.symm.trans hturn
    have hsource : ∀ loc, (d.drawing (orders j).names).assigns.Leads
        (AssetId.ofPath (orders j).path).source loc →
        (d.drawing (orders j).names).tree.find? loc = none := by
      intro loc hloc
      have hleads : (below root).Leads (AssetId.ofPath (orders j).path).source loc :=
        hs.assigns ▸ hloc
      have hext := AssetId.noSeparator_ext_ofPath (orders j).path
      obtain ⟨src', hsrc', hcases⟩ :=
        AssetId.source_located (h.category_ne_parent j) (by simp [hext]) hleads
      obtain rfl := hsrc.unique hsrc'
      refine hnone loc ?_
      rcases hcases with hle | rfl
      · exact (List.dropLast_prefix src).trans hle
      · exact List.prefix_refl _
    obtain ⟨htree, hr⟩ := Session.start_of_missing hsource hstart
    exact ⟨htree, fun p hp => hr p (Option.some.inj hp)⟩
  · exact absurd hp (hidle j p)
  · cases hcall.symm.trans hturn
    exact ⟨rfl, hidle j⟩

/-- The directory above all sources does not change in a turn. -/
lemma find?_dropLast (hsrc : (below root).Leads "src:" src) :
    d'.tree.find? src.dropLast = d.tree.find? src.dropLast := by
  rcases hs.top src hsrc with hsome | ⟨hnone, hidle⟩
  · have hloc := h.not_owns_dropLast hsrc j
    rw [← hs.assigns] at hloc
    exact (hs.keeps h hturn).find?_eq_of_clear (Order.clear_of_not_owns rfl hloc) hsome
  · rw [(hs.tree_eq_of_missing h hturn hsrc hnone hidle).1]

/-- **What a party looks at does not change** in the turn of another party. -/
lemma find?_eq (hij : i ≠ j) (hloc : ((orders i).window (below root)).shows loc) :
    d'.tree.find? loc = d.tree.find? loc := by
  -- the directory above all sources is the only location of a window that others write below
  by_cases htop : ∃ src, (below root).Leads "src:" src ∧ loc = src.dropLast
  · obtain ⟨src, hsrc, rfl⟩ := htop
    exact hs.find?_dropLast h hturn hsrc
  · refine (hs.keeps h hturn).find?_eq_of_misses fun uri huri l hl => ?_
    have hnames := Order.names_of_mem_uris rfl huri
    have hleads : (below root).Leads uri l := hs.assigns ▸ hl
    exact ⟨fun hle => h.not_owns hij hloc ⟨uri, l, hnames, hleads, hle⟩,
      h.not_above hij hloc (fun src hsrc heq => htop ⟨src, hsrc, heq⟩) hnames hleads⟩

/-- **Turns keep what holds between them.** -/
lemma turn [DecidableEq ι] : Settled root orders (Function.update progress j c) d' where
  assigns := (hs.keeps h hturn).assigns.trans hs.assigns
  fits i := by
    by_cases hij : i = j
    · subst hij
      rw [Function.update_self]
      exact (hs.fits i).call hturn
    · rw [Function.update_of_ne hij]
      exact hs.fits i
  top src hsrc := by
    refine (hs.top src hsrc).imp (fun hsome => ?_) ?_
    · rwa [hs.find?_dropLast h hturn hsrc]
    · rintro ⟨hnone, hidle⟩
      obtain ⟨htree, hstarted⟩ := hs.tree_eq_of_missing h hturn hsrc hnone hidle
      refine ⟨fun loc hle => by rw [htree, hnone loc hle], fun i p => ?_⟩
      by_cases hij : i = j
      · subst hij
        rw [Function.update_self]
        exact hstarted p
      · rw [Function.update_of_ne hij]
        exact hidle i p

end Settled

/-! ## What a party notices -/

/-- Whether an asset has to be exported depends on what its checks look at. -/
lemma Depot.needsExport_eq {v : Window} {path : String}
    (hassigns : d.assigns = v.assigns ∧ e.assigns = v.assigns)
    (hchecks : ∀ check ∈ (AssetId.ofPath path).dependencies, v.Shows check.2.1 ∧ v.Shows check.2.2)
    (hsame : ∀ loc, v.shows loc → d.tree.find? loc = e.tree.find? loc) :
    d.needsExport path = e.needsExport path := by
  have hstat : ∀ uri, v.Shows uri → d.stat? uri = e.stat? uri := by
    intro uri huri
    unfold stat?
    rw [hassigns.1, hassigns.2]
    cases hpath : v.assigns.resolve uri with
    | error f => rfl
    | ok p =>
      cases hloc : locate p with
      | none => simp [hloc]
      | some loc => simpa [hloc] using hsame loc (huri loc ⟨p, hpath, hloc⟩)
  have hall : d.checks (AssetId.ofPath path) = e.checks (AssetId.ofPath path) := by
    refine List.map_congr_left fun ⟨name, driver, derived⟩ hcheck => ?_
    obtain ⟨hdriver, hderived⟩ := hchecks _ hcheck
    simp only [isStale, modTime?, hstat _ hdriver, hstat _ hderived]
  rw [needsExport, hall, needsExport]

/-- Depots that look alike do so with the same scratch names again. -/
lemma Depot.Alike.drawing {v : Window} (h : Alike v d e) :
    Alike v (d.drawing v.scratch) (e.drawing v.scratch) where
  assigns := h.assigns
  world := by
    show ({ e.world with scratch := v.scratch } : World) = { d.world with scratch := v.scratch }
    rw [h.world]
  scratch := rfl
  steady := h.steady
  scratchUsed := rfl
  tree := h.tree

namespace Order

variable {o : Order} {c' : Progress}

/-- **Calls of a party** give the same on depots that look alike, if both agree on whether there is
something to do. -/
lemma call_coupled {v : Window} (hshown : o.asset.Shown v) (hfits : o.Fits c) (hde : Alike v d e)
    (hneeds : c.started = none → d.needsExport o.path = e.needsExport o.path) :
    ((o.call c).run d).1 = ((o.call c).run e).1 ∧
      Alike v ((o.call c).run d).2 ((o.call c).run e).2 := by
  obtain ⟨s, started, ended⟩ := c
  rcases started with _ | f | p
  · exact Job.coupled_bind_run (Session.start_coupled hshown s o.settings hde (hneeds rfl))
      fun r d' e' h => Job.pure_coupled _ d' e' h
  · exact ⟨rfl, hde⟩
  · cases ended with
    | none =>
      rw [← hfits p rfl] at hshown
      exact ((Session.finish_coupled hshown s).bind fun _ => Job.pure_coupled _) d e hde
    | some r => exact ⟨rfl, hde⟩

/-- **A party cannot tell two depots apart** at its next turn: they look alike in its window, and as
long as it has not started, times in the window are the same too. -/
structure Tracks (o : Order) (a : Assigns) (c : Progress) (d e : Depot) : Prop where
  /-- The depots look alike. -/
  alike : Alike (o.window a) (d.drawing o.names) (e.drawing o.names)
  /-- Before the first turn the window is the same. -/
  same : c.started = none → ∀ loc, (o.window a).shows loc → d.tree.find? loc = e.tree.find? loc

namespace Tracks

/-- **A turn of the party itself** gives the same on both depots. -/
lemma own_turn (ht : (orders i).Tracks (below root) (progress i) d e)
    (hs : Settled root orders progress d) (h : Unrelated (below root) orders)
    (hturn : ((orders i).turn (progress i)).run d = (.ok c, d')) :
    ∃ e', ((orders i).turn (progress i)).run e = (.ok c, e') ∧
      (orders i).Tracks (below root) c d' e' := by
  have hneeds : (progress i).started = none → (d.drawing (orders i).names).needsExport
      (orders i).path = (e.drawing (orders i).names).needsExport (orders i).path := fun hnone =>
    Depot.needsExport_eq ht.alike.assigns (fun check hcheck => h.shows_dependencies i hcheck)
      (ht.same hnone)
  obtain ⟨hresult, halike⟩ := call_coupled (h.shown i) (hs.fits i) ht.alike hneeds
  have hrun : ((orders i).call (progress i)).run (d.drawing (orders i).names) = (.ok c, d') := hturn
  rw [hrun] at hresult halike
  exact ⟨(((orders i).turn (progress i)).run e).2, Prod.ext hresult.symm rfl, halike.drawing,
    fun hnone => absurd hnone (started_of_call hrun)⟩

/-- **A turn of another party** is not noticed. -/
lemma other_turn (ht : (orders i).Tracks (below root) (progress i) d e)
    (hs : Settled root orders progress d) (h : Unrelated (below root) orders) (hij : i ≠ j)
    (hturn : ((orders j).turn (progress j)).run d = (.ok c, d')) :
    (orders i).Tracks (below root) (progress i) d' e := by
  have hkeeps := hs.keeps h hturn
  have hsame : ∀ loc, ((orders i).window (below root)).shows loc →
      d'.tree.find? loc = d.tree.find? loc := fun loc hloc => hs.find?_eq h hturn hij hloc
  have hworld : (d'.drawing (orders i).names).world = (d.drawing (orders i).names).world := by
    show ({ d'.world with scratch := (orders i).names } : World) =
      { d.world with scratch := (orders i).names }
    rw [hkeeps.world]
    rfl
  have hlike : d'.tree.Like ((orders i).window (below root)).shows d.tree := by
    refine ⟨fun loc hloc => by rw [Tree.content, hsame loc hloc, Tree.content],
      fun loc l hloc hle => ?_⟩
    have hfree : ¬ (orders j).Owns (below root) l := by
      rintro ⟨uri, l', huri, hl', hle'⟩
      exact h.not_owns hij hloc ⟨uri, l', huri, hl', hle'.trans hle⟩
    rw [Bool.eq_iff_iff, Tree.holdsFile_iff, Tree.holdsFile_iff]
    exact exists₂_congr fun data time => hs.find?_file_iff h hturn hfree data time
  refine ⟨⟨⟨hkeeps.assigns.trans hs.assigns, ht.alike.assigns.2⟩, ?_, rfl, ?_, rfl, ?_⟩, ?_⟩
  · exact ht.alike.world.trans hworld.symm
  · rw [hworld]
    exact ht.alike.steady
  · exact hlike.trans ht.alike.tree
  · exact fun hnone loc hloc => (hsame loc hloc).trans (ht.same hnone loc hloc)

end Tracks

end Order

/-! ## Schedules -/

/-- Every turn ends. -/
lemma Order.exists_of_turn (o : Order) (c : Progress) (d : Depot) :
    ∃ c' d', (o.turn c).run d = (.ok c', d') := by
  rcases o.call_cases c (d.drawing o.names) with ⟨-, r, s, d', -, hcall⟩ |
    ⟨p, -, r, s, d', -, hcall⟩ | ⟨-, hcall⟩
  all_goals exact ⟨_, _, hcall⟩

variable [DecidableEq ι] {progress' solo solo' : ι → Progress} {e' : Depot} {schedule : List ι}

/-- All turns of a schedule end. -/
lemma exists_of_play (orders : ι → Order) (progress : ι → Progress) (schedule : List ι) (d : Depot) :
    ∃ progress' d', (play orders progress schedule).run d = (.ok progress', d') := by
  induction schedule generalizing progress d with
  | nil => exact ⟨progress, d, rfl⟩
  | cons i schedule ih =>
    obtain ⟨c, d₁, hturn⟩ := (orders i).exists_of_turn (progress i) d
    obtain ⟨progress', d', hplay⟩ := ih (Function.update progress i c) d₁
    exact ⟨progress', d', (Job.run_bind_of_ok hturn _).trans hplay⟩

/-- **No file changes that belongs to no party.** -/
lemma play_file_iff (h : Unrelated (below root) orders)
    (hloc : ∀ i, ¬ (orders i).Owns (below root) loc) (hs : Settled root orders progress d)
    (hplay : (play orders progress schedule).run d = (.ok progress', d')) (data : Bytes) (time : Int) :
    d'.tree.find? loc = some (.file data time) ↔ d.tree.find? loc = some (.file data time) := by
  induction schedule generalizing progress d with
  | nil =>
    obtain ⟨-, rfl⟩ := Prod.mk.inj hplay
    rfl
  | cons j schedule ih =>
    obtain ⟨c, d₁, hturn, hrest⟩ := Job.exists_of_bind_run hplay
    exact (ih (hs.turn h hturn) hrest).trans (hs.find?_file_iff h hturn (hloc j) data time)

/-- **All turns of a schedule**: a party comes as far as it would have come alone, and in the end it
cannot tell the two depots apart.

**Proof sketch.** Induction on the schedule. A turn of the party itself is taken on both depots, and
  gives the same on both (`Order.Tracks.own_turn`). A turn of another party is taken on one depot
  only, and goes unnoticed (`Order.Tracks.other_turn`). -/
lemma play_tracks (h : Unrelated (below root) orders) (i : ι) (hs : Settled root orders progress d)
    (hs' : Settled root orders solo e) (hsame : progress i = solo i)
    (ht : (orders i).Tracks (below root) (progress i) d e)
    (hplay : (play orders progress schedule).run d = (.ok progress', d'))
    (hsolo : (play orders solo (schedule.filter (· = i))).run e = (.ok solo', e')) :
    progress' i = solo' i ∧ (orders i).Tracks (below root) (progress' i) d' e' := by
  induction schedule generalizing progress solo d e with
  | nil =>
    obtain ⟨hprogress, rfl⟩ := Prod.mk.inj hplay
    obtain ⟨hsolos, rfl⟩ := Prod.mk.inj hsolo
    obtain rfl := Except.ok.inj hprogress
    obtain rfl := Except.ok.inj hsolos
    exact ⟨hsame, ht⟩
  | cons j schedule ih =>
    obtain ⟨c, d₁, hturn, hrest⟩ := Job.exists_of_bind_run hplay
    by_cases hij : i = j
    · -- the party takes its turn on both depots
      subst hij
      rw [List.filter_cons_of_pos (by simp)] at hsolo
      obtain ⟨c', e₁, hturn', hrest'⟩ := Job.exists_of_bind_run hsolo
      obtain ⟨e₂, hown, ht'⟩ := ht.own_turn hs h hturn
      rw [hsame] at hown
      obtain ⟨hc, rfl⟩ := Prod.mk.inj (hown.symm.trans hturn')
      obtain rfl := Except.ok.inj hc
      have hupdate : Function.update progress i c i = Function.update solo i c i := by simp
      exact ih (hs.turn h hturn) (hs'.turn h hturn') hupdate (by simpa using ht') hrest hrest'
    · -- another party takes its turn, on the first depot only
      rw [List.filter_cons_of_neg (by simpa using Ne.symm hij)] at hsolo
      have hkept : Function.update progress j c i = progress i := Function.update_of_ne hij _ _
      have ht' := ht.other_turn hs h hij hturn
      exact ih (hs.turn h hturn) hs' (hkept.trans hsame) (by rwa [hkept]) hrest hsolo

/-- **The order of turns does not matter.** For all parties whose artifacts are all different and
not nested in one another and who take different scratch names, on any depot below a project root:
two schedules that give each party the same number of turns lead to the same returned failures and
statistics, to sessions in the same states, and to the same files with the same contents, times
aside. With two parties, the rearrangements of a schedule with two turns for each are the ways to
interleave two exports. Calls may fail, but not depending on how many calls there were before; and
the depot has to be a tree, in which nothing is there without the directories above it.

**Proof sketch.** Under either schedule each party comes as far as with its own turns alone
(`play_tracks`), and these are the same turns. So they end up at the same point, and what a party
owns holds the same. No other file has changed (`play_file_iff`). -/
theorem play_perm {ι : Type} [DecidableEq ι] (root : String) (orders : ι → Order) (d : Depot)
    (hroot : d.assigns = below root) (hgrounded : d.tree.Grounded) (hsteady : d.world.Steady)
    (h : Unrelated (below root) orders) (schedule schedule' : List ι)
    (hperm : schedule.Perm schedule') :
    ∃ progress d₁ d₂,
      (play orders (fun i => (orders i).fresh) schedule).run d = (.ok progress, d₁) ∧
      (play orders (fun i => (orders i).fresh) schedule').run d = (.ok progress, d₂) ∧
      ∀ loc data, (∃ time, d₁.tree.find? loc = some (.file data time)) ↔
        ∃ time, d₂.tree.find? loc = some (.file data time) := by
  obtain ⟨progress, d₁, hplay⟩ := exists_of_play orders (fun i => (orders i).fresh) schedule d
  obtain ⟨progress', d₂, hplay'⟩ := exists_of_play orders (fun i => (orders i).fresh) schedule' d
  have hs : Settled root orders (fun i => (orders i).fresh) d := .of_grounded hroot hgrounded
  have ht : ∀ i, (orders i).Tracks (below root) (orders i).fresh d d := fun i =>
    ⟨⟨⟨hroot, hroot⟩, rfl, rfl, hsteady, rfl, ⟨fun _ _ => rfl, fun _ _ _ _ => rfl⟩⟩,
      fun _ _ _ => rfl⟩
  -- both schedules are compared with the turns of one party alone
  have hboth : ∀ i, progress i = progress' i ∧ ∀ loc, (orders i).Owns (below root) loc →
      d₁.tree.content loc = d₂.tree.content loc := by
    intro i
    have hfilter : schedule.filter (· = i) = schedule'.filter (· = i) := by
      rw [List.filter_eq, List.filter_eq, hperm.count_eq]
    obtain ⟨solo, e, hsolo⟩ := exists_of_play orders (fun i => (orders i).fresh)
      (schedule.filter (· = i)) d
    obtain ⟨hsame, htracks⟩ := play_tracks h i hs hs rfl (ht i) hplay hsolo
    rw [hfilter] at hsolo
    obtain ⟨hsame', htracks'⟩ := play_tracks h i hs hs rfl (ht i) hplay' hsolo
    refine ⟨hsame.trans hsame'.symm, fun loc hloc => ?_⟩
    exact (htracks.alike.tree.content loc (Or.inl hloc)).trans
      (htracks'.alike.tree.content loc (Or.inl hloc)).symm
  obtain rfl : progress = progress' := funext fun i => (hboth i).1
  refine ⟨progress, d₁, d₂, hplay, hplay', fun loc data => ?_⟩
  by_cases howned : ∃ i, (orders i).Owns (below root) loc
  · obtain ⟨i, hi⟩ := howned
    have hcontent := (hboth i).2 loc hi
    rw [← Tree.content_eq_iff, ← Tree.content_eq_iff, hcontent]
  · have hfree : ∀ i, ¬ (orders i).Owns (below root) loc := fun i hi => howned ⟨i, hi⟩
    exact exists_congr fun time => (play_file_iff h hfree hs hplay data time).trans
      (play_file_iff h hfree hs hplay' data time).symm

/-- A project with two documents, the second of them broken, and a texture from an earlier export of
the first. -/
def Depot.workbench : Depot where
  tree := ⟨[(["assets"], .dir 1), (["assets", "a"], .dir 1), (["assets", "b"], .dir 1),
    (["assets", "a", "box.gltf"], .file (utf8 "\x7b\x7d") 10),
    (["assets", "b", "lamp.gltf"], .file (utf8 "?") 10),
    (["export"], .dir 20), (["export", "textures"], .dir 20), (["export", "textures", "a"], .dir 20),
    (["export", "textures", "a", "box_gltf"], .dir 20),
    (["export", "textures", "a", "box_gltf", "0.png"], .file [1] 20)]⟩
  assigns := .below ""
  world := { clock := fun n => 100 + n, refuses := fun _ _ _ => false, scratch := fun _ => "scratch" }

/-- Two parties, one for each document. -/
def Order.pair : Bool → Order
  | false => { session := History.opened 0, path := "a/box.gltf", names := fun _ => "first" }
  | true => { session := History.opened 1, path := "b/lamp.gltf", names := fun _ => "second" }

/-- The two parties have nothing to do with each other. -/
lemma Order.unrelated_pair : Unrelated (below "") pair where
  artifacts i j k l hne := by
    have hnamed : ∀ i, (pair i).asset.Named := fun i => by
      cases i <;> exact ⟨⟨by decide, by decide⟩, by decide⟩
    rw [AssetId.reaches_iff (hnamed i) (hnamed j)]
    revert hne
    cases i <;> cases j <;> cases k <;> cases l <;> decide
  ordinary i n := by
    have hfirst : Path.Ordinary "first".toList := by decide
    have hsecond : Path.Ordinary "second".toList := by decide
    cases i
    · exact hfirst
    · exact hsecond
  distinct i j hij m n := by
    have hne : "first" ≠ "second" := by decide
    cases i <;> cases j
    · exact absurd rfl hij
    · exact hne
    · exact hne.symm
    · exact absurd rfl hij

/-- What is left of the exports of two parties: whether they were started and ended without a
failure, and which of some locations hold files. -/
def Order.survey (locs : List Location) :
    Except Failure (Bool → Progress) × Depot → List (Option Bool × Option Bool) × List Bool
  | (.ok progress, d) => ([false, true].map fun i =>
      ((progress i).started.map (·.isOk), (progress i).ended.map (·.isOk)), locs.map d.tree.holdsFile)
  | (.error _, _) => ([], [])

/-- One export after the other: the first one succeeds, the second one is refused. -/
lemma Order.survey_pair : survey [["export", "models", "a", "box.model"],
    ["export", "textures", "a", "box_gltf", "0.png"]] ((play pair (fun i => (pair i).fresh)
      [false, false, true, true]).run .workbench) =
        ([(some true, some true), (some false, none)], [true, false]) := by
  decide +kernel

/-- The second export is refused and the first one succeeds, though the second one is tried before
the first one has ended. The model of the first one is there, and its old texture is gone. -/
theorem play_perm_pair : ∃ progress d₁ d₂,
    (play Order.pair (fun i => (Order.pair i).fresh) [false, true, true, false]).run .workbench =
      (.ok progress, d₁) ∧
    (play Order.pair (fun i => (Order.pair i).fresh) [false, false, true, true]).run .workbench =
      (.ok progress, d₂) ∧
    (progress false).ended.map (·.isOk) = some true ∧
    (progress true).started.map (·.isOk) = some false ∧
    (∃ data time, d₁.tree.find? ["export", "models", "a", "box.model"] = some (.file data time)) ∧
    ∀ data time,
      d₁.tree.find? ["export", "textures", "a", "box_gltf", "0.png"] ≠ some (.file data time) := by
  obtain ⟨progress, d₁, d₂, hplay, hplay', hfiles⟩ := play_perm "" Order.pair .workbench rfl
    (by decide) (fun _ _ _ _ => rfl) Order.unrelated_pair [false, true, true, false]
    [false, false, true, true] (by decide)
  have hsurvey := Order.survey_pair
  rw [hplay'] at hsurvey
  simp only [Order.survey, List.map_cons, List.map_nil, Prod.mk.injEq, List.cons.injEq,
    and_true] at hsurvey
  obtain ⟨⟨⟨-, hended⟩, hstarted, -⟩, hmodel, htexture⟩ := hsurvey
  refine ⟨progress, d₁, d₂, hplay, hplay', hended, hstarted, ?_, fun data time hfile => ?_⟩
  · obtain ⟨data, time, hfile⟩ := Tree.holdsFile_iff.mp hmodel
    exact ⟨data, (hfiles _ data).mpr ⟨time, hfile⟩⟩
  · obtain ⟨time', hfile'⟩ := (hfiles _ data).mp ⟨time, hfile⟩
    have hpresent := Tree.holdsFile_iff.mpr ⟨data, time', hfile'⟩
    rw [htexture] at hpresent
    cases hpresent

end SceneForge
