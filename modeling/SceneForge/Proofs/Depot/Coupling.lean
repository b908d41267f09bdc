import SceneForge.Proofs.Depot.Confinement
import SceneForge.Proofs.Depot.Listing

set_option autoImplicit false

/-!
# Actions on depots that look alike

An action looks at some locations and does not see the others. A window says which locations these
are; two depots look alike in a window if the locations in it hold the same in both, times aside,
and nothing else about them can be told apart. On such depots an action that keeps to the window
gives the same result, and they look alike afterwards. This is said once for each call of a depot
and for each way in which actions are put together.

## Main definitions

* `SceneForge.Tree.content`, `SceneForge.Tree.Like` — what locations hold, times aside.
* `SceneForge.Window`, `SceneForge.Window.Shows` — which locations are looked at.
* `SceneForge.Depot.Alike` — two depots look alike in a window.
* `SceneForge.Job.Coupled` — an action that cannot tell such depots apart.

## Main results

* `SceneForge.Tree.content_makeDirs` — what a tree holds after directories were made.
* `SceneForge.Job.readAll_coupled`, `SceneForge.Job.writeAll_coupled`,
  `SceneForge.Job.createDirectory_coupled`, `SceneForge.Job.deleteDirectory_coupled` — calls.
* `SceneForge.Job.Coupled.bind` — one action after the other.
-/

namespace SceneForge

/-! ## Contents -/

/-- What an entry holds, its time aside: the bytes of a file, and nothing for a directory. -/
def Entry.content : Entry → Option Bytes
  | file data _ => some data
  | dir _ => none

namespace Tree

variable {t u : Tree} {V : Location → Prop} {l l' : Location}

/-- What a location holds, times aside. -/
def content (t : Tree) (loc : Location) : Option (Option Bytes) := (t.find? loc).map Entry.content

/-- Whether a location holds a file. -/
def holdsFile (t : Tree) (loc : Location) : Bool := (t.content loc).any Option.isSome

/-- The contents of a tree with an entry put in. -/
lemma content_insert (hl : l ≠ []) (e : Entry) :
    (t.insert l e).content l' = if l' = l then some e.content else t.content l' := by
  rw [content, find?_insert hl]
  split_ifs <;> rfl

/-- The contents of a tree without a location. -/
lemma content_erase :
    (t.erase l).content l' = if l <+: l' ∧ l' ≠ [] then none else t.content l' := by
  rw [content, find?_erase]
  split_ifs <;> rfl

/-- All locations above a location are on the way to it. -/
lemma mem_ancestry (h : l' <+: l) (hne : l' ≠ []) : l' ∈ ancestry l := by
  have hpos := List.length_pos_iff.mpr hne
  have hle := h.length_le
  refine List.mem_map.mpr ⟨l'.length - 1, List.mem_range.mpr (by omega), ?_⟩
  rw [Nat.sub_add_cancel hpos]
  exact (List.prefix_iff_eq_take.mp h).symm

/-- Whatever is on the way to a directory is there once it was made. -/
lemma isSome_find?_makeDirs (t : Tree) (time : Int) (h : l' <+: l) :
    ((t.makeDirs l time).find? l').isSome := by
  rcases eq_or_ne l' [] with rfl | hne
  · rfl
  have hmem := mem_ancestry h hne
  have hways : ∀ x ∈ ancestry l, x ≠ [] := fun x hx => (of_mem_ancestry hx).2
  unfold makeDirs
  generalize ancestry l = ways at hmem hways
  induction ways generalizing t with
  | nil => cases hmem
  | cons x ways ih =>
    have hrests := (List.forall_mem_cons.mp hways).2
    rw [List.foldl_cons]
    by_cases hrest : l' ∈ ways
    · exact ih _ hrest hrests
    · obtain rfl : l' = x := (List.mem_cons.mp hmem).resolve_right hrest
      -- once it is there it stays
      refine List.foldlRecOn (motive := fun u : Tree => (u.find? l').isSome) _ _ ?_ ?_
      · split_ifs with hsome
        · exact hsome
        · rw [find?_insert hne, if_pos rfl]
          rfl
      · intro u hu y hy
        split_ifs
        · exact hu
        · rw [find?_insert (hrests y hy)]
          split_ifs
          · rfl
          · exact hu

/-- **The contents of a tree in which directories were made**: those that were missing on the way
are there. -/
lemma content_makeDirs (t : Tree) (l : Location) (time : Int) (l' : Location) :
    (t.makeDirs l time).content l' =
      if l' <+: l ∧ t.content l' = none then some none else t.content l' := by
  rcases find?_makeDirs t l time l' with hsame | ⟨hmade, hle, hnone⟩
  · have hcontent : (t.makeDirs l time).content l' = t.content l' := by rw [content, hsame, content]
    rw [if_neg, hcontent]
    rintro ⟨hle, hnone⟩
    have hsome := isSome_find?_makeDirs t time hle
    rw [← Option.isSome_map (f := Entry.content), ← content, hcontent, hnone] at hsome
    cases hsome
  · rw [if_pos ⟨hle, by rw [content, hnone]; rfl⟩, content, hmade]
    rfl

/-- The contents of a location that holds a file. -/
lemma content_eq_iff {data : Bytes} :
    t.content l = some (some data) ↔ ∃ time, t.find? l = some (.file data time) := by
  rw [content]
  rcases t.find? l with _ | ⟨data', time⟩ | time <;> simp [Entry.content]

/-- A location holds a file if a file is found there. -/
lemma holdsFile_iff : t.holdsFile l = true ↔ ∃ data time, t.find? l = some (.file data time) := by
  rw [holdsFile, content]
  rcases t.find? l with _ | ⟨data, time⟩ | time <;> simp [Entry.content]

/-- Making directories makes no file and removes none. -/
lemma holdsFile_makeDirs (t : Tree) (l : Location) (time : Int) (l' : Location) :
    (t.makeDirs l time).holdsFile l' = t.holdsFile l' := by
  unfold holdsFile
  rw [content_makeDirs]
  split_ifs with h
  · rw [h.2]
    rfl
  · rfl

/-- The outermost file on the way to a location. -/
lemma obstacle?_eq (t : Tree) (l : Location) : t.obstacle? l = (ancestry l).find? t.holdsFile := by
  unfold obstacle?
  congr 1
  funext x
  rw [holdsFile, content]
  rcases t.find? x with _ | ⟨data, time⟩ | time <;> rfl

/-- Two trees hold the same at some locations, times aside, and the same locations on the way to
them are files. -/
structure Like (V : Location → Prop) (t u : Tree) : Prop where
  /-- The same is there. -/
  content : ∀ loc, V loc → t.content loc = u.content loc
  /-- The same files are in the way. -/
  files : ∀ loc l, V loc → l <+: loc → t.holdsFile l = u.holdsFile l

namespace Like

/-- Looking alike is transitive. -/
lemma trans {w : Tree} (h : Like V t u) (h' : Like V u w) : Like V t w where
  content loc hloc := (h.content loc hloc).trans (h'.content loc hloc)
  files loc l hloc hle := (h.files loc l hloc hle).trans (h'.files loc l hloc hle)

/-- The same file stops the way to a location, if there is one. -/
lemma obstacle?_eq (h : Like V t u) (hl : V l) (hle : l' <+: l) : t.obstacle? l' = u.obstacle? l' := by
  rw [Tree.obstacle?_eq, Tree.obstacle?_eq]
  have hways : ∀ x ∈ ancestry l', t.holdsFile x = u.holdsFile x := fun x hx =>
    h.files l x hl ((of_mem_ancestry hx).1.trans hle)
  generalize ancestry l' = ways at hways
  induction ways with
  | nil => rfl
  | cons x ways ih =>
    obtain ⟨hx, hrest⟩ := List.forall_mem_cons.mp hways
    rw [List.find?_cons, List.find?_cons, hx, ih hrest]

/-- The same entry is put in, times aside. -/
lemma insert (h : Like V t u) (hl : l ≠ []) {e e' : Entry} (he : e.content = e'.content) :
    Like V (t.insert l e) (u.insert l e') := by
  refine ⟨fun loc hloc => ?_, fun loc x hloc hle => ?_⟩
  · rw [content_insert hl, content_insert hl, he, h.content loc hloc]
  · have hx := h.files loc x hloc hle
    unfold holdsFile at hx ⊢
    rw [content_insert hl, content_insert hl, he]
    split_ifs
    · rfl
    · exact hx

/-- The same location is removed. -/
lemma erase (h : Like V t u) (l : Location) : Like V (t.erase l) (u.erase l) := by
  refine ⟨fun loc hloc => ?_, fun loc x hloc hle => ?_⟩
  · rw [content_erase, content_erase, h.content loc hloc]
  · have hx := h.files loc x hloc hle
    unfold holdsFile at hx ⊢
    rw [content_erase, content_erase]
    split_ifs
    · rfl
    · exact hx

/-- The same directory is made. -/
lemma makeDirs (h : Like V t u) (l : Location) (time time' : Int) :
    Like V (t.makeDirs l time) (u.makeDirs l time') := by
  refine ⟨fun loc hloc => ?_, fun loc x hloc hle => ?_⟩
  · rw [content_makeDirs, content_makeDirs, h.content loc hloc]
  · rw [holdsFile_makeDirs, holdsFile_makeDirs, h.files loc x hloc hle]

end Like

end Tree

/-! ## Windows -/

/-- Refusals that do not depend on what happened before. -/
def World.Steady (w : World) : Prop := ∀ m n op uri, w.refuses m op uri = w.refuses n op uri

/-- What an action looks at. -/
structure Window where
  /-- Where areas are. -/
  assigns : Assigns
  /-- The scratch names. -/
  scratch : Nat → String
  /-- The locations. -/
  shows : Location → Prop

/-- A location text leads nowhere else than to locations of a window. -/
def Window.Shows (v : Window) (uri : String) : Prop := ∀ loc, v.assigns.Leads uri loc → v.shows loc

namespace Depot

/-- **Two depots look alike** in a window. -/
structure Alike (v : Window) (d e : Depot) : Prop where
  /-- Areas are where the window has them. -/
  assigns : d.assigns = v.assigns ∧ e.assigns = v.assigns
  /-- The world is the same. -/
  world : e.world = d.world
  /-- Scratch names are those of the window. -/
  scratch : d.world.scratch = v.scratch
  /-- Refusals do not depend on what happened before. -/
  steady : d.world.Steady
  /-- The same scratch name is next. -/
  scratchUsed : e.scratchUsed = d.scratchUsed
  /-- Locations of the window hold the same. -/
  tree : d.tree.Like v.shows e.tree

namespace Alike

variable {v : Window} {d e : Depot}

/-- The same calls are refused. -/
lemma refuses_eq (h : Alike v d e) (op : Operation) (uri : String) :
    e.refuses op uri = d.refuses op uri := by
  rw [refuses, refuses, h.world]
  exact h.steady _ _ op uri

/-- Location texts are resolved in the same way. -/
lemma resolve_eq (h : Alike v d e) (uri : String) :
    d.assigns.resolve uri = v.assigns.resolve uri ∧
      e.assigns.resolve uri = v.assigns.resolve uri := by
  rw [h.assigns.1, h.assigns.2]
  exact ⟨rfl, rfl⟩

/-- Depots still look alike if their trees do. -/
lemma with_tree (h : Alike v d e) {t u : Tree} (htree : t.Like v.shows u) (j j' : List Event) :
    Alike v { d with tree := t, journal := j } { e with tree := u, journal := j' } :=
  ⟨h.assigns, h.world, h.scratch, h.steady, h.scratchUsed, htree⟩

/-- Journals do not matter. -/
lemma record (h : Alike v d e) (x : Event) : Alike v (d.record x) (e.record x) :=
  h.with_tree h.tree _ _

/-- What a location text of the window stands for is the same, times aside. -/
lemma stat?_eq (h : Alike v d e) {uri : String} (huri : v.Shows uri) :
    (d.stat? uri).map Entry.content = (e.stat? uri).map Entry.content := by
  unfold stat?
  obtain ⟨hd, he⟩ := h.resolve_eq uri
  rw [hd, he]
  cases hpath : v.assigns.resolve uri with
  | error f => rfl
  | ok path =>
    simp only
    cases hloc : locate path with
    | none => rfl
    | some loc => exact h.tree.content loc (huri loc ⟨path, hpath, hloc⟩)

/-- The same directories exist. -/
lemma directoryExists_eq (h : Alike v d e) {uri : String} (huri : v.Shows uri) :
    d.directoryExists uri = e.directoryExists uri := by
  have hstat := h.stat?_eq huri
  unfold directoryExists
  generalize d.stat? uri = x at hstat ⊢
  generalize e.stat? uri = y at hstat ⊢
  rcases x with _ | ⟨data, time⟩ | time <;> rcases y with _ | ⟨data', time'⟩ | time' <;>
    first | rfl | cases hstat

/-- The same files exist. -/
lemma fileExists_eq (h : Alike v d e) {uri : String} (huri : v.Shows uri) :
    d.fileExists uri = e.fileExists uri := by
  have hstat := h.stat?_eq huri
  unfold fileExists
  generalize d.stat? uri = x at hstat ⊢
  generalize e.stat? uri = y at hstat ⊢
  rcases x with _ | ⟨data, time⟩ | time <;> rcases y with _ | ⟨data', time'⟩ | time' <;>
    first | rfl | cases hstat

/-- A file of the window has the same contents, or is missing for the same reason. -/
lemma contents_eq (h : Alike v d e) {path : String} (hpath : ∀ loc, locate path = some loc →
    v.shows loc) : d.contents path = e.contents path := by
  unfold contents
  cases hloc : locate path with
  | none => rfl
  | some loc =>
    have hshows := hpath loc hloc
    have hcontent := h.tree.content loc hshows
    have hreason : d.missingReason loc = e.missingReason loc := by
      unfold missingReason
      rw [h.world, h.tree.obstacle?_eq hshows (List.dropLast_prefix loc)]
    simp only [Tree.content] at hcontent
    rcases hd : d.tree.find? loc with _ | ⟨data, time⟩ | time <;>
      rcases he : e.tree.find? loc with _ | ⟨data', time'⟩ | time' <;>
      simp only [hd, he, Option.map_some, Option.map_none, Entry.content, reduceCtorEq,
        Option.some.injEq] at hcontent ⊢
    · rw [hreason]
    · rw [hcontent]
    · rw [h.world]

end Alike

end Depot

/-! ## Actions -/

namespace Job

open Depot (Alike locate)

variable {α β : Type} {v : Window} {job : Job α}

/-- **An action that cannot tell depots apart** which look alike: it gives the same result on both,
and they look alike afterwards. -/
def Coupled (v : Window) (job : Job α) : Prop := ∀ d e, Alike v d e →
  (job.run d).1 = (job.run e).1 ∧ Alike v (job.run d).2 (job.run e).2

/-- A given result. -/
lemma ofExcept_coupled (r : Except Failure α) : Coupled v (ofExcept r) := fun _ _ h => ⟨rfl, h⟩

/-- A value. -/
lemma pure_coupled (a : α) : Coupled v (pure a : Job α) := ofExcept_coupled (.ok a)

/-- A failure. -/
lemma fail_coupled (f : Failure) : Coupled v (fail f : Job α) := ofExcept_coupled (.error f)

/-- Looking at what is the same. -/
lemma look_coupled {f : Depot → α} (hf : ∀ d e, Alike v d e → f d = f e) : Coupled v (look f) :=
  fun d e h => ⟨congrArg Except.ok (hf d e h), h⟩

/-- Notices are not looked at. -/
lemma notice_coupled (severity : Severity) (text : String) : Coupled v (notice severity text) :=
  fun _ _ h => ⟨rfl, h.assigns, h.world, h.scratch, h.steady, h.scratchUsed, h.tree⟩

/-- Counts are not looked at. -/
lemma measure_coupled (f : Measures → Measures) : Coupled v (measure f) :=
  fun _ _ h => ⟨rfl, h.assigns, h.world, h.scratch, h.steady, h.scratchUsed, h.tree⟩

/-- One action after the other, on given depots. -/
lemma coupled_bind_run {f : α → Job β} {d e : Depot}
    (h : (job.run d).1 = (job.run e).1 ∧ Alike v (job.run d).2 (job.run e).2)
    (hf : ∀ a d' e', Alike v d' e' → ((f a).run d').1 = ((f a).run e').1 ∧
      Alike v ((f a).run d').2 ((f a).run e').2) :
    ((job >>= f).run d).1 = ((job >>= f).run e).1 ∧
      Alike v ((job >>= f).run d).2 ((job >>= f).run e).2 := by
  rw [run_bind, run_bind]
  generalize job.run d = x at h ⊢
  generalize job.run e = y at h ⊢
  obtain ⟨r, d'⟩ := x
  obtain ⟨r', e'⟩ := y
  obtain ⟨rfl, hafter⟩ : r = r' ∧ Alike v d' e' := h
  cases r with
  | error f => exact ⟨rfl, hafter⟩
  | ok a => exact hf a d' e' hafter

/-- **One action after the other.** -/
lemma Coupled.bind {f : α → Job β} (h : Coupled v job) (hf : ∀ a, Coupled v (f a)) :
    Coupled v (job >>= f) := fun d e hde => coupled_bind_run (h d e hde) fun a => hf a

/-- A context does not matter. -/
lemma Coupled.within (h : Coupled v job) (context : String) : Coupled v (job.within context) :=
  fun d e hde => ⟨congrArg (inContext context) (h d e hde).1, (h d e hde).2⟩

/-- What a failure is replaced by does not matter. -/
lemma Coupled.mapFailure (h : Coupled v job) (f : Failure → Failure) : Coupled v (job.mapFailure f) :=
  fun d e hde => ⟨congrArg (Except.mapError f) (h d e hde).1, (h d e hde).2⟩

/-- The outcome of an action as a value. -/
lemma Coupled.attempt (h : Coupled v job) : Coupled v job.attempt :=
  fun d e hde => ⟨congrArg Except.ok (h d e hde).1, (h d e hde).2⟩

/-- An action followed by another in any case. -/
lemma Coupled.thenAlways (h : Coupled v job) {last : Job Unit} (hlast : Coupled v last) :
    Coupled v (job.thenAlways last) :=
  fun d e hde => ⟨(h d e hde).1, (hlast _ _ (h d e hde).2).2⟩

/-- An action whose failure is only worth a warning. -/
lemma Coupled.orWarn {job : Job Unit} (h : Coupled v job) (text : String) :
    Coupled v (orWarn text job) := by
  refine h.attempt.bind fun r => ?_
  cases r with
  | error f => exact notice_coupled _ _
  | ok a => exact pure_coupled _

/-- One action for every entry of a list. -/
lemma Coupled.mapM {f : β → Job α} (h : ∀ b, Coupled v (f b)) (bs : List β) :
    Coupled v (bs.mapM f) := by
  induction bs with
  | nil => exact pure_coupled _
  | cons b bs ih =>
    rw [List.mapM_cons]
    exact (h b).bind fun a => ih.bind fun as => pure_coupled _

/-! ## Calls -/

variable {uri : String}

/-- **Reading a file** of the window. -/
lemma readAll_coupled (huri : v.Shows uri) : Coupled v (readAll uri) := by
  intro d e h
  obtain ⟨hd, he⟩ := h.resolve_eq uri
  refine ⟨?_, by rw [readAll_run_snd, readAll_run_snd]; exact h⟩
  show (readAll uri d).1 = (readAll uri e).1
  unfold readAll
  rw [h.refuses_eq, h.refuses_eq, hd, he]
  cases hpath : v.assigns.resolve uri with
  | error f =>
    simp only
    split_ifs <;> rfl
  | ok path =>
    have hcontents := h.contents_eq fun loc hloc => huri loc ⟨path, hpath, hloc⟩
    simp only [hcontents]
    cases e.contents path with
    | error f =>
      simp only
      split_ifs <;> rfl
    | ok r =>
      simp only
      split_ifs <;> rfl

/-- Directories are made on the way to what is in the window, or the same file stops them. -/
lemma makeDirs_coupled {d e : Depot} (h : Alike v d e) {path : String}
    (hpath : ∀ l, locate path = some l → l = [] ∨ ∃ loc, v.shows loc ∧ l <+: loc) :
    (∃ f, d.makeDirs path = .error f ∧ e.makeDirs path = .error f) ∨
      ∃ d' e', d.makeDirs path = .ok d' ∧ e.makeDirs path = .ok e' ∧ Alike v d' e' := by
  unfold Depot.makeDirs
  cases hl : locate path with
  | none => exact Or.inl ⟨_, rfl, rfl⟩
  | some l =>
    have hobstacle : d.tree.obstacle? l = e.tree.obstacle? l := by
      rcases hpath l hl with rfl | ⟨loc, hloc, hle⟩
      · rfl
      · exact h.tree.obstacle?_eq hloc hle
    simp only [hobstacle]
    cases e.tree.obstacle? l with
    | some file => exact Or.inl ⟨_, rfl, by rw [h.world]⟩
    | none => exact Or.inr ⟨_, _, rfl, rfl, h.with_tree (h.tree.makeDirs l _ _) _ _⟩

/-- **Making a directory** of the window. -/
lemma createDirectory_coupled (huri : v.Shows uri) : Coupled v (createDirectory uri) := by
  intro d e h
  obtain ⟨hd, he⟩ := h.resolve_eq uri
  have hstart := h.record (.mkdir uri)
  show (createDirectory uri d).1 = (createDirectory uri e).1 ∧
    Alike v (createDirectory uri d).2 (createDirectory uri e).2
  unfold createDirectory
  simp only [h.refuses_eq, hd, he]
  split_ifs
  · exact ⟨rfl, hstart⟩
  cases hpath : v.assigns.resolve uri with
  | error f => exact ⟨rfl, hstart⟩
  | ok path =>
    have hway : ∀ l, locate path = some l → l = [] ∨ ∃ loc, v.shows loc ∧ l <+: loc := fun l hl =>
      Or.inr ⟨l, huri l ⟨path, hpath, hl⟩, List.prefix_refl l⟩
    rcases makeDirs_coupled hstart hway with ⟨f, hd', he'⟩ | ⟨d', e', hd', he', hmade⟩
    · simp only [hd', he', true_and]
      exact hstart
    · simp only [hd', he', true_and]
      exact hmade

/-- **Removing a directory**, in the window or not. -/
lemma deleteDirectory_coupled (uri : String) : Coupled v (deleteDirectory uri) := by
  intro d e h
  obtain ⟨hd, he⟩ := h.resolve_eq uri
  have hstart := h.record (.rmdir uri)
  show (deleteDirectory uri d).1 = (deleteDirectory uri e).1 ∧
    Alike v (deleteDirectory uri d).2 (deleteDirectory uri e).2
  unfold deleteDirectory
  simp only [h.refuses_eq, hd, he]
  split_ifs
  · exact ⟨rfl, hstart⟩
  cases v.assigns.resolve uri with
  | error f => exact ⟨rfl, hstart⟩
  | ok path =>
    cases hl : locate path with
    | none =>
      simp only [hl, true_and]
      exact hstart
    | some l =>
      simp only [hl, true_and]
      exact hstart.with_tree (hstart.tree.erase l) _ _

/-- **Purging a directory** of the window. -/
lemma purgeDirectory_coupled (huri : v.Shows uri) (warning : String) :
    Coupled v (purgeDirectory uri warning) := by
  refine (look_coupled fun d e h => h.directoryExists_eq huri).bind fun there => ?_
  split_ifs
  · exact (deleteDirectory_coupled uri).orWarn _
  · exact pure_coupled _

/-- A file of the window is opened for writing, or a directory is there. -/
lemma truncate_coupled {d e : Depot} (h : Alike v d e) {path : String}
    (hpath : ∀ loc, locate path = some loc → v.shows loc) :
    (∃ f, d.truncate path = .error f ∧ e.truncate path = .error f) ∨
      ∃ d' e' l, l ≠ [] ∧ d.truncate path = .ok (d', l) ∧ e.truncate path = .ok (e', l) ∧
        Alike v d' e' := by
  unfold Depot.truncate
  cases hl : locate path with
  | none => exact Or.inl ⟨_, rfl, rfl⟩
  | some l =>
    have hcontent := h.tree.content l (hpath l hl)
    have hopened : (∀ time, d.tree.find? l ≠ some (.dir time)) → l ≠ [] ∧
        Alike v { d with tree := d.tree.insert l (.file [] d.now) }
          { e with tree := e.tree.insert l (.file [] e.now) } := by
      intro hfree
      have hne : l ≠ [] := by
        rintro rfl
        exact hfree 0 rfl
      have htree : (d.tree.insert l (.file [] d.now)).Like v.shows
          (e.tree.insert l (.file [] e.now)) := h.tree.insert hne rfl
      exact ⟨hne, h.with_tree htree _ _⟩
    simp only [Tree.content] at hcontent
    rcases hd : d.tree.find? l with _ | ⟨bytes, time⟩ | time <;>
      rcases he : e.tree.find? l with _ | ⟨bytes', time'⟩ | time' <;>
      simp only [hd, he, Option.map_some, Option.map_none, Entry.content, reduceCtorEq,
        Option.some.injEq] at hcontent ⊢
    · obtain ⟨hne, halike⟩ := hopened (by simp [hd])
      exact Or.inr ⟨_, _, l, hne, rfl, rfl, halike⟩
    · obtain ⟨hne, halike⟩ := hopened (by simp [hd])
      exact Or.inr ⟨_, _, l, hne, rfl, rfl, halike⟩
    · exact Or.inl ⟨_, rfl, rfl⟩

/-- **Writing a file** of the window, wherever it fails.

**Proof sketch.** Two depots that look alike in the window refuse the same calls and resolve the
text alike. Directories on the way to a place in the window are made on both sides or on neither
(`makeDirs_coupled`), and the same holds of opening the file (`truncate_coupled`). The file that is
put in is the same. -/
lemma writeAll_coupled (huri : v.Shows uri) (data : Bytes) : Coupled v (writeAll uri data) := by
  intro d e h
  obtain ⟨hd, he⟩ := h.resolve_eq uri
  have hstart := h.record (.create uri)
  show (writeAll uri data d).1 = (writeAll uri data e).1 ∧
    Alike v (writeAll uri data d).2 (writeAll uri data e).2
  unfold writeAll
  simp only [h.refuses_eq, hd, he]
  split
  · exact ⟨rfl, hstart⟩
  cases hpath : v.assigns.resolve uri with
  | error f => exact ⟨rfl, hstart⟩
  | ok path =>
    have hdir : ∀ l, locate (Path.dir path) = some l → l = [] ∨ ∃ loc, v.shows loc ∧ l <+: loc := by
      intro l hl
      obtain ⟨text, rfl⟩ := Assigns.exists_norm_of_resolve hpath
      refine (Depot.locate_dir_norm hl).imp_right ?_
      rintro ⟨loc, hloc, rfl⟩
      exact ⟨loc, huri loc ⟨_, hpath, hloc⟩, List.dropLast_prefix loc⟩
    rcases makeDirs_coupled hstart hdir with ⟨f, hd', he'⟩ | ⟨d₁, e₁, hd', he', hmade⟩
    · simp only [hd', he', true_and]
      exact hstart
    have hshows : ∀ loc, locate path = some loc → v.shows loc := fun loc hloc =>
      huri loc ⟨path, hpath, hloc⟩
    rcases truncate_coupled hmade hshows with
      ⟨f, hd'', he''⟩ | ⟨d₂, e₂, l, hne, hd'', he'', hopened⟩
    · simp only [hd', he', hd'', he'', true_and]
      exact hmade
    have hwritten : Alike v { d₂ with tree := d₂.tree.insert l (.file data d₂.now) }
        { e₂ with tree := e₂.tree.insert l (.file data e₂.now) } := by
      have htree : (d₂.tree.insert l (.file data d₂.now)).Like v.shows
          (e₂.tree.insert l (.file data e₂.now)) := hopened.tree.insert hne rfl
      exact hopened.with_tree htree _ _
    simp only [hd', he', hd'', he'']
    split_ifs
    · exact ⟨rfl, hopened⟩
    · exact ⟨rfl, hwritten⟩
    · exact ⟨rfl, hwritten⟩

end Job

end SceneForge
