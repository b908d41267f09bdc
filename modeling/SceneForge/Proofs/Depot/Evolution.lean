import Mathlib.Tactic.Common
import SceneForge.Depot.Files

set_option autoImplicit false

/-!
# How a depot evolves

Whatever an action does to a depot is written in its journal: a location holds what it held before,
or an event since then removed it, or an event since then made what it holds now and stamped it with
its time. This is said once as a relation between two depots; every call of a depot keeps to it, and
so does everything that is put together from such calls.

## Main definitions

* `SceneForge.Event.Makes`, `SceneForge.Event.Removes` — what an event does to a location.
* `SceneForge.Depot.Fate`, `SceneForge.Depot.Evolves` — what became of a location, and of a depot.
* `SceneForge.Depot.Lawful`, `SceneForge.Job.Steps` — relations that compose, and the actions that
  keep to them.
* `SceneForge.Job.Evolves` — an action under which every depot evolves.

## Main results

* `SceneForge.Tree.find?_insert`, `SceneForge.Tree.find?_erase`, `SceneForge.Tree.find?_makeDirs` —
  what a changed tree holds.
* `SceneForge.Depot.Evolves.trans` — evolutions compose.
* `SceneForge.Job.writeAll_evolves` — writing a file, wherever it fails.
-/

namespace SceneForge

/-! ## Changed trees -/

namespace Tree

variable {t : Tree} {l l' : Location}

/-- The top directory is always there. -/
@[simp]
lemma find?_nil (t : Tree) : t.find? [] = some (.dir 0) := rfl

/-- Below the top directory, a tree holds what is listed. -/
lemma find?_of_ne (h : l ≠ []) : t.find? l = (t.entries.find? fun e => e.1 = l).map (·.2) :=
  if_neg h

/-- A tree with an entry put in holds it, and else what it held before.

**Proof sketch.** A location that is listed keeps its position and gets the entry; one that is not
is put behind all others. Either way the look-up of another location passes it over. -/
lemma find?_insert (hl : l ≠ []) (e : Entry) :
    (t.insert l e).find? l' = if l' = l then some e else t.find? l' := by
  rcases eq_or_ne l' [] with rfl | hl'
  · simp [hl.symm]
  rw [find?_of_ne hl', find?_of_ne hl', insert]
  by_cases hany : t.entries.any fun x => x.1 = l
  · -- The keys stay where they are, so the same position is found.
    have hkey : ∀ x : Location × Entry, (if x.1 = l then (l, e) else x).1 = x.1 := by
      intro x
      split_ifs with hx
      · exact hx.symm
      · rfl
    rw [if_pos hany]
    simp only [List.find?_map, Function.comp_def, hkey, Option.map_map]
    split_ifs with heq
    · subst heq
      obtain ⟨x, hx, hxl⟩ := List.any_eq_true.mp hany
      obtain ⟨y, hy⟩ : ∃ y, t.entries.find? (fun x => x.1 = l') = some y :=
        Option.isSome_iff_exists.mp (List.find?_isSome.mpr ⟨x, hx, hxl⟩)
      have hyl : y.1 = l' := by simpa using List.find?_some hy
      simp [hy, hyl]
    · cases hfind : t.entries.find? (fun x => x.1 = l') with
      | none => rfl
      | some y =>
        have hyl : y.1 = l' := by simpa using List.find?_some hfind
        simp [hyl, heq]
  · rw [if_neg hany]
    have hnone : t.entries.find? (fun x => x.1 = l) = none := by
      rw [List.find?_eq_none]
      exact fun x hx hxl => hany (List.any_eq_true.mpr ⟨x, hx, hxl⟩)
    rw [List.find?_append]
    split_ifs with heq
    · subst heq
      simp [hnone]
    · simp [Ne.symm heq]

/-- A tree without a location holds nothing there and below. -/
lemma find?_erase : (t.erase l).find? l' = if l <+: l' ∧ l' ≠ [] then none else t.find? l' := by
  rcases eq_or_ne l' [] with rfl | hl'
  · simp
  rw [find?_of_ne hl', find?_of_ne hl', erase]
  simp only [List.find?_filter, hl', ne_eq, not_false_eq_true, and_true]
  split_ifs with hle
  · rw [Option.map_eq_none_iff, List.find?_eq_none]
    rintro x - hx
    simp only [Bool.not_eq_true', decide_eq_true_eq] at hx
    rw [hx.2, ← Bool.not_eq_true, List.isPrefixOf_iff_prefix] at hx
    exact hx.1 hle
  · congr 2
    funext x
    by_cases hx : x.1 = l'
    · have hnot : l.isPrefixOf l' = false := by
        rw [← Bool.not_eq_true, List.isPrefixOf_iff_prefix]
        exact hle
      simp [hx, hnot]
    · simp [hx]

/-- The locations on the way to a location lie above it, and none is the top directory. -/
lemma of_mem_ancestry (h : l' ∈ ancestry l) : l' <+: l ∧ l' ≠ [] := by
  obtain ⟨i, hi, rfl⟩ := List.mem_map.mp h
  refine ⟨List.take_prefix _ _, fun hnil => ?_⟩
  rw [List.mem_range] at hi
  have hlen := congrArg List.length hnil
  simp only [List.length_take, List.length_nil] at hlen
  omega

/-- Making a directory keeps what is there, and adds directories that were missing on the way to
it. -/
lemma find?_makeDirs (t : Tree) (l : Location) (time : Int) (l' : Location) :
    (t.makeDirs l time).find? l' = t.find? l' ∨
      (t.makeDirs l time).find? l' = some (.dir time) ∧ l' <+: l ∧ t.find? l' = none := by
  refine List.foldlRecOn (motive := fun u : Tree => u.find? l' = t.find? l' ∨
    u.find? l' = some (.dir time) ∧ l' <+: l ∧ t.find? l' = none) _ _ (Or.inl rfl)
    fun u hu x hx => ?_
  obtain ⟨hle, hne⟩ := of_mem_ancestry hx
  split_ifs with hsome
  · exact hu
  · rw [find?_insert hne]
    split_ifs with heq
    · subst heq
      rcases hu with hu | ⟨hu, -⟩
      · exact Or.inr ⟨rfl, hle, by rw [← hu]; simpa using hsome⟩
      · simp [hu] at hsome
    · exact hu

end Tree

/-! ## Events and what they do -/

namespace Event

open Depot (locate)

/-- An event makes what a location holds: a file that is written, or a directory on the way to what
is written or made. -/
inductive Makes (a : Assigns) (loc : Location) : Event → Entry → Prop where
  /-- A file is written. -/
  | file {uri path : String} {data : Bytes} {time : Int} (resolved : a.resolve uri = .ok path)
      (located : locate path = some loc) : Makes a loc (.create uri) (.file data time)
  /-- A directory is made for a file. -/
  | holder {uri path : String} {l : Location} {time : Int} (resolved : a.resolve uri = .ok path)
      (located : locate (Path.dir path) = some l) (above : loc <+: l) :
      Makes a loc (.create uri) (.dir time)
  /-- A directory is made. -/
  | directory {uri path : String} {l : Location} {time : Int} (resolved : a.resolve uri = .ok path)
      (located : locate path = some l) (above : loc <+: l) : Makes a loc (.mkdir uri) (.dir time)

/-- An event removes what a location holds: a directory is removed there or above. -/
inductive Removes (a : Assigns) (loc : Location) : Event → Prop where
  /-- A directory is removed. -/
  | directory {uri path : String} {l : Location} (resolved : a.resolve uri = .ok path)
      (located : locate path = some l) (below : l <+: loc) : Removes a loc (.rmdir uri)

end Event

namespace Depot

/-- What became of a location between two states of a depot. -/
inductive Fate (d d' : Depot) (loc : Location) : Prop where
  /-- It holds what it held before. -/
  | kept (same : d'.tree.find? loc = d.tree.find? loc)
  /-- It was removed. -/
  | removed {j : Nat} {e : Event} (since : d.journal.length ≤ j) (event : d'.journal[j]? = some e)
      (removes : e.Removes d.assigns loc) (gone : d'.tree.find? loc = none)
  /-- It was made and stamped with the time of the event that made it. -/
  | made {j : Nat} {e : Event} {x : Entry} (since : d.journal.length ≤ j)
      (event : d'.journal[j]? = some e) (makes : e.Makes d.assigns loc x)
      (holds : d'.tree.find? loc = some x) (time : x.time = d.world.clock (j + 1))

/-- A depot has evolved by some events: everything that changed is explained by one of them. -/
structure Evolves (S : Event → Prop) (d d' : Depot) : Prop where
  /-- Areas stay where they are. -/
  assigns : d'.assigns = d.assigns
  /-- The world is the same. -/
  world : d'.world = d.world
  /-- The journal has grown by events of the given kind. -/
  journal : ∃ events, d'.journal = d.journal ++ events ∧ ∀ e ∈ events, S e
  /-- Every change is explained. -/
  fate : ∀ loc, Fate d d' loc

variable {S : Event → Prop} {d d' d'' : Depot}

/-- Nothing has to happen. -/
lemma Evolves.of_same (htree : d'.tree = d.tree) (hassigns : d'.assigns = d.assigns)
    (hworld : d'.world = d.world) (hjournal : d'.journal = d.journal) : Evolves S d d' :=
  ⟨hassigns, hworld, ⟨[], by simp [hjournal], by simp⟩, fun loc => .kept (by rw [htree])⟩

/-- An evolution by some events is one by more. -/
lemma Evolves.mono {T : Event → Prop} (h : Evolves S d d') (hST : ∀ e, S e → T e) :
    Evolves T d d' := by
  obtain ⟨events, hevents, hS⟩ := h.journal
  exact ⟨h.assigns, h.world, ⟨events, hevents, fun e he => hST e (hS e he)⟩, h.fate⟩

/-- **Evolutions compose**: what the second one kept is explained by the first one, and the journal
of the first one is still there. -/
lemma Evolves.trans (h : Evolves S d d') (h' : Evolves S d' d'') : Evolves S d d'' := by
  obtain ⟨events, hevents, hS⟩ := h.journal
  obtain ⟨events', hevents', hS'⟩ := h'.journal
  have hlen : d.journal.length ≤ d'.journal.length := by
    rw [hevents, List.length_append]
    omega
  have hkeep : ∀ {j : Nat} {e : Event}, d'.journal[j]? = some e → d''.journal[j]? = some e := by
    intro j e he
    obtain ⟨hj, -⟩ := List.getElem?_eq_some_iff.mp he
    rw [hevents', List.getElem?_append_left hj, he]
  refine ⟨h'.assigns.trans h.assigns, h'.world.trans h.world, ⟨events ++ events', ?_, ?_⟩, ?_⟩
  · rw [hevents', hevents, List.append_assoc]
  · intro e he
    rcases List.mem_append.mp he with he | he
    · exact hS e he
    · exact hS' e he
  · intro loc
    cases h'.fate loc with
    | kept same =>
      cases h.fate loc with
      | kept same' => exact .kept (same.trans same')
      | removed since event removes gone =>
        exact .removed since (hkeep event) removes (same.trans gone)
      | made since event makes holds time =>
        exact .made since (hkeep event) makes (same.trans holds) time
    | removed since event removes gone =>
      exact .removed (Nat.le_trans hlen since) event (h.assigns ▸ removes) gone
    | made since event makes holds time =>
      exact .made (Nat.le_trans hlen since) event (h.assigns ▸ makes) holds (h.world ▸ time)

/-- A depot evolves by one event if that event explains every change of its tree. -/
lemma evolves_record {e : Event} {t : Tree} (hS : S e)
    (hfate : ∀ loc, t.find? loc = d.tree.find? loc ∨
      e.Removes d.assigns loc ∧ t.find? loc = none ∨
      ∃ x, e.Makes d.assigns loc x ∧ t.find? loc = some x ∧
        x.time = d.world.clock (d.journal.length + 1)) :
    Evolves S d { d.record e with tree := t } := by
  have hlast : (d.journal ++ [e])[d.journal.length]? = some e := by simp
  refine ⟨rfl, rfl, ⟨[e], rfl, by simpa using hS⟩, fun loc => ?_⟩
  rcases hfate loc with h | ⟨hremoves, hnone⟩ | ⟨x, hmakes, hx, htime⟩
  · exact .kept h
  · exact .removed (Nat.le_refl _) hlast hremoves hnone
  · exact .made (Nat.le_refl _) hlast hmakes hx htime

/-- A file or directory that was refused is written in the journal. -/
lemma evolves_record_only {e : Event} (hS : S e) : Evolves S d (d.record e) :=
  evolves_record hS fun _ => Or.inl rfl

end Depot

/-! ## Actions -/

/-- What is counted of the assets that were exported: their outcomes, and why they failed. -/
def Measures.tallies (m : Measures) : List (String × Nat) × List (String × Nat) :=
  (m.assets, m.errors)

namespace Measures

/-- Textures are no assets. -/
@[simp] lemma tallies_addTextures (m : Measures) (n : Int) : (m.addTextures n).tallies = m.tallies :=
  rfl

/-- Surfaces are no assets. -/
@[simp] lemma tallies_addSurfaces (m : Measures) (n : Int) : (m.addSurfaces n).tallies = m.tallies :=
  rfl

/-- Meshes are no assets. -/
@[simp] lemma tallies_mesh (m : Measures) (n : Int) : (m.mesh n).tallies = m.tallies := rfl

end Measures

/-- A relation between two states of a depot that holds where nothing happens except for notices,
counts of what was written, and scratch names that are taken, and along one step after the other. -/
class Depot.Lawful (R : Depot → Depot → Prop) : Prop where
  /-- Nothing has to happen. -/
  quiet : ∀ {d d' : Depot}, d'.tree = d.tree → d'.assigns = d.assigns → d'.world = d.world →
    d'.journal = d.journal → d.scratchUsed ≤ d'.scratchUsed →
    d'.measures.tallies = d.measures.tallies → R d d'
  /-- One step after the other. -/
  trans : ∀ {d d' d'' : Depot}, R d d' → R d' d'' → R d d''

/-- Evolutions compose, and nothing has to happen. -/
instance Depot.lawful_evolves {S : Event → Prop} : Depot.Lawful (Depot.Evolves S) where
  quiet htree hassigns hworld hjournal _ _ := .of_same htree hassigns hworld hjournal
  trans := Depot.Evolves.trans

namespace Job

open Depot (Evolves Lawful locate)

/-- An action that leaves every depot in a given relation to what it was. -/
def Steps {α : Type} (R : Depot → Depot → Prop) (job : Job α) : Prop := ∀ d, R d (job.run d).2

/-- An action under which every depot evolves by events of some kind. -/
def Evolves {α : Type} (S : Event → Prop) (job : Job α) : Prop :=
  ∀ d, Depot.Evolves S d (job.run d).2

variable {α β : Type} {S : Event → Prop} {job : Job α}

/-- An action that is run on a depot. -/
lemma runOn_eq (job : Job α) (d : Depot) : job.runOn d = job.run d := rfl

/-- If one action after the other succeeds, both do. -/
lemma exists_of_bind_run {f : α → Job β} {d d' : Depot} {b : β}
    (h : (job >>= f).run d = (.ok b, d')) :
    ∃ a d₁, job.run d = (.ok a, d₁) ∧ (f a).run d₁ = (.ok b, d') := by
  have hrun : ExceptT.bindCont f (job.run d).1 (job.run d).2 = (.ok b, d') := h
  cases hr : (job.run d).1 with
  | error e =>
    rw [hr] at hrun
    cases hrun
  | ok a =>
    rw [hr] at hrun
    exact ⟨a, (job.run d).2, Prod.ext hr rfl, hrun⟩

section Steps

variable {R : Depot → Depot → Prop}

/-- An action seen from further out. -/
lemma Steps.within (h : Steps R job) (context : String) : Steps R (job.within context) :=
  fun d => h d

/-- An action whose failure is replaced. -/
lemma Steps.mapFailure (h : Steps R job) (f : Failure → Failure) : Steps R (job.mapFailure f) :=
  fun d => h d

/-- An action whose failure is a value. -/
lemma Steps.attempt (h : Steps R job) : Steps R job.attempt := fun d => h d

/-- A relation may be replaced by a wider one. -/
lemma Steps.mono {R' : Depot → Depot → Prop} (h : Steps R job) (hR : ∀ d d', R d d' → R' d d') :
    Steps R' job := fun d => hR _ _ (h d)

variable [Lawful R]

/-- An action that leaves depots as they are. -/
lemma Steps.of_eq (h : ∀ d, (job.run d).2 = d) : Steps R job := fun d => by
  rw [h d]
  exact Lawful.quiet rfl rfl rfl rfl (Nat.le_refl _) rfl

/-- A value is no step. -/
lemma pure_steps (a : α) : Steps R (pure a : Job α) := .of_eq fun _ => rfl

/-- Looking is no step. -/
lemma look_steps (f : Depot → α) : Steps R (look f) := .of_eq fun _ => rfl

/-- A given result is no step. -/
lemma ofExcept_steps (r : Except Failure α) : Steps R (ofExcept r) := .of_eq fun _ => rfl

/-- Failing is no step. -/
lemma fail_steps (f : Failure) : Steps R (fail f : Job α) := ofExcept_steps _

/-- Reading leaves a depot as it is. -/
lemma readAll_run_snd (uri : String) (d : Depot) : ((readAll uri).run d).2 = d := by
  show (readAll uri d).2 = d
  unfold readAll
  repeat' split
  all_goals rfl

/-- Reading is no step. -/
lemma readAll_steps (uri : String) : Steps R (readAll uri) := .of_eq (readAll_run_snd uri)

/-- A notice is no step. -/
lemma notice_steps (severity : Severity) (text : String) : Steps R (notice severity text) :=
  fun _ => Lawful.quiet rfl rfl rfl rfl (Nat.le_refl _) rfl

/-- Counting what was written is no step. -/
lemma measure_steps {f : Measures → Measures} (h : ∀ m, (f m).tallies = m.tallies) :
    Steps R (measure f) := fun _ => Lawful.quiet rfl rfl rfl rfl (Nat.le_refl _) (h _)

/-- Taking a scratch name is no step. -/
lemma nextScratch_steps : Steps R nextScratch :=
  fun _ => Lawful.quiet rfl rfl rfl rfl (Nat.le_succ _) rfl

/-- One action after the other, on a given depot: the second one only has to keep to the relation
where the first one has succeeded. -/
lemma steps_bind_run {f : α → Job β} {d : Depot} (h : R d (job.run d).2)
    (hf : ∀ a d₁, job.run d = (.ok a, d₁) → R d₁ ((f a).run d₁).2) :
    R d ((job >>= f).run d).2 := by
  show R d (ExceptT.bindCont f (job.run d).1 (job.run d).2).2
  cases hr : (job.run d).1 with
  | error e => exact h
  | ok a => exact Lawful.trans h (hf a _ (Prod.ext hr rfl))

/-- One action after the other. -/
lemma Steps.bind {f : α → Job β} (h : Steps R job) (hf : ∀ a, Steps R (f a)) :
    Steps R (job >>= f) := fun d => steps_bind_run (h d) fun a d₁ _ => hf a d₁

/-- An action that is followed by another in any case. -/
lemma Steps.thenAlways (h : Steps R job) {last : Job Unit} (hlast : Steps R last) :
    Steps R (job.thenAlways last) := fun d => Lawful.trans (h d) (hlast _)

/-- One action for every entry of a list. -/
lemma Steps.mapM {f : β → Job α} (h : ∀ b, Steps R (f b)) (bs : List β) :
    Steps R (bs.mapM f) := by
  induction bs with
  | nil => exact pure_steps _
  | cons b bs ih =>
    rw [List.mapM_cons]
    exact (h b).bind fun a => ih.bind fun as => pure_steps _

/-- An action whose failure is only worth a warning, on a given depot. -/
lemma steps_orWarn_run {job : Job Unit} {d : Depot} (h : R d (job.run d).2) (text : String) :
    R d ((orWarn text job).run d).2 := by
  refine steps_bind_run h fun r d₁ _ => ?_
  cases r with
  | error f => exact notice_steps _ _ d₁
  | ok a => exact pure_steps _ d₁

/-- An action whose failure is only worth a warning. -/
lemma Steps.orWarn {job : Job Unit} (h : Steps R job) (text : String) :
    Steps R (orWarn text job) := fun d => steps_orWarn_run (h d) text

end Steps

/-- A value is no event. -/
lemma pure_evolves (a : α) : Evolves S (pure a : Job α) := pure_steps a

/-- Looking is no event. -/
lemma look_evolves (f : Depot → α) : Evolves S (look f) := look_steps f

/-- A given result is no event. -/
lemma ofExcept_evolves (r : Except Failure α) : Evolves S (ofExcept r) := ofExcept_steps r

/-- One action after the other. -/
lemma Evolves.bind {f : α → Job β} (h : Evolves S job) (hf : ∀ a, Evolves S (f a)) :
    Evolves S (job >>= f) := Steps.bind h hf

/-- An action that is followed by another in any case. -/
lemma Evolves.thenAlways (h : Evolves S job) {last : Job Unit} (hlast : Evolves S last) :
    Evolves S (job.thenAlways last) := Steps.thenAlways h hlast

/-- An action by some events is one by more. -/
lemma Evolves.mono {T : Event → Prop} (h : Evolves S job) (hST : ∀ e, S e → T e) :
    Evolves T job := Steps.mono h fun _ _ hd => hd.mono hST

/-- An action whose failure is only worth a warning. -/
lemma Evolves.orWarn {job : Job Unit} (h : Evolves S job) (text : String) :
    Evolves S (orWarn text job) := Steps.orWarn h text

/-- Counting is no event. -/
lemma measure_evolves (f : Measures → Measures) : Evolves S (measure f) :=
  fun _ => .of_same rfl rfl rfl rfl

/-- Taking a scratch name is no event. -/
lemma nextScratch_evolves : Evolves S nextScratch := nextScratch_steps

/-! ## Calls -/

/-- What is made on the way to a directory is explained by the event that made it. -/
lemma makeDirs_cases {d made : Depot} {path : String} (h : d.makeDirs path = .ok made) :
    made = { d with tree := made.tree } ∧ ∀ loc, made.tree.find? loc = d.tree.find? loc ∨
      ∃ l, locate path = some l ∧ loc <+: l ∧ made.tree.find? loc = some (.dir d.now) ∧
        d.tree.find? loc = none := by
  unfold Depot.makeDirs at h
  cases hl : locate path with
  | none => simp [hl] at h
  | some l =>
    cases ho : d.tree.obstacle? l with
    | some file => simp [hl, ho] at h
    | none =>
      simp only [hl, ho, Except.ok.injEq] at h
      subst h
      refine ⟨rfl, fun loc => ?_⟩
      rcases Tree.find?_makeDirs d.tree l d.now loc with h | ⟨h, hle, hnone⟩
      · exact Or.inl h
      · exact Or.inr ⟨l, rfl, hle, h, hnone⟩

/-- A file that was opened for writing is empty and everything else is as before. -/
lemma truncate_cases {d opened : Depot} {path : String} {loc : Location}
    (h : d.truncate path = .ok (opened, loc)) : locate path = some loc ∧ loc ≠ [] ∧
      opened = { d with tree := d.tree.insert loc (.file [] d.now) } := by
  unfold Depot.truncate at h
  cases hl : locate path with
  | none => simp [hl] at h
  | some l =>
    simp only [hl] at h
    split at h
    · simp at h
    · rename_i hdir
      simp only [Except.ok.injEq, Prod.mk.injEq] at h
      obtain ⟨rfl, rfl⟩ := h
      refine ⟨rfl, ?_, rfl⟩
      rintro rfl
      exact hdir 0 (Tree.find?_nil _)

/-- **What a call that writes a file does**, wherever it fails: the result of the call, and the
depot after it. -/
inductive Writing (d : Depot) (uri : String) (data : Bytes) : Except Failure Unit → Depot → Prop
  /-- Nothing was made. -/
  | unmade {f : Failure} (cause : f.cause = .streamOpen) :
      Writing d uri data (.error f) (d.record (.create uri))
  /-- Directories were made on the way to the file, but it was not opened. -/
  | unopened {f : Failure} {path : String} {made : Depot} (cause : f.cause = .streamOpen)
      (resolved : d.assigns.resolve uri = .ok path)
      (dirs : (d.record (.create uri)).makeDirs (Path.dir path) = .ok made) :
      Writing d uri data (.error f) made
  /-- The file was opened, and stayed empty. -/
  | emptied {path : String} {made opened : Depot} {loc : Location}
      (resolved : d.assigns.resolve uri = .ok path)
      (dirs : (d.record (.create uri)).makeDirs (Path.dir path) = .ok made)
      (truncated : made.truncate path = .ok (opened, loc)) :
      Writing d uri data (.error (.within ("writing " ++ uri) .injected)) opened
  /-- The file was written, and only closing it may have failed. -/
  | written {path : String} {made opened : Depot} {loc : Location} {r : Except Failure Unit}
      (resolved : d.assigns.resolve uri = .ok path)
      (dirs : (d.record (.create uri)).makeDirs (Path.dir path) = .ok made)
      (truncated : made.truncate path = .ok (opened, loc))
      (result : r = .ok () ∨ r = .error (.within ("closing " ++ uri) .injected)) :
      Writing d uri data r { opened with tree := opened.tree.insert loc (.file data opened.now) }

/-- Every call that writes a file does one of these. -/
lemma writing_of_writeAll {uri : String} {data : Bytes} {d d' : Depot} {r : Except Failure Unit}
    (h : (writeAll uri data).run d = (r, d')) : Writing d uri data r d' := by
  replace h : writeAll uri data d = (r, d') := h
  unfold writeAll at h
  by_cases hrefused : d.refuses .createStream uri
  · rw [if_pos hrefused] at h
    cases h
    exact .unmade rfl
  rw [if_neg hrefused] at h
  cases hpath : d.assigns.resolve uri with
  | error f =>
    rw [hpath] at h
    cases h
    exact .unmade rfl
  | ok path =>
    cases hmade : (d.record (.create uri)).makeDirs (Path.dir path) with
    | error f =>
      simp only [hpath, hmade] at h
      cases h
      exact .unmade rfl
    | ok made =>
      cases hopen : made.truncate path with
      | error f =>
        simp only [hpath, hmade, hopen] at h
        cases h
        exact .unopened rfl hpath hmade
      | ok file =>
        obtain ⟨opened, loc⟩ := file
        simp only [hpath, hmade, hopen] at h
        split_ifs at h <;> cases h
        · exact .emptied hpath hmade hopen
        · exact .written hpath hmade hopen (Or.inr rfl)
        · exact .written hpath hmade hopen (Or.inl rfl)

/-- A directory that is made is written in the journal. -/
lemma createDirectory_evolves {uri : String} (hS : S (.mkdir uri)) :
    Evolves S (createDirectory uri) := by
  intro d
  show Depot.Evolves S d (createDirectory uri d).2
  unfold createDirectory
  simp only
  split_ifs
  · exact Depot.evolves_record_only hS
  cases hpath : d.assigns.resolve uri with
  | error f => exact Depot.evolves_record_only hS
  | ok path =>
    cases hmade : (d.record (.mkdir uri)).makeDirs path with
    | error f => simpa [hmade] using Depot.evolves_record_only hS
    | ok made =>
      obtain ⟨heq, hfate⟩ := makeDirs_cases hmade
      simp only [hmade]
      rw [heq]
      refine Depot.evolves_record hS fun loc => ?_
      rcases hfate loc with h | ⟨l, hl, hle, h, -⟩
      · exact Or.inl h
      · have htime : (Entry.dir (d.record (.mkdir uri)).now).time =
            d.world.clock (d.journal.length + 1) := by
          simp [Depot.now, Depot.record, Entry.time]
        exact Or.inr (Or.inr ⟨_, .directory hpath hl hle, h, htime⟩)

/-- A directory that is removed is written in the journal. -/
lemma deleteDirectory_evolves {uri : String} (hS : S (.rmdir uri)) :
    Evolves S (deleteDirectory uri) := by
  intro d
  show Depot.Evolves S d (deleteDirectory uri d).2
  unfold deleteDirectory
  simp only
  split_ifs
  · exact Depot.evolves_record_only hS
  cases hpath : d.assigns.resolve uri with
  | error f => exact Depot.evolves_record_only hS
  | ok path =>
    cases hl : locate path with
    | none => simpa [hl] using Depot.evolves_record_only hS
    | some l =>
      simp only [hl]
      refine Depot.evolves_record hS fun loc => ?_
      show (d.tree.erase l).find? loc = _ ∨ _ ∧ (d.tree.erase l).find? loc = _ ∨ _
      rw [Tree.find?_erase]
      split_ifs with h
      · exact Or.inr (Or.inl ⟨.directory hpath hl h.1, rfl⟩)
      · exact Or.inl rfl

/-- A directory that is purged is written in the journal. -/
lemma purgeDirectory_evolves {dir warning : String} (hS : S (.rmdir dir)) :
    Evolves S (purgeDirectory dir warning) := by
  refine (look_evolves _).bind fun there => ?_
  split_ifs
  · exact (deleteDirectory_evolves hS).orWarn _
  · exact pure_evolves _

/-- A depot in which a directory was made for a file, and possibly the file, has evolved by the
event of writing it. -/
lemma evolves_created {d : Depot} {uri path : String} {t u : Tree} (hS : S (.create uri))
    (hpath : d.assigns.resolve uri = .ok path)
    (hmade : ∀ loc, t.find? loc = d.tree.find? loc ∨ ∃ l, locate (Path.dir path) = some l ∧
      loc <+: l ∧ t.find? loc = some (.dir (d.record (.create uri)).now) ∧
        d.tree.find? loc = none)
    (hfile : ∀ loc, u.find? loc = t.find? loc ∨ locate path = some loc ∧
      ∃ bytes, u.find? loc = some (.file bytes (d.record (.create uri)).now)) :
    Depot.Evolves S d { d.record (.create uri) with tree := u } := by
  have hnow : (d.record (.create uri)).now = d.world.clock (d.journal.length + 1) := by
    simp [Depot.now, Depot.record]
  refine Depot.evolves_record hS fun loc => ?_
  rcases hfile loc with h | ⟨hloc, bytes, h⟩
  · rcases hmade loc with h' | ⟨l, hl, hle, h', -⟩
    · exact Or.inl (h.trans h')
    · exact Or.inr (Or.inr ⟨_, .holder hpath hl hle, h.trans h', hnow⟩)
  · exact Or.inr (Or.inr ⟨_, .file hpath hloc, h, hnow⟩)

/-- A depot in which a file was opened, and where its place holds some bytes, has evolved by the
event of writing it. -/
lemma evolves_of_truncate {d made opened : Depot} {uri path : String} {loc : Location} {t : Tree}
    (hS : S (.create uri)) (hpath : d.assigns.resolve uri = .ok path)
    (hmade : (d.record (.create uri)).makeDirs (Path.dir path) = .ok made)
    (hopen : made.truncate path = .ok (opened, loc)) (bytes : Bytes)
    (ht : ∀ l, t.find? l = if l = loc then some (.file bytes made.now) else made.tree.find? l) :
    Depot.Evolves S d { opened with tree := t } := by
  obtain ⟨heq, hdirs⟩ := makeDirs_cases hmade
  obtain ⟨hloc, -, rfl⟩ := truncate_cases hopen
  show Depot.Evolves S d { made with tree := t }
  rw [heq]
  refine evolves_created hS hpath hdirs fun l => ?_
  rw [ht l, heq]
  split_ifs with hl
  · exact Or.inr ⟨hl ▸ hloc, bytes, rfl⟩
  · exact Or.inl rfl

/-- **Writing a file**, wherever it fails: directories on the way to it may have been made, and once
it was opened it is stamped with the time of the call. -/
lemma writeAll_evolves {uri : String} {data : Bytes} (hS : S (.create uri)) :
    Evolves S (writeAll uri data) := by
  intro d
  rcases hrun : (writeAll uri data).run d with ⟨r, d'⟩
  show Depot.Evolves S d d'
  cases writing_of_writeAll hrun with
  | unmade cause => exact Depot.evolves_record_only hS
  | unopened cause hpath hmade =>
    obtain ⟨heq, hdirs⟩ := makeDirs_cases hmade
    rw [heq]
    exact evolves_created hS hpath hdirs fun loc => Or.inl rfl
  | emptied hpath hmade hopen =>
    obtain ⟨-, hne, heq⟩ := truncate_cases hopen
    refine evolves_of_truncate hS hpath hmade hopen [] fun l => ?_
    rw [heq, Tree.find?_insert hne]
  | written hpath hmade hopen hresult =>
    obtain ⟨-, hne, heq⟩ := truncate_cases hopen
    refine evolves_of_truncate hS hpath hmade hopen data fun l => ?_
    rw [heq, Tree.find?_insert hne, Tree.find?_insert hne]
    split_ifs <;> rfl

end Job

end SceneForge
