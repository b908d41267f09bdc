import SceneForge.Proofs.Depot.Evolution

set_option autoImplicit false

/-!
# What actions give

The result of an action and the depot it leaves, for every way in which actions are put together.

## Main results

* `SceneForge.Job.run_bind` — one action after the other.
* `SceneForge.Job.run_attempt`, `SceneForge.Job.run_look` — actions that always give a value.
* `SceneForge.Job.stat?_of_writeAll` — a file that was written is there.
-/

namespace SceneForge

namespace Depot

variable {d : Depot} {uri path : String} {loc : Location}

/-- What a location text stands for is what its location holds. -/
lemma stat?_eq_find? (hpath : d.assigns.resolve uri = .ok path) (hloc : locate path = some loc) :
    d.stat? uri = d.tree.find? loc := by
  simp [stat?, hpath, hloc]

/-- A location text that stands for something has a location. -/
lemma exists_of_stat?_eq_some {x : Entry} (h : d.stat? uri = some x) :
    ∃ path loc, d.assigns.resolve uri = .ok path ∧ locate path = some loc ∧
      d.tree.find? loc = some x := by
  unfold stat? at h
  cases hpath : d.assigns.resolve uri with
  | error f => simp [hpath] at h
  | ok path =>
    rw [hpath] at h
    obtain ⟨loc, hloc, hfind⟩ := Option.bind_eq_some_iff.mp h
    exact ⟨path, loc, rfl, hloc, hfind⟩

end Depot

namespace Job

variable {α β : Type} {job : Job α} {d d' : Depot}

/-- Looking gives what is seen. -/
@[simp] lemma run_look (f : Depot → α) (d : Depot) : (look f).run d = (.ok (f d), d) := rfl

/-- A given result is given as it is. -/
@[simp] lemma run_ofExcept (r : Except Failure α) (d : Depot) : (ofExcept r).run d = (r, d) := rfl

/-- Attempting an action gives its result as a value. -/
@[simp] lemma run_attempt (job : Job α) (d : Depot) :
    job.attempt.run d = (.ok (job.run d).1, (job.run d).2) := rfl

/-- One action after the other: the second one starts where the first one ended, unless that
failed. -/
lemma run_bind (job : Job α) (f : α → Job β) (d : Depot) :
    (job >>= f).run d = match job.run d with
      | (.ok a, d') => (f a).run d'
      | (.error e, d') => (.error e, d') := by
  show ExceptT.bindCont f (job.run d).1 (job.run d).2 = _
  rcases job.run d with ⟨_ | _, d'⟩ <;> rfl

/-- What follows an action that gave a value. -/
lemma run_bind_of_ok {a : α} (h : job.run d = (.ok a, d')) (f : α → Job β) :
    (job >>= f).run d = (f a).run d' := by
  rw [run_bind, h]

/-- What holds of an action holds of a run of it. -/
lemma Steps.of_run {R : Depot → Depot → Prop} {r : Except Failure α} (h : Steps R job)
    (hrun : job.run d = (r, d')) : R d d' := by
  have hd := h d
  rw [hrun] at hd
  exact hd

/-- A depot has evolved if an action under which depots evolve has run on it. -/
lemma Evolves.of_run {S : Event → Prop} {r : Except Failure α} (h : Evolves S job)
    (hrun : job.run d = (r, d')) : Depot.Evolves S d d' := Steps.of_run h hrun

/-- One action after the other, on a given depot: the second one only has to keep to its events
where the first one has succeeded. -/
lemma evolves_bind_run {S : Event → Prop} {f : α → Job β} (h : d.Evolves S (job.run d).2)
    (hf : ∀ a d₁, job.run d = (.ok a, d₁) → d₁.Evolves S ((f a).run d₁).2) :
    d.Evolves S ((job >>= f).run d).2 := steps_bind_run h hf

/-- A context does not matter for an action that gives a value. -/
lemma run_within_eq_ok_iff {context : String} {a : α} :
    (job.within context).run d = (.ok a, d') ↔ job.run d = (.ok a, d') := by
  show (inContext context (job.run d).1, (job.run d).2) = _ ↔ _
  rcases job.run d with ⟨f | b, d''⟩
  · constructor <;> rintro ⟨⟩
  · exact Iff.rfl

/-- What a failure would be replaced by does not matter for an action that gives a value. -/
lemma run_mapFailure_eq_ok_iff {f : Failure → Failure} {a : α} :
    (job.mapFailure f).run d = (.ok a, d') ↔ job.run d = (.ok a, d') := by
  show ((job.run d).1.mapError f, (job.run d).2) = _ ↔ _
  rcases job.run d with ⟨e | b, d''⟩
  · constructor <;> rintro ⟨⟩
  · exact Iff.rfl

/-- The value of an attempted action is its result. -/
lemma run_attempt_eq_ok_iff {r : Except Failure α} :
    job.attempt.run d = (.ok r, d') ↔ job.run d = (r, d') := by
  show (Except.ok (job.run d).1, (job.run d).2) = _ ↔ _
  rcases job.run d with ⟨r', d''⟩
  constructor <;> (rintro ⟨⟩; rfl)

/-- What follows an action in any case does not change its value. -/
lemma run_thenAlways_eq_ok_iff {last : Job Unit} {a : α} :
    (job.thenAlways last).run d = (.ok a, d') ↔
      ∃ d₁, job.run d = (.ok a, d₁) ∧ (last.run d₁).2 = d' := by
  show ((job.run d).1, (last.run (job.run d).2).2) = _ ↔ _
  rcases job.run d with ⟨r, d₁⟩
  constructor
  · intro h
    obtain ⟨hr, hd⟩ := Prod.mk.inj h
    exact ⟨d₁, Prod.ext hr rfl, hd⟩
  · rintro ⟨d₂, h, hd⟩
    obtain ⟨hr, rfl⟩ := Prod.mk.inj h
    exact Prod.ext hr hd

/-- A result that is given as it is. -/
lemma run_ofExcept_eq_ok_iff {r : Except Failure α} {a : α} :
    (ofExcept r).run d = (.ok a, d') ↔ r = .ok a ∧ d = d' := by
  rw [run_ofExcept, Prod.mk.injEq]

/-- **A file that was written** is there, with the time of the call that wrote it. -/
lemma stat?_of_writeAll {uri : String} {data : Bytes} (h : (writeAll uri data).run d = (.ok (), d')) :
    d'.stat? uri = some (.file data (d.world.clock (d.journal.length + 1))) ∧
      d'.journal = d.journal ++ [.create uri] := by
  cases writing_of_writeAll h with
  | @written path made opened loc r hpath hmade hopen hresult =>
    obtain ⟨heq, -⟩ := makeDirs_cases hmade
    obtain ⟨hloc, hne, rfl⟩ := truncate_cases hopen
    have hassigns : made.assigns = d.assigns := by rw [heq]; rfl
    have hworld : made.world = d.world := by rw [heq]; rfl
    have hjournal : made.journal = d.journal ++ [.create uri] := by rw [heq]; rfl
    refine ⟨?_, hjournal⟩
    simp [Depot.stat?, hassigns, hpath, hloc, Tree.find?_insert hne, Depot.now, hworld, hjournal]

end Job

end SceneForge
