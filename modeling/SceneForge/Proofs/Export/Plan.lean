import SceneForge.Proofs.Export.Blame
import SceneForge.Proofs.Export.Integrity
import SceneForge.Proofs.Export.Interleaving

set_option autoImplicit false

/-!
# Plans

A call on a calm depot fails only if something of the wrong kind is in the way: a file where a
directory is needed, or a directory where a file is to be written. A plan says which locations are
meant for directories and which for files. Whoever keeps to a plan never puts anything of the wrong
kind there, so that calls which the plan provides for succeed at any later time.

## Main definitions

* `SceneForge.Tree.holdsDir` — whether a directory is at a location.
* `SceneForge.Plan`, `SceneForge.Plan.Admits` — plans, and where files may be written besides.
* `SceneForge.Plan.fill` — a plan that has everything in some directory meant for files.
* `SceneForge.Depot.Follows` — a depot that came from another one according to a plan.

## Main results

* `SceneForge.Tree.Grounded.makeDirs`, `SceneForge.Tree.Grounded.insert`,
  `SceneForge.Tree.Grounded.erase` — changes of grounded trees.
* `SceneForge.Job.writeAll_follows`, `SceneForge.Job.createDirectory_follows`,
  `SceneForge.Job.deleteDirectory_follows` — calls that keep to a plan.
* `SceneForge.Job.writeAll_planned`, `SceneForge.Job.createDirectory_planned` — calls that a plan
  provides for succeed.
* `SceneForge.Surface.renewDirectory_follows` — a directory that is renewed has room for files.
-/

namespace SceneForge

open Job (Abides Steps)
open Depot (Lasting Preserves locate)

/-! ## Trees -/

namespace Tree

variable {t : Tree} {loc l : Location}

/-- Whether a location holds a directory. -/
def holdsDir (t : Tree) (loc : Location) : Bool := (t.find? loc).any Entry.isDir

/-- A location holds a directory if a directory is found there. -/
lemma holdsDir_iff : t.holdsDir loc = true ↔ ∃ time, t.find? loc = some (.dir time) := by
  rw [holdsDir]
  rcases t.find? loc with _ | ⟨data, time⟩ | time <;> simp [Entry.isDir]

/-- **Nothing is in the way** to a directory exactly if there is no file on it. -/
lemma obstacle?_eq_none_iff : t.obstacle? loc = none ↔ ∀ l, l <+: loc → ¬ t.holdsFile l := by
  rw [obstacle?_eq, List.find?_eq_none]
  refine ⟨fun h l hle hfile => h l (mem_ancestry hle ?_) hfile,
    fun h l hl => h l (of_mem_ancestry hl).1⟩
  rintro rfl
  cases hfile

/-- What lies above a location lies above the place it is in. -/
lemma prefix_dropLast (hle : l <+: loc) (hne : l ≠ loc) : l <+: loc.dropLast := by
  rcases List.eq_nil_or_concat loc with rfl | ⟨init, last, rfl⟩
  · exact absurd (List.prefix_nil.mp hle) hne
  · rw [List.concat_eq_append] at hle hne ⊢
    rw [List.dropLast_concat]
    exact (List.prefix_concat_iff.mp hle).resolve_left hne

/-- Making a directory keeps a tree grounded. -/
lemma Grounded.makeDirs (h : t.Grounded) (loc : Location) (time : Int) :
    (t.makeDirs loc time).Grounded := by
  intro l x hle hx
  rcases find?_makeDirs t loc time x with hsame | ⟨-, hx', -⟩
  · rw [hsame] at hx
    rcases find?_makeDirs t loc time l with hsame' | ⟨hmade, -⟩
    · rw [hsame']
      exact h l x hle hx
    · rw [hmade]
      rfl
  · exact isSome_find?_makeDirs t time (hle.trans hx')

/-- Putting something into a place that is there keeps a tree grounded. -/
lemma Grounded.insert (h : t.Grounded) (hne : loc ≠ []) (habove : (t.find? loc.dropLast).isSome)
    (e : Entry) : (t.insert loc e).Grounded := by
  intro l x hle hx
  rw [find?_insert hne] at hx ⊢
  split_ifs with hl
  · rfl
  · split_ifs at hx with hx'
    · subst hx'
      exact h l _ (prefix_dropLast hle hl) habove
    · exact h l x hle hx

/-- Removing a location with everything below it keeps a tree grounded. -/
lemma Grounded.erase (h : t.Grounded) (loc : Location) : (t.erase loc).Grounded := by
  intro l x hle hx
  rw [find?_erase] at hx ⊢
  by_cases hx' : loc <+: x ∧ x ≠ []
  · simp [hx'] at hx
  rw [if_neg hx'] at hx
  split_ifs with hl
  · refine absurd ⟨hl.1.trans hle, ?_⟩ hx'
    rintro rfl
    exact hl.2 (List.prefix_nil.mp hle)
  · exact h l x hle hx

end Tree

/-! ## Plans -/

/-- What locations are meant for. -/
structure Plan where
  /-- Locations that are meant for directories. -/
  directories : Location → Prop
  /-- Locations that are meant for files. -/
  files : Location → Prop
  /-- No location is meant for both. -/
  apart : ∀ loc, directories loc → ¬ files loc

namespace Plan

variable {p : Plan} {loc : Location}

/-- A file may be written: its location is not meant for a directory, and none above is meant for a
file. -/
structure Admits (p : Plan) (loc : Location) : Prop where
  /-- The location is not meant for a directory. -/
  here : ¬ p.directories loc
  /-- No location above is meant for a file. -/
  above : ∀ l, l <+: loc → l ≠ loc → ¬ p.files l

/-- A plan provides for a file: its location is meant for one, and those above are meant for
directories. -/
structure Provides (p : Plan) (loc : Location) : Prop where
  /-- The location is meant for a file. -/
  here : p.files loc
  /-- The locations above are meant for directories. -/
  above : ∀ l, l <+: loc → l ≠ loc → p.directories l

/-- Files that a plan provides for may be written. -/
lemma Provides.admits (h : p.Provides loc) : p.Admits loc :=
  ⟨fun hdir => p.apart loc hdir h.here, fun l hle hne => p.apart l (h.above l hle hne)⟩

/-- The plan in which everything strictly below some location is meant for files. -/
def fill (p : Plan) (dir : Location) (h : ∀ l, p.directories l → dir <+: l → l = dir) : Plan where
  directories := p.directories
  files l := p.files l ∨ dir <+: l ∧ l ≠ dir
  apart l hdir hfile := hfile.elim (p.apart l hdir) fun ⟨hle, hne⟩ => hne (h l hdir hle)

end Plan

/-! ## Depots that follow a plan -/

namespace Depot

/-- A depot that came from another one according to a plan: nothing of the wrong kind is where
something is meant to be. -/
structure Follows (p : Plan) (d₀ d : Depot) : Prop where
  /-- Areas stay where they are. -/
  assigns : d.assigns = d₀.assigns
  /-- The world is the same. -/
  world : d.world = d₀.world
  /-- Scratch names are not given back. -/
  scratchUsed : d₀.scratchUsed ≤ d.scratchUsed
  /-- Nothing is there without everything above it. -/
  grounded : d.tree.Grounded
  /-- No file is in the place of a directory. -/
  directories : ∀ loc, p.directories loc → ¬ d.tree.holdsFile loc
  /-- No directory is in the place of a file. -/
  files : ∀ loc, p.files loc → ¬ d.tree.holdsDir loc

variable {p : Plan} {d₀ d : Depot}

instance lasting_follows : Lasting (Follows p d₀) where
  quiet htree hassigns hworld hscratch h :=
    ⟨hassigns.trans h.assigns, hworld.trans h.world, h.scratchUsed.trans hscratch,
      htree ▸ h.grounded, htree ▸ h.directories, htree ▸ h.files⟩

/-- A depot with another tree follows a plan if the tree does. -/
lemma Follows.of_tree (h : Follows p d₀ d) {t : Tree} (hgrounded : t.Grounded)
    (hdirectories : ∀ loc, p.directories loc → t.holdsFile loc → d.tree.holdsFile loc)
    (hfiles : ∀ loc, p.files loc → t.holdsDir loc → d.tree.holdsDir loc) (j : List Event) :
    Follows p d₀ { d with tree := t, journal := j } where
  assigns := h.assigns
  world := h.world
  scratchUsed := h.scratchUsed
  grounded := hgrounded
  directories loc hloc hfile := h.directories loc hloc (hdirectories loc hloc hfile)
  files loc hloc hdir := h.files loc hloc (hfiles loc hloc hdir)

/-- Locations lead where they led at the beginning. -/
lemma Follows.leads_iff (h : Follows p d₀ d) {uri : String} {loc : Location} :
    d.assigns.Leads uri loc ↔ d₀.assigns.Leads uri loc := by rw [h.assigns]

/-- A calm depot refuses nothing. -/
lemma Follows.refuses_eq_false (h : Follows p d₀ d) (hcalm : d₀.world.Calm) (op : Operation)
    (uri : String) : d.refuses op uri = false := by
  rw [refuses, h.world]
  exact hcalm _ _ _

end Depot

open Depot (Follows)

/-! ## Calls -/

namespace Job

variable {p : Plan} {d₀ d : Depot} {S : Cause → Prop} {uri : String} {loc : Location}

/-- A directory that was made is there with all its ancestors. -/
lemma tree_of_makeDirs {made : Depot} {path : String} (h : d.makeDirs path = .ok made) :
    ∃ l, locate path = some l ∧ made.tree = d.tree.makeDirs l d.now := by
  unfold Depot.makeDirs at h
  cases hl : locate path with
  | none => simp [hl] at h
  | some l =>
    cases ho : d.tree.obstacle? l with
    | some file => simp [hl, ho] at h
    | none =>
      simp only [hl, ho, Except.ok.injEq] at h
      exact ⟨l, rfl, by rw [← h]⟩

/-- Writing a file keeps a tree grounded, wherever it fails.

**Proof sketch.** Making directories and putting a file below a directory keep a tree grounded; the
file is put where its directory was made before, or replaced where it is. -/
lemma grounded_of_writeAll (h : d.tree.Grounded) (uri : String) (data : Bytes) :
    ((writeAll uri data).run d).2.tree.Grounded := by
  have hdirs : ∀ {path : String} {made : Depot},
      (d.record (.create uri)).makeDirs (Path.dir path) = .ok made → made.tree.Grounded := by
    intro path made hmade
    obtain ⟨l, -, htree⟩ := tree_of_makeDirs hmade
    exact htree ▸ h.makeDirs l _
  have hopened : ∀ {path : String} {made opened : Depot} {loc : Location},
      (d.record (.create uri)).makeDirs (Path.dir path) = .ok made →
      made.truncate path = .ok (opened, loc) → opened.tree.Grounded := by
    intro path made opened loc hmade hopen
    obtain ⟨hloc, hne, rfl⟩ := truncate_cases hopen
    obtain ⟨l, hl, htree⟩ := tree_of_makeDirs hmade
    rw [Depot.locate_dir hloc, Option.some.injEq] at hl
    refine (hdirs hmade).insert hne ?_ (.file [] made.now)
    rw [htree, ← hl]
    exact Tree.isSome_find?_makeDirs _ _ (List.prefix_refl _)
  rcases hrun : (writeAll uri data).run d with ⟨r, d'⟩
  cases writing_of_writeAll hrun with
  | unmade cause => exact h
  | unopened cause hpath hmade => exact hdirs hmade
  | emptied hpath hmade hopen => exact hopened hmade hopen
  | @written path made opened loc _ hpath hmade hopen hresult =>
    have hground := hopened hmade hopen
    obtain ⟨-, hne, rfl⟩ := truncate_cases hopen
    refine hground.insert hne (hground _ loc (List.dropLast_prefix loc) ?_) (.file data made.now)
    rw [Tree.find?_insert hne, if_pos rfl]
    rfl

/-- Making a directory keeps a tree grounded. -/
lemma grounded_of_createDirectory (h : d.tree.Grounded) (uri : String) :
    ((createDirectory uri).run d).2.tree.Grounded := by
  show (createDirectory uri d).2.tree.Grounded
  unfold createDirectory
  simp only
  split_ifs
  · exact h
  cases hpath : d.assigns.resolve uri with
  | error f => exact h
  | ok path =>
    cases hmade : (d.record (.mkdir uri)).makeDirs path with
    | error f =>
      simp only [hmade]
      exact h
    | ok made =>
      obtain ⟨l, -, htree⟩ := tree_of_makeDirs hmade
      simp only [hmade]
      exact htree ▸ h.makeDirs l _

/-- Removing a directory keeps a tree grounded. -/
lemma grounded_of_deleteDirectory (h : d.tree.Grounded) (uri : String) :
    ((deleteDirectory uri).run d).2.tree.Grounded := by
  show (deleteDirectory uri d).2.tree.Grounded
  unfold deleteDirectory
  simp only
  split_ifs
  · exact h
  cases hpath : d.assigns.resolve uri with
  | error f => exact h
  | ok path =>
    cases hl : locate path with
    | none =>
      simp only [hl]
      exact h
    | some l =>
      simp only [hl]
      exact h.erase l

/-- **Writing where a plan admits it** keeps to the plan, wherever it fails. -/
lemma writeAll_follows (h : ∀ loc, d₀.assigns.Leads uri loc → p.Admits loc) (data : Bytes) :
    Steps (Preserves (Follows p d₀)) (writeAll uri data) := by
  intro d hd
  have hgrounded := grounded_of_writeAll hd.grounded uri data
  obtain ⟨t, j, heq, hwrites⟩ := exists_of_writeAll uri data d
  rw [heq] at hgrounded ⊢
  refine hd.of_tree hgrounded (fun loc hloc hfile => ?_) (fun loc hloc hdir => ?_) j
  · obtain ⟨bytes, time, hfile⟩ := Tree.holdsFile_iff.mp hfile
    cases hwrites loc with
    | kept same => exact Tree.holdsFile_iff.mpr ⟨bytes, time, same.symm.trans hfile⟩
    | file leads free holds => exact absurd hloc (h loc (hd.leads_iff.mp leads)).here
    | ancestor leads above ne missing holds => cases hfile.symm.trans holds
  · obtain ⟨time, hdir⟩ := Tree.holdsDir_iff.mp hdir
    cases hwrites loc with
    | kept same => exact Tree.holdsDir_iff.mpr ⟨time, same.symm.trans hdir⟩
    | file leads free holds => cases hdir.symm.trans holds
    | ancestor leads above ne missing holds =>
      exact absurd hloc ((h _ (hd.leads_iff.mp leads)).above loc above ne)

/-- **Making a directory** keeps to a plan if no location on the way is meant for a file. -/
lemma createDirectory_follows
    (h : ∀ loc, d₀.assigns.Leads uri loc → ∀ l, l <+: loc → ¬ p.files l) :
    Steps (Preserves (Follows p d₀)) (createDirectory uri) := by
  intro d hd
  obtain ⟨t, j, heq, hfind⟩ := exists_of_createDirectory uri d
  have hgrounded := grounded_of_createDirectory hd.grounded uri
  rw [heq] at hgrounded ⊢
  refine hd.of_tree hgrounded (fun loc _ hfile => ?_) (fun loc hloc hdir => ?_) j
  · obtain ⟨bytes, time, hfile⟩ := Tree.holdsFile_iff.mp hfile
    rcases hfind loc with hsame | ⟨l, time', -, -, -, hmade⟩
    · exact Tree.holdsFile_iff.mpr ⟨bytes, time, hsame.symm.trans hfile⟩
    · cases hfile.symm.trans hmade
  · obtain ⟨time, hdir⟩ := Tree.holdsDir_iff.mp hdir
    rcases hfind loc with hsame | ⟨l, time', hleads, hle, -, -⟩
    · exact Tree.holdsDir_iff.mpr ⟨time, hsame.symm.trans hdir⟩
    · exact absurd hloc (h l (hd.leads_iff.mp hleads) loc hle)

/-- **Removing a directory** keeps to every plan. -/
lemma deleteDirectory_follows (uri : String) :
    Steps (Preserves (Follows p d₀)) (deleteDirectory uri) := by
  intro d hd
  have hgrounded := grounded_of_deleteDirectory hd.grounded uri
  obtain ⟨t, j, heq, hfind⟩ := exists_of_deleteDirectory uri d
  rw [heq] at hgrounded ⊢
  have hkept : ∀ loc x, t.find? loc = some x → d.tree.find? loc = some x := by
    intro loc x hx
    rcases hfind loc with hsame | ⟨-, -, -, hgone⟩
    · exact hsame.symm.trans hx
    · cases hx.symm.trans hgone
  refine hd.of_tree hgrounded (fun loc _ hfile => ?_) (fun loc _ hdir => ?_) j
  · obtain ⟨bytes, time, hfile⟩ := Tree.holdsFile_iff.mp hfile
    exact Tree.holdsFile_iff.mpr ⟨bytes, time, hkept _ _ hfile⟩
  · obtain ⟨time, hdir⟩ := Tree.holdsDir_iff.mp hdir
    exact Tree.holdsDir_iff.mpr ⟨time, hkept _ _ hdir⟩

/-- A file can be opened for writing where no directory is. -/
lemma exists_of_truncate {path : String} (hloc : locate path = some loc) (h : ¬ d.tree.holdsDir loc) :
    ∃ opened, d.truncate path = .ok (opened, loc) := by
  unfold Depot.truncate
  cases hfind : d.tree.find? loc with
  | none => simp [hloc, hfind]
  | some e =>
    cases e with
    | file data time => simp [hloc, hfind]
    | dir time => exact absurd (Tree.holdsDir_iff.mpr ⟨time, hfind⟩) h

/-- **A file can be written** where nothing is in its place or on the way to it. -/
lemma exists_writeAll (hallowed : ∀ op, d.refuses op uri = false) (hleads : d.assigns.Leads uri loc)
    (hne : loc ≠ []) (hclear : d.tree.obstacle? loc.dropLast = none) (hfree : ¬ d.tree.holdsDir loc)
    (data : Bytes) : ∃ d', (writeAll uri data).run d = (.ok (), d') := by
  obtain ⟨path, hpath, hloc⟩ := hleads
  have hmade : (d.record (.create uri)).makeDirs (Path.dir path) = .ok { d.record (.create uri) with
      tree := d.tree.makeDirs loc.dropLast (d.record (.create uri)).now } := by
    simp [Depot.makeDirs, Depot.locate_dir hloc, Depot.record, hclear]
  have hfree' : ¬ (d.tree.makeDirs loc.dropLast (d.record (.create uri)).now).holdsDir loc := by
    intro hdir
    obtain ⟨time, hdir⟩ := Tree.holdsDir_iff.mp hdir
    rcases Tree.find?_makeDirs d.tree loc.dropLast (d.record (.create uri)).now loc with
      hsame | ⟨-, hle, -⟩
    · exact hfree (Tree.holdsDir_iff.mpr ⟨time, hsame.symm.trans hdir⟩)
    · have hlen := hle.length_le
      have hpos := List.length_pos_iff.mpr hne
      rw [List.length_dropLast] at hlen
      omega
  obtain ⟨opened, hopen⟩ := exists_of_truncate (d := { d.record (.create uri) with
    tree := d.tree.makeDirs loc.dropLast (d.record (.create uri)).now }) hloc hfree'
  show ∃ d', writeAll uri data d = (.ok (), d')
  simp only [writeAll, hallowed, hpath, hmade, hopen, Bool.false_eq_true, if_false]
  exact ⟨_, rfl⟩

/-- **A file that a plan provides for** is written. -/
lemma writeAll_planned (hcalm : d₀.world.Calm) (hleads : d₀.assigns.Leads uri loc)
    (h : p.Provides loc) (data : Bytes) :
    Abides (Follows p d₀) S (fun _ => True) (writeAll uri data) := by
  refine .of_steps (writeAll_follows (fun l hl => hleads.unique hl ▸ h.admits) data)
    fun d hd => ?_
  have hne : loc ≠ [] := by
    rintro rfl
    exact hd.files [] h.here rfl
  have hclear : d.tree.obstacle? loc.dropLast = none := by
    refine Tree.obstacle?_eq_none_iff.mpr fun l hle => hd.directories l (h.above l ?_ ?_)
    · exact hle.trans (List.dropLast_prefix loc)
    · rintro rfl
      have hlen := hle.length_le
      have hpos := List.length_pos_iff.mpr hne
      rw [List.length_dropLast] at hlen
      omega
  obtain ⟨d', hrun⟩ := exists_writeAll (fun op => hd.refuses_eq_false hcalm op uri)
    (hd.leads_iff.mpr hleads) hne hclear (hd.files loc h.here) data
  rw [hrun]
  exact trivial

/-- **A directory that a plan provides for** is made. -/
lemma createDirectory_planned (hcalm : d₀.world.Calm) (hleads : d₀.assigns.Leads uri loc)
    (h : ∀ l, l <+: loc → p.directories l) :
    Abides (Follows p d₀) S (fun _ => True) (createDirectory uri) := by
  refine .of_steps (createDirectory_follows fun l hl => ?_) fun d hd => ?_
  · rw [← hleads.unique hl]
    exact fun l hle => p.apart l (h l hle)
  obtain ⟨path, hpath, hloc⟩ := hd.leads_iff.mpr hleads
  have hclear : d.tree.obstacle? loc = none :=
    Tree.obstacle?_eq_none_iff.mpr fun l hle => hd.directories l (h l hle)
  have hmade : (d.record (.mkdir uri)).makeDirs path = .ok { d.record (.mkdir uri) with
      tree := d.tree.makeDirs loc (d.record (.mkdir uri)).now } := by
    simp [Depot.makeDirs, hloc, Depot.record, hclear]
  show Excused.Any S (createDirectory uri d).1
  simp only [createDirectory, hd.refuses_eq_false hcalm, hpath, hmade, Bool.false_eq_true, if_false]
  exact trivial

/-- **A file that is there** can be read. -/
lemma readAll_of_fileExists (hcalm : d.world.Calm) (h : d.fileExists uri) :
    ∃ data, (readAll uri).run d = (.ok data, d) := by
  unfold Depot.fileExists at h
  cases hstat : d.stat? uri with
  | none => simp [hstat] at h
  | some e =>
    cases e with
    | dir time => simp [hstat, Entry.isDir] at h
    | file data time => exact ⟨data, Depot.Holds.readAll ⟨time, hstat⟩ hcalm⟩

/-- A place of a plan's directory with no directory in it is free. -/
lemma find?_of_not_directoryExists {dir : String} (hd : Follows p d₀ d)
    (hleads : d₀.assigns.Leads dir loc) (hloc : p.directories loc) (h : ¬ d.directoryExists dir) :
    d.tree.find? loc = none := by
  obtain ⟨path, hpath, hlocate⟩ := hd.leads_iff.mpr hleads
  have hstat := Depot.stat?_eq_find? (d := d) hpath hlocate
  cases hfind : d.tree.find? loc with
  | none => rfl
  | some e =>
    cases e with
    | file data time =>
      exact absurd (Tree.holdsFile_iff.mpr ⟨data, time, hfind⟩) (hd.directories loc hloc)
    | dir time => simp [Depot.directoryExists, hstat, hfind, Entry.isDir] at h

/-- A directory that was purged has no directories in it: either it was removed, or it was not
there. -/
lemma not_holdsDir_of_purge {dir : String} (hcalm : d₀.world.Calm) (hleads : d₀.assigns.Leads dir loc)
    (hloc : p.directories loc) (hne : loc ≠ []) (hd : Follows p d₀ d) (warning : String) {l : Location}
    (hle : loc <+: l) : ¬ ((purgeDirectory dir warning).run d).2.tree.holdsDir l := by
  intro hdir
  obtain ⟨time, hdir⟩ := Tree.holdsDir_iff.mp hdir
  have hl : l ≠ [] := by
    rintro rfl
    exact hne (List.prefix_nil.mp hle)
  rw [purgeDirectory, run_bind_of_ok (run_look _ d)] at hdir
  by_cases hthere : d.directoryExists dir
  · have hgone : (deleteDirectory dir).run d =
        (.ok (), { d.record (.rmdir dir) with tree := d.tree.erase loc }) := by
      obtain ⟨path, hpath, hlocate⟩ := hd.leads_iff.mpr hleads
      show deleteDirectory dir d = _
      simp only [deleteDirectory, hd.refuses_eq_false hcalm, hpath, hlocate, Bool.false_eq_true,
        if_false]
      rfl
    rw [if_pos hthere, orWarn, run_bind_of_ok (run_attempt_eq_ok_iff.mpr hgone)] at hdir
    have herased : (d.tree.erase loc).find? l = none := by
      rw [Tree.find?_erase, if_pos ⟨hle, hl⟩]
    cases hdir.symm.trans herased
  · rw [if_neg hthere] at hdir
    have hdir' : d.tree.find? l = some (.dir time) := hdir
    have hsome := hd.grounded loc l hle (by rw [hdir']; rfl)
    rw [find?_of_not_directoryExists hd hleads hloc hthere] at hsome
    cases hsome

/-- **Purging a directory that a plan provides for** makes room for files: nothing in it is a
directory, and what was already in the plan is kept by every way to purge. -/
lemma purgeDirectory_follows {dir : String} (hcalm : d₀.world.Calm)
    (hleads : d₀.assigns.Leads dir loc) (hloc : p.directories loc) (hne : loc ≠ [])
    (hfill : ∀ l, p.directories l → loc <+: l → l = loc) (hd : Follows p d₀ d) (warning : String) :
    Follows (p.fill loc hfill) d₀ ((purgeDirectory dir warning).run d).2 := by
  have hkeeps : Follows p d₀ ((purgeDirectory dir warning).run d).2 :=
    ((purgeDirectory_abides (S := fun _ => True) (deleteDirectory_follows dir) warning) d hd).1
  exact ⟨hkeeps.assigns, hkeeps.world, hkeeps.scratchUsed, hkeeps.grounded, hkeeps.directories,
    fun l hl => hl.elim (hkeeps.files l) fun ⟨hle, _⟩ =>
      not_holdsDir_of_purge hcalm hleads hloc hne hd warning hle⟩

end Job

/-- **Renewing a directory that a plan provides for** makes room for files. -/
lemma Surface.renewDirectory_follows {p : Plan} {d₀ d : Depot} {dir : String} {loc : Location}
    (hcalm : d₀.world.Calm) (hleads : d₀.assigns.Leads dir loc) (hne : loc ≠ [])
    (hloc : ∀ l, l <+: loc → p.directories l)
    (hfill : ∀ l, p.directories l → loc <+: l → l = loc) (hd : Follows p d₀ d) :
    Follows (p.fill loc hfill) d₀ ((renewDirectory dir).run d).2 := by
  have hpurged := Job.purgeDirectory_follows hcalm hleads (hloc loc (List.prefix_refl loc)) hne hfill
    hd "cannot purge surface directory"
  have hmade : Steps (Preserves (Follows (p.fill loc hfill) d₀)) (Job.createDirectory dir) :=
    Job.createDirectory_follows fun l hl l' hle =>
      (p.fill loc hfill).apart l' (hloc l' (hleads.unique hl ▸ hle))
  obtain ⟨_, hok, -⟩ := ((Job.purgeDirectory_abides (S := fun _ => False)
    (Job.deleteDirectory_follows dir) "cannot purge surface directory") d hd).2.exists_ok
  rw [renewDirectory, Job.run_bind_of_ok (Prod.ext hok rfl)]
  exact hmade.orWarn _ _ hpurged

end SceneForge
