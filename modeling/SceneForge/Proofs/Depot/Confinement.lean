import Mathlib.Data.List.Infix
import SceneForge.Proofs.Depot.Evolution
import SceneForge.Proofs.Depot.Layout

set_option autoImplicit false

/-!
# What calls leave alone

A zone says where something may be written, by location texts: directories that are emptied and
filled again, directories that come and go, and files. Outside its zone an action keeps every file
with its contents and its time and every directory, and makes a directory only on the way to
something inside. What a call does to the locations of a tree is said once for each call; that it
keeps to a zone follows from where its location text leads.

## Main definitions

* `SceneForge.Assigns.Leads` — a location text leads to a location.
* `SceneForge.Zone`, `SceneForge.Zone.Files`, `SceneForge.Zone.Directories` — zones, and the
  locations where they let files and directories change.
* `SceneForge.Zone.Clear`, `SceneForge.Zone.Misses` — locations that a zone does not cover, and
  those on branches that it does not reach.
* `SceneForge.Depot.Keeps` — everything outside a zone is kept.

## Main results

* `SceneForge.Depot.locate_dir_norm` — the directory of a path that leaves the tree.
* `SceneForge.Depot.lawful_keeps` — keeping what lies outside a zone composes.
* `SceneForge.Depot.Keeps.find?_file_iff`, `SceneForge.Depot.Keeps.find?_eq_of_clear`,
  `SceneForge.Depot.Keeps.find?_eq_of_misses` — what is the same afterwards.
* `SceneForge.Job.exists_of_createDirectory`, `SceneForge.Job.exists_of_deleteDirectory`,
  `SceneForge.Job.exists_of_writeAll` — what calls do to a tree.
* `SceneForge.Job.writeAll_keeps`, `SceneForge.Job.purgeDirectory_keeps` — calls keep to a zone.
-/

namespace SceneForge

/-! ## Paths that leave the tree -/

namespace Path

variable {p : Part} {ps : List Part}

/-- Tidy elements are tidy without the last one. -/
lemma Tidy.of_append_singleton (h : Tidy (ps ++ [p])) : Tidy ps := by
  obtain ⟨n, qs, heq, hqs⟩ := h
  rcases List.eq_nil_or_concat qs with rfl | ⟨rs, q, rfl⟩
  · rw [List.append_nil] at heq
    refine ⟨n - 1, [], ?_, by simp⟩
    have hps : ps = (List.replicate n dotDot).dropLast := by rw [← heq, List.dropLast_concat]
    rw [hps, List.dropLast_replicate, List.append_nil]
  · rw [List.concat_eq_append, ← List.append_assoc] at heq
    obtain ⟨rfl, -⟩ := List.append_inj' heq rfl
    exact ⟨n, rs, rfl, fun r hr => hqs r (by simp [hr])⟩

/-- Tidy elements that leave the tree do so with the first one. -/
lemma Tidy.dotDot_mem (h : Tidy (ps ++ [p])) (hmem : dotDot ∈ ps ++ [p]) (hne : ps ≠ []) :
    dotDot ∈ ps := by
  obtain ⟨n, qs, heq, hqs⟩ := h
  obtain ⟨q, rs, rfl⟩ := List.exists_cons_of_ne_nil hne
  cases n with
  | zero =>
    rw [List.replicate_zero, List.nil_append] at heq
    rw [heq] at hmem
    exact absurd rfl (hqs dotDot hmem).ne_dotDot
  | succ n =>
    rw [List.replicate_succ, List.cons_append, List.cons_append, List.cons.injEq] at heq
    simp [heq.1]

end Path

namespace Depot

open SceneForge.Path (dotDot)

/-- **The directory of a path that leaves the tree** leaves it too, or is the top directory. -/
lemma locate_dir_norm {text : String} {l : Location}
    (h : locate (Path.dir (Path.norm text)) = some l) :
    l = [] ∨ ∃ loc, locate (Path.norm text) = some loc ∧ l = loc.dropLast := by
  cases hloc : locate (Path.norm text) with
  | some loc =>
    rw [locate_dir hloc, Option.some.injEq] at h
    exact Or.inr ⟨loc, rfl, h.symm⟩
  | none =>
    refine Or.inl ?_
    have hnorm : Path.norm text =
        String.ofList (Path.text (Path.cleanParts (Path.slashed text.toList))) := by
      rw [Path.norm, Path.normChars_eq_text]
    have htidy := Path.tidy_cleanParts (Path.slashed text.toList)
    generalize Path.cleanParts (Path.slashed text.toList) = ps at hnorm htidy
    rw [hnorm] at h hloc
    rcases List.eq_nil_or_concat ps with rfl | ⟨qs, p, rfl⟩
    · cases hloc
    rw [List.concat_eq_append] at h hloc htidy
    rw [Path.text_of_ne_nil (by simp)] at h hloc
    have hmem : dotDot ∈ qs ++ [p] := by
      by_contra hnone
      rw [locate_join htidy (by simp), if_neg hnone] at hloc
      cases hloc
    have hqs := htidy.of_append_singleton
    rw [Path.dir, String.toList_ofList,
      Path.dirChars_join hqs (htidy.of_mem (List.mem_append_right _ List.mem_cons_self)).2.2] at h
    by_cases hnil : qs = []
    · subst hnil
      exact (Option.some.inj h).symm
    · rw [Path.text_of_ne_nil hnil, locate_join hqs hnil,
        if_pos (htidy.dotDot_mem hmem hnil)] at h
      cases h

end Depot

/-! ## Zones -/

/-- A location text leads to a location. -/
def Assigns.Leads (a : Assigns) (uri : String) (loc : Location) : Prop :=
  ∃ path, a.resolve uri = .ok path ∧ Depot.locate path = some loc

/-- A location text leads to one location. -/
lemma Assigns.Leads.unique {a : Assigns} {uri : String} {l l' : Location} (h : a.Leads uri l)
    (h' : a.Leads uri l') : l = l' := by
  obtain ⟨path, hpath, hloc⟩ := h
  obtain ⟨path', hpath', hloc'⟩ := h'
  rw [hpath] at hpath'
  cases hpath'
  exact Option.some.inj (hloc.symm.trans hloc')

/-- Where a location text leads can be found out. -/
instance Assigns.decidableLeads (a : Assigns) (uri : String) (loc : Location) :
    Decidable (a.Leads uri loc) :=
  decidable_of_iff ((a.resolve uri).toOption.bind Depot.locate = some loc) <| by
    cases h : a.resolve uri <;> simp [Leads, h, Except.toOption]

/-- A location text is resolved to a path in depot spelling. -/
lemma Assigns.exists_norm_of_resolve {a : Assigns} {uri path : String}
    (h : a.resolve uri = .ok path) : ∃ text, path = Path.norm text := by
  unfold resolve at h
  split at h
  · exact ⟨_, (Except.ok.inj h).symm⟩
  · split_ifs at h
    · exact ⟨_, (Except.ok.inj h).symm⟩
    · split at h
      · cases h
      · exact ⟨_, (Except.ok.inj h).symm⟩

/-- Where something may be written. -/
structure Zone where
  /-- Directories that are emptied and filled again. -/
  renewed : List String := []
  /-- Directories that come and go. -/
  scratch : List String := []
  /-- Files. -/
  written : List String := []

namespace Zone

/-- The locations where files may change: everything inside the directories, and the files. -/
inductive Files (z : Zone) (a : Assigns) (loc : Location) : Prop where
  /-- Inside a directory that is renewed or that comes and goes. -/
  | inside {uri : String} {l : Location} (mem : uri ∈ z.renewed ∨ uri ∈ z.scratch)
      (leads : a.Leads uri l) (below : l <+: loc) (ne : loc ≠ l)
  /-- At a file. -/
  | written {uri : String} (mem : uri ∈ z.written) (leads : a.Leads uri loc)

/-- Whether files may change at a location can be found out. -/
instance decidableFiles (z : Zone) (a : Assigns) (loc : Location) : Decidable (z.Files a loc) :=
  decidable_of_iff ((∃ uri ∈ z.renewed ++ z.scratch, ∃ l ∈ loc.inits, a.Leads uri l ∧ loc ≠ l) ∨
    ∃ uri ∈ z.written, a.Leads uri loc) <| by
    constructor
    · rintro (⟨uri, mem, l, below, leads, ne⟩ | ⟨uri, mem, leads⟩)
      · exact .inside (List.mem_append.mp mem) leads (List.mem_inits _ _ |>.mp below) ne
      · exact .written mem leads
    · rintro (⟨mem, leads, below, ne⟩ | ⟨mem, leads⟩)
      · exact Or.inl ⟨_, List.mem_append.mpr mem, _, List.mem_inits _ _ |>.mpr below, leads, ne⟩
      · exact Or.inr ⟨_, mem, leads⟩

/-- The locations where directories may change: the directories of the zone and everything inside
them. -/
def Directories (z : Zone) (a : Assigns) (loc : Location) : Prop :=
  ∃ uri l, (uri ∈ z.renewed ∨ uri ∈ z.scratch) ∧ a.Leads uri l ∧ l <+: loc

/-- The place of a directory that comes and goes. A file that is there already goes with it. -/
def Scratch (z : Zone) (a : Assigns) (loc : Location) : Prop := ∃ uri ∈ z.scratch, a.Leads uri loc

/-- A location lies on the way to something in the zone. -/
def Above (z : Zone) (a : Assigns) (loc : Location) : Prop :=
  ∃ l, (z.Files a l ∨ z.Directories a l) ∧ loc <+: l ∧ loc ≠ l

/-- All location texts of a zone. -/
def uris (z : Zone) : List String := z.renewed ++ z.scratch ++ z.written

/-- A location on a branch of its own: what a zone names is neither above it nor below it. -/
def Misses (z : Zone) (a : Assigns) (loc : Location) : Prop :=
  ∀ uri ∈ z.uris, ∀ l, a.Leads uri l → ¬ l <+: loc ∧ ¬ loc <+: l

/-- A location that a zone does not cover: nothing that it names is there or above. -/
def Clear (z : Zone) (a : Assigns) (loc : Location) : Prop :=
  ∀ uri ∈ z.uris, ∀ l, a.Leads uri l → ¬ l <+: loc

/-- What may become of a location in a zone. -/
inductive Allows (z : Zone) (d : Depot) (t : Tree) (loc : Location) : Prop where
  /-- It holds what it held before. -/
  | kept (same : t.find? loc = d.tree.find? loc)
  /-- A file is written where files may change and no directory is. -/
  | file {bytes : Bytes} {time : Int} (mem : z.Files d.assigns loc)
      (free : ∀ time, d.tree.find? loc ≠ some (.dir time))
      (holds : t.find? loc = some (.file bytes time))
  /-- A missing directory is made in the zone or above. -/
  | made {time : Int} (above : z.Directories d.assigns loc ∨ z.Above d.assigns loc)
      (missing : d.tree.find? loc = none) (holds : t.find? loc = some (.dir time))
  /-- It is removed, where directories may change. A file goes only where files may change, or from
  the place of a directory that comes and goes. -/
  | removed (gone : t.find? loc = none)
      (files : z.Files d.assigns loc ∨ z.Scratch d.assigns loc ∨
        ∀ bytes time, d.tree.find? loc ≠ some (.file bytes time))
      (directories : z.Directories d.assigns loc)

/-- The zone with more directories that come and go. -/
def addScratch (z : Zone) (uris : List String) : Zone := { z with scratch := z.scratch ++ uris }

variable {z : Zone} {a : Assigns} {loc : Location} {uris uris' : List String}

/-- Where files may change, something that the zone names is at or above the location. -/
lemma Files.exists_leads (h : z.Files a loc) : ∃ uri ∈ z.uris, ∃ l, a.Leads uri l ∧ l <+: loc := by
  cases h with
  | inside mem leads below ne =>
    exact ⟨_, List.mem_append_left _ (List.mem_append.mpr mem), _, leads, below⟩
  | written mem leads => exact ⟨_, List.mem_append_right _ mem, _, leads, List.prefix_refl _⟩

/-- Where directories may change, something that the zone names is at or above the location. -/
lemma Directories.exists_leads (h : z.Directories a loc) :
    ∃ uri ∈ z.uris, ∃ l, a.Leads uri l ∧ l <+: loc := by
  obtain ⟨uri, l, mem, leads, below⟩ := h
  exact ⟨uri, List.mem_append_left _ (List.mem_append.mpr mem), l, leads, below⟩

/-- A location on a branch of its own is not covered. -/
lemma Misses.clear (h : z.Misses a loc) : z.Clear a loc := fun uri mem l leads =>
  (h uri mem l leads).1

/-- Everything above a location on a branch of its own is not covered. -/
lemma Misses.clear_above {l : Location} (h : z.Misses a loc) (hle : l <+: loc) : z.Clear a l :=
  fun uri mem l' leads hle' => (h uri mem l' leads).1 (hle'.trans hle)

/-- Everything below a location on a branch of its own is on a branch of its own too. -/
lemma Misses.below {l : Location} (h : z.Misses a loc) (hle : loc <+: l) : z.Misses a l := by
  intro uri mem l' leads
  obtain ⟨hbelow, habove⟩ := h uri mem l' leads
  exact ⟨fun hle' => (List.prefix_or_prefix_of_prefix hle' hle).elim hbelow habove,
    fun hle' => habove (hle.trans hle')⟩

/-- No file changes where nothing is covered. -/
lemma Clear.not_files (h : z.Clear a loc) : ¬ z.Files a loc := fun hfiles => by
  obtain ⟨uri, mem, l, leads, below⟩ := hfiles.exists_leads
  exact h uri mem l leads below

/-- No directory changes where nothing is covered. -/
lemma Clear.not_directories (h : z.Clear a loc) : ¬ z.Directories a loc := fun hdirs => by
  obtain ⟨uri, mem, l, leads, below⟩ := hdirs.exists_leads
  exact h uri mem l leads below

/-- No directory comes and goes where nothing is covered. -/
lemma Clear.not_scratch (h : z.Clear a loc) : ¬ z.Scratch a loc := fun ⟨uri, mem, leads⟩ =>
  h.not_directories ⟨uri, loc, Or.inr mem, leads, List.prefix_refl loc⟩

/-- A branch of its own does not lead into the zone. -/
lemma Misses.not_above (h : z.Misses a loc) : ¬ z.Above a loc := by
  rintro ⟨l', hl', hle, -⟩
  obtain ⟨uri, mem, l, leads, below⟩ := hl'.elim Files.exists_leads Directories.exists_leads
  obtain ⟨hbelow, habove⟩ := h uri mem l leads
  exact (List.prefix_or_prefix_of_prefix below hle).elim hbelow habove

/-- There may be more scratch space. -/
lemma scratch_addScratch_subset (z : Zone) (hsub : uris ⊆ uris') :
    (z.addScratch uris).scratch ⊆ (z.addScratch uris').scratch :=
  List.append_subset.mpr ⟨List.subset_append_left _ _,
    List.Subset.trans hsub (List.subset_append_right _ _)⟩

/-- The directories of a zone are there with more scratch space. -/
lemma mem_addScratch {uri : String}
    (h : uri ∈ (z.addScratch uris).renewed ∨ uri ∈ (z.addScratch uris).scratch)
    (hsub : uris ⊆ uris') :
    uri ∈ (z.addScratch uris').renewed ∨ uri ∈ (z.addScratch uris').scratch :=
  h.imp_right fun h => z.scratch_addScratch_subset hsub h

/-- Files may change in more places if there is more scratch space. -/
lemma Files.addScratch (h : (z.addScratch uris).Files a loc) (hsub : uris ⊆ uris') :
    (z.addScratch uris').Files a loc := by
  cases h with
  | inside mem leads below ne => exact .inside (mem_addScratch mem hsub) leads below ne
  | written mem leads => exact .written mem leads

/-- Directories may change in more places if there is more scratch space. -/
lemma Directories.addScratch (h : (z.addScratch uris).Directories a loc) (hsub : uris ⊆ uris') :
    (z.addScratch uris').Directories a loc := by
  obtain ⟨uri, l, mem, leads, below⟩ := h
  exact ⟨uri, l, mem_addScratch mem hsub, leads, below⟩

/-- More directories come and go if there is more scratch space. -/
lemma Scratch.addScratch (h : (z.addScratch uris).Scratch a loc) (hsub : uris ⊆ uris') :
    (z.addScratch uris').Scratch a loc := by
  obtain ⟨uri, mem, leads⟩ := h
  exact ⟨uri, z.scratch_addScratch_subset hsub mem, leads⟩

end Zone

namespace Depot

/-- **Everything outside a zone is kept**: files with their contents and times, and directories. New
directories outside the zone lie on the way to something in it. -/
structure Keeps (z : Zone) (d d' : Depot) : Prop where
  /-- Areas stay where they are. -/
  assigns : d'.assigns = d.assigns
  /-- The world is the same. -/
  world : d'.world = d.world
  /-- Scratch names are not given back. -/
  scratchUsed : d.scratchUsed ≤ d'.scratchUsed
  /-- No file outside is made or written. -/
  unwritten : ∀ loc, ¬ z.Files d.assigns loc → ∀ data time,
    d'.tree.find? loc = some (.file data time) → d.tree.find? loc = some (.file data time)
  /-- No file outside is removed, except from the place of a directory that comes and goes. -/
  unremoved : ∀ loc, ¬ z.Files d.assigns loc → ¬ z.Scratch d.assigns loc → ∀ data time,
    d.tree.find? loc = some (.file data time) → d'.tree.find? loc = some (.file data time)
  /-- No directory outside is removed or stamped anew. -/
  directories : ∀ loc, ¬ z.Directories d.assigns loc → ∀ time,
    d.tree.find? loc = some (.dir time) → d'.tree.find? loc = some (.dir time)
  /-- A directory outside is made on the way to something inside. -/
  ancestors : ∀ loc, ¬ z.Directories d.assigns loc → ∀ time,
    d'.tree.find? loc = some (.dir time) →
      d.tree.find? loc = some (.dir time) ∨ z.Above d.assigns loc

variable {z : Zone} {d d' d'' : Depot}

/-- Keeping what lies outside a zone composes. -/
lemma Keeps.trans (h : Keeps z d d') (h' : Keeps z d' d'') : Keeps z d d'' := by
  have hassigns := h.assigns
  refine ⟨h'.assigns.trans h.assigns, h'.world.trans h.world, h.scratchUsed.trans h'.scratchUsed,
    fun loc hloc data time hfile => ?_, fun loc hloc hscratch data time hfile => ?_,
    fun loc hloc time hdir => ?_, fun loc hloc time hdir => ?_⟩
  · exact h.unwritten loc hloc data time (h'.unwritten loc (hassigns ▸ hloc) data time hfile)
  · exact h'.unremoved loc (hassigns ▸ hloc) (hassigns ▸ hscratch) data time
      (h.unremoved loc hloc hscratch data time hfile)
  · exact h'.directories loc (hassigns ▸ hloc) time (h.directories loc hloc time hdir)
  · rcases h'.ancestors loc (hassigns ▸ hloc) time hdir with hdir | habove
    · exact h.ancestors loc hloc time hdir
    · exact Or.inr (hassigns ▸ habove)

/-- More scratch space leaves less to keep. -/
lemma Keeps.addScratch {uris uris' : List String} (h : Keeps (z.addScratch uris) d d')
    (hsub : uris ⊆ uris') : Keeps (z.addScratch uris') d d' := by
  refine ⟨h.assigns, h.world, h.scratchUsed, fun loc hloc => h.unwritten loc fun hf => hloc ?_,
    fun loc hloc hscratch => h.unremoved loc (fun hf => hloc ?_) fun hs => hscratch ?_,
    fun loc hloc => h.directories loc fun hd => hloc ?_, fun loc hloc time hdir => ?_⟩
  · exact hf.addScratch hsub
  · exact hf.addScratch hsub
  · exact hs.addScratch hsub
  · exact hd.addScratch hsub
  · refine (h.ancestors loc (fun hd => hloc (hd.addScratch hsub)) time hdir).imp_right ?_
    rintro ⟨l, hl, hle, hne⟩
    exact ⟨l, hl.imp (·.addScratch hsub) (·.addScratch hsub), hle, hne⟩

/-- **No file outside a zone changes** if no file is in the place of a directory that comes and
goes. -/
lemma Keeps.find?_file_iff (h : Keeps z d d') {loc : Location} (hloc : ¬ z.Files d.assigns loc)
    (hfree : z.Scratch d.assigns loc → d.tree.find? loc = none) (data : Bytes) (time : Int) :
    d'.tree.find? loc = some (.file data time) ↔ d.tree.find? loc = some (.file data time) := by
  refine ⟨h.unwritten loc hloc data time, fun hfile => ?_⟩
  refine h.unremoved loc hloc (fun hscratch => ?_) data time hfile
  cases hfile.symm.trans (hfree hscratch)

/-- No file changes at a location that a zone does not cover. -/
lemma Keeps.find?_file_iff_of_clear (h : Keeps z d d') {loc : Location}
    (hloc : z.Clear d.assigns loc) (data : Bytes) (time : Int) :
    d'.tree.find? loc = some (.file data time) ↔ d.tree.find? loc = some (.file data time) :=
  h.find?_file_iff hloc.not_files (fun hscratch => absurd hscratch hloc.not_scratch) data time

/-- **What is at a location that a zone does not cover** stays there. -/
lemma Keeps.find?_eq_of_clear (h : Keeps z d d') {loc : Location} (hloc : z.Clear d.assigns loc)
    (hsome : (d.tree.find? loc).isSome) : d'.tree.find? loc = d.tree.find? loc := by
  obtain ⟨entry, hold⟩ := Option.isSome_iff_exists.mp hsome
  rw [hold]
  cases entry with
  | file data time => exact h.unremoved loc hloc.not_files hloc.not_scratch data time hold
  | dir time => exact h.directories loc hloc.not_directories time hold

/-- **A location on a branch of its own** holds what it held before. -/
lemma Keeps.find?_eq_of_misses (h : Keeps z d d') {loc : Location} (hloc : z.Misses d.assigns loc) :
    d'.tree.find? loc = d.tree.find? loc := by
  cases hold : d.tree.find? loc with
  | some entry => exact (h.find?_eq_of_clear hloc.clear (by rw [hold]; rfl)).trans hold
  | none =>
    cases hnew : d'.tree.find? loc with
    | none => rfl
    | some entry =>
      cases entry with
      | file data time =>
        cases hold.symm.trans ((h.find?_file_iff_of_clear hloc.clear data time).mp hnew)
      | dir time =>
        have hdir := h.ancestors loc hloc.clear.not_directories time hnew
        cases hold.symm.trans (hdir.resolve_right hloc.not_above)

/-- **Keeping what lies outside a zone** composes, and nothing has to happen. -/
instance lawful_keeps : Lawful (Keeps z) where
  quiet htree hassigns hworld _ hscratch _ :=
    ⟨hassigns, hworld, hscratch, fun _ _ _ _ hfile => htree ▸ hfile,
      fun _ _ _ _ _ hfile => htree ▸ hfile, fun _ _ _ hdir => htree ▸ hdir,
      fun _ _ _ hdir => Or.inl (htree ▸ hdir)⟩
  trans := Keeps.trans

/-- A depot whose tree changes as a zone allows, and whose journal grows, keeps what lies
outside. -/
lemma keeps_of_allows {t : Tree} (h : ∀ loc, z.Allows d t loc) (j : List Event) :
    Keeps z d { d with tree := t, journal := j } := by
  refine ⟨rfl, rfl, Nat.le_refl _, fun loc hloc data time hfile => ?_,
    fun loc hloc hscratch data time hfile => ?_, fun loc hloc time hdir => ?_,
    fun loc hloc time hdir => ?_⟩
  · cases h loc with
    | kept same => exact same.symm.trans hfile
    | file mem free holds => exact absurd mem hloc
    | made above missing holds => cases hfile.symm.trans holds
    | removed gone files directories => cases hfile.symm.trans gone
  · cases h loc with
    | kept same => exact same.trans hfile
    | file mem free holds => exact absurd mem hloc
    | made above missing holds => cases hfile.symm.trans missing
    | removed gone files directories =>
      exact absurd hfile ((files.resolve_left hloc).resolve_left hscratch data time)
  · cases h loc with
    | kept same => exact same.trans hdir
    | file mem free holds => exact absurd hdir (free time)
    | made above missing holds => cases hdir.symm.trans missing
    | removed gone files directories => exact absurd directories hloc
  · cases h loc with
    | kept same => exact Or.inl (same.symm.trans hdir)
    | file mem free holds => cases hdir.symm.trans holds
    | made above missing holds => exact Or.inr (above.resolve_left hloc)
    | removed gone files directories => cases hdir.symm.trans gone

end Depot

/-! ## Calls -/

namespace Job

open Depot (Keeps locate)

variable {z : Zone} {uri : String}

/-- **A call that makes a directory** changes the tree and the journal: directories that were
missing on the way are made. -/
lemma exists_of_createDirectory (uri : String) (d : Depot) :
    ∃ t j, ((createDirectory uri).run d).2 = { d with tree := t, journal := j } ∧
      ∀ loc, t.find? loc = d.tree.find? loc ∨ ∃ l time, d.assigns.Leads uri l ∧ loc <+: l ∧
        d.tree.find? loc = none ∧ t.find? loc = some (.dir time) := by
  show ∃ t j, (createDirectory uri d).2 = _ ∧ _
  unfold createDirectory
  simp only
  split_ifs
  · exact ⟨_, _, rfl, fun loc => Or.inl rfl⟩
  cases hpath : d.assigns.resolve uri with
  | error f => exact ⟨_, _, rfl, fun loc => Or.inl rfl⟩
  | ok path =>
    cases hmade : (d.record (.mkdir uri)).makeDirs path with
    | error f =>
      simp only [hmade]
      exact ⟨_, _, rfl, fun loc => Or.inl rfl⟩
    | ok made =>
      obtain ⟨heq, hdirs⟩ := makeDirs_cases hmade
      simp only [hmade]
      refine ⟨made.tree, _, heq, fun loc => ?_⟩
      rcases hdirs loc with h | ⟨l, hl, hle, h, hnone⟩
      · exact Or.inl h
      · exact Or.inr ⟨l, _, ⟨path, hpath, hl⟩, hle, hnone, h⟩

/-- **A call that removes a directory** changes the tree and the journal: everything there and below
is removed. -/
lemma exists_of_deleteDirectory (uri : String) (d : Depot) :
    ∃ t j, ((deleteDirectory uri).run d).2 = { d with tree := t, journal := j } ∧
      ∀ loc, t.find? loc = d.tree.find? loc ∨ ∃ l, d.assigns.Leads uri l ∧ l <+: loc ∧
        t.find? loc = none := by
  show ∃ t j, (deleteDirectory uri d).2 = _ ∧ _
  unfold deleteDirectory
  simp only
  split_ifs
  · exact ⟨_, _, rfl, fun loc => Or.inl rfl⟩
  cases hpath : d.assigns.resolve uri with
  | error f => exact ⟨_, _, rfl, fun loc => Or.inl rfl⟩
  | ok path =>
    cases hl : locate path with
    | none =>
      simp only [hl]
      exact ⟨_, _, rfl, fun loc => Or.inl rfl⟩
    | some l =>
      simp only [hl]
      refine ⟨d.tree.erase l, _, rfl, fun loc => ?_⟩
      rw [Tree.find?_erase]
      split_ifs with hbelow
      · exact Or.inr ⟨l, ⟨path, hpath, hl⟩, hbelow.1, rfl⟩
      · exact Or.inl rfl

/-- What writing a file does to a location of a tree. -/
inductive Writes (d : Depot) (uri : String) (t : Tree) (loc : Location) : Prop where
  /-- It holds what it held before. -/
  | kept (same : t.find? loc = d.tree.find? loc)
  /-- It holds the file; there was no directory. -/
  | file {bytes : Bytes} {time : Int} (leads : d.assigns.Leads uri loc)
      (free : ∀ time, d.tree.find? loc ≠ some (.dir time))
      (holds : t.find? loc = some (.file bytes time))
  /-- It holds a directory on the way to the file, where nothing was. -/
  | ancestor {l : Location} {time : Int} (leads : d.assigns.Leads uri l) (above : loc <+: l)
      (ne : loc ≠ l) (missing : d.tree.find? loc = none) (holds : t.find? loc = some (.dir time))

/-- What is made on the way to a file lies above it. -/
lemma Writes.of_makeDirs {d made : Depot} {path : String} (hpath : d.assigns.resolve uri = .ok path)
    (hmade : (d.record (.create uri)).makeDirs (Path.dir path) = .ok made) (loc : Location) :
    Writes d uri made.tree loc := by
  rcases (makeDirs_cases hmade).2 loc with h | ⟨l', hl', hle, h, hnone⟩
  · exact .kept h
  · have hne : loc ≠ [] := by
      rintro rfl
      cases hnone
    obtain ⟨text, rfl⟩ := Assigns.exists_norm_of_resolve hpath
    rcases Depot.locate_dir_norm hl' with rfl | ⟨l, hl, rfl⟩
    · exact absurd (List.prefix_nil.mp hle) hne
    · refine .ancestor ⟨_, hpath, hl⟩ (hle.trans (List.dropLast_prefix l)) ?_ hnone h
      rintro rfl
      have hlen := hle.length_le
      have hpos := List.length_pos_iff.mpr hne
      rw [List.length_dropLast] at hlen
      omega

/-- A file is opened for writing where there is no directory. -/
lemma not_dir_of_truncate {d opened : Depot} {path : String} {loc : Location}
    (h : d.truncate path = .ok (opened, loc)) (time : Int) :
    d.tree.find? loc ≠ some (.dir time) := by
  obtain ⟨hloc, -, -⟩ := truncate_cases h
  intro hdir
  simp [Depot.truncate, hloc, hdir] at h

/-- A tree in which the file was put holds it, and else what was made on the way to it. -/
lemma Writes.of_truncate {d made opened : Depot} {path : String} {l : Location}
    (hpath : d.assigns.resolve uri = .ok path)
    (hmade : (d.record (.create uri)).makeDirs (Path.dir path) = .ok made)
    (hopen : made.truncate path = .ok (opened, l)) {t : Tree} {bytes : Bytes} {time : Int}
    (ht : ∀ loc, t.find? loc = if loc = l then some (.file bytes time) else made.tree.find? loc)
    (loc : Location) : Writes d uri t loc := by
  have hloc := ht loc
  by_cases heq : loc = l
  · subst heq
    rw [if_pos rfl] at hloc
    refine .file ⟨path, hpath, (truncate_cases hopen).1⟩ (fun time hdir => ?_) hloc
    rcases (makeDirs_cases hmade).2 loc with h | ⟨-, -, -, -, hnone⟩
    · exact not_dir_of_truncate hopen time (h.trans hdir)
    · cases hdir.symm.trans hnone
  · rw [if_neg heq] at hloc
    cases Writes.of_makeDirs hpath hmade loc with
    | kept same => exact .kept (hloc.trans same)
    | file leads free holds => exact .file leads free (hloc.trans holds)
    | ancestor leads above ne missing holds =>
      exact .ancestor leads above ne missing (hloc.trans holds)

/-- **A call that writes a file** changes the tree and the journal, wherever it fails.

**Proof sketch.** By what the call did (`writing_of_writeAll`): directories are made above the file
only (`Writes.of_makeDirs`), and once the file was opened its place holds bytes, none or those that
were written (`Writes.of_truncate`). -/
lemma exists_of_writeAll (uri : String) (data : Bytes) (d : Depot) :
    ∃ t j, ((writeAll uri data).run d).2 = { d with tree := t, journal := j } ∧
      ∀ loc, Writes d uri t loc := by
  have hframe : ∀ {made opened : Depot} {path : String} {l : Location},
      (d.record (.create uri)).makeDirs (Path.dir path) = .ok made →
      made.truncate path = .ok (opened, l) → ∀ t, { opened with tree := t } =
        { d with tree := t, journal := (d.record (.create uri)).journal } := by
    intro made opened path l hmade hopen t
    obtain ⟨-, -, rfl⟩ := truncate_cases hopen
    rw [(makeDirs_cases hmade).1]
    rfl
  rcases hrun : (writeAll uri data).run d with ⟨r, d'⟩
  cases writing_of_writeAll hrun with
  | unmade cause => exact ⟨_, _, rfl, fun loc => .kept rfl⟩
  | unopened cause hpath hmade =>
    exact ⟨d'.tree, _, (makeDirs_cases hmade).1, Writes.of_makeDirs hpath hmade⟩
  | @emptied path made opened l hpath hmade hopen =>
    have hempty : ∀ loc, d'.tree.find? loc =
        if loc = l then some (.file [] made.now) else made.tree.find? loc := by
      intro loc
      rw [(truncate_cases hopen).2.2, Tree.find?_insert (truncate_cases hopen).2.1]
    exact ⟨d'.tree, _, hframe hmade hopen d'.tree, Writes.of_truncate hpath hmade hopen hempty⟩
  | @written path made opened l _ hpath hmade hopen hresult =>
    have hfull : ∀ loc, (opened.tree.insert l (.file data opened.now)).find? loc =
        if loc = l then some (.file data opened.now) else made.tree.find? loc := by
      intro loc
      obtain ⟨-, hne, rfl⟩ := truncate_cases hopen
      rw [Tree.find?_insert hne, Tree.find?_insert hne]
      split_ifs <;> rfl
    exact ⟨_, _, hframe hmade hopen _, Writes.of_truncate hpath hmade hopen hfull⟩

/-! ## Calls that keep to a zone -/

/-- Making a directory of a zone keeps to the zone. -/
lemma createDirectory_keeps (h : uri ∈ z.renewed ∨ uri ∈ z.scratch) :
    Steps (Keeps z) (createDirectory uri) := by
  intro d
  obtain ⟨t, j, heq, hfind⟩ := exists_of_createDirectory uri d
  rw [heq]
  refine Depot.keeps_of_allows (fun loc => ?_) j
  rcases hfind loc with hsame | ⟨l, time, hleads, hle, hmissing, hdir⟩
  · exact .kept hsame
  · have hl : z.Directories d.assigns l := ⟨uri, l, h, hleads, List.prefix_refl l⟩
    refine .made ?_ hmissing hdir
    by_cases heq : loc = l
    · exact Or.inl (heq ▸ hl)
    · exact Or.inr ⟨l, Or.inr hl, hle, heq⟩

/-- Removing a directory that comes and goes keeps to the zone. -/
lemma deleteDirectory_keeps (h : uri ∈ z.scratch) : Steps (Keeps z) (deleteDirectory uri) := by
  intro d
  obtain ⟨t, j, heq, hfind⟩ := exists_of_deleteDirectory uri d
  rw [heq]
  refine Depot.keeps_of_allows (fun loc => ?_) j
  rcases hfind loc with hsame | ⟨l, hleads, hle, hgone⟩
  · exact .kept hsame
  · refine .removed hgone ?_ ⟨uri, l, Or.inr h, hleads, hle⟩
    by_cases heq : loc = l
    · exact Or.inr (Or.inl ⟨uri, h, heq ▸ hleads⟩)
    · exact Or.inl (.inside (Or.inr h) hleads hle heq)

/-- **Purging a directory that is renewed** keeps to the zone: a file in its place is left alone. -/
lemma purgeDirectory_keeps (h : uri ∈ z.renewed) (warning : String) :
    Steps (Keeps z) (purgeDirectory uri warning) := by
  intro d
  refine steps_bind_run (look_steps _ d) fun there d₁ hthere => ?_
  cases hthere
  split_ifs with hdir
  · refine steps_orWarn_run ?_ warning
    obtain ⟨t, j, heq, hfind⟩ := exists_of_deleteDirectory uri d
    rw [heq]
    refine Depot.keeps_of_allows (fun loc => ?_) j
    rcases hfind loc with hsame | ⟨l, hleads, hle, hgone⟩
    · exact .kept hsame
    · refine .removed hgone ?_ ⟨uri, l, Or.inl h, hleads, hle⟩
      by_cases heq : loc = l
      · refine Or.inr (Or.inr fun bytes time hfile => ?_)
        obtain ⟨path, hpath, hloc⟩ := hleads
        simp [Depot.directoryExists, Depot.stat?, hpath, hloc, ← heq, hfile, Entry.isDir] at hdir
      · exact Or.inl (.inside (Or.inl h) hleads hle heq)
  · exact pure_steps _ d

/-- **Writing where files may change** keeps to the zone. -/
lemma writeAll_keeps (h : ∀ a loc, Assigns.Leads a uri loc → z.Files a loc) (data : Bytes) :
    Steps (Keeps z) (writeAll uri data) := by
  intro d
  obtain ⟨t, j, heq, hwrites⟩ := exists_of_writeAll uri data d
  rw [heq]
  refine Depot.keeps_of_allows (fun loc => ?_) j
  cases hwrites loc with
  | kept same => exact .kept same
  | file leads free holds => exact .file (h _ _ leads) free holds
  | ancestor leads above ne missing holds =>
    exact .made (Or.inr ⟨_, Or.inl (h _ _ leads), above, ne⟩) missing holds

/-- Writing a file of a zone keeps to the zone. -/
lemma writeAll_keeps_of_mem (h : uri ∈ z.written) (data : Bytes) :
    Steps (Keeps z) (writeAll uri data) := writeAll_keeps (fun _ _ leads => .written h leads) data

end Job

end SceneForge
