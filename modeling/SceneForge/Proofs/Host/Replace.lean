import SceneForge.Host.Files
import SceneForge.Proofs.Export.Plan

set_option autoImplicit false

/-!
# Replacing a file of the host

A path is followed element by element, and only directories are passed on the way. So a tree that
still has these directories is walked alike. A file that is replaced is written next to its place
and then moved there; no directory is lost by that except what would lie below the temporary file,
and nobody came by there. Hence the path leads where it led before, to the contents that were
written. None of this needs to know how the tree was made.

## Main definitions

* `SceneForge.Location.step` — one element of a walk.
* `SceneForge.Host.start` — where the walk along a path starts.

## Main results

* `SceneForge.Tree.walk_below` — a walk that starts below something that is no directory stays
  there.
* `SceneForge.Tree.walk_of_keeps` — what a walk does not pass may go.
* `SceneForge.Host.contents_replace` — **a file that was replaced has the contents that were
  written**.
-/

namespace SceneForge

variable {t t' : Tree} {loc l old : Location} {p : String} {ps qs : List String}

/-! ## Walks -/

/-- Where one element of a path leads. -/
def Location.step (loc : Location) (p : String) : Location :=
  if p = "" ∨ p = "." then loc else if p = ".." then loc.dropLast else loc ++ [p]

/-- A name leads below. -/
lemma Location.step_of_name (hempty : p ≠ "") (hdot : p ≠ ".") (hup : p ≠ "..") (loc : Location) :
    loc.step p = loc ++ [p] := by
  simp [step, hempty, hdot, hup]

namespace Tree

/-- What is no directory is somewhere else than a directory. -/
lemma ne_of_holdsDir (hl : t.holdsDir l = true) (hold : t.holdsDir old = false) : old ≠ l := by
  rintro rfl
  rw [hl] at hold
  cases hold

/-- A walk goes from a directory to where its first element leads. -/
lemma walk_cons_iff : t.walk loc (p :: ps) = .ok l ↔
    t.holdsDir loc = true ∧ t.walk (loc.step p) ps = .ok l := by
  rw [holdsDir_iff]
  cases hfind : t.find? loc with
  | none => simp [walk, hfind]
  | some e =>
    cases e with
    | file data time => simp [walk, hfind]
    | dir time =>
      simp only [walk, hfind, Location.step, Option.some.injEq, Entry.dir.injEq, exists_eq', true_and]
      split_ifs <;> rfl

/-- A walk along two lists of elements is one walk after the other. -/
lemma walk_append_iff : t.walk loc (ps ++ qs) = .ok l ↔
    ∃ m, t.walk loc ps = .ok m ∧ t.walk m qs = .ok l := by
  induction ps generalizing loc with
  | nil => simp [walk]
  | cons p ps ih =>
    simp only [List.cons_append, walk_cons_iff, ih, and_assoc]
    exact ⟨fun ⟨hdir, m, h⟩ => ⟨m, hdir, h⟩, fun ⟨m, hdir, h⟩ => ⟨hdir, m, h⟩⟩

/-- **A walk that starts below something that is no directory** stays there: it would have to pass
it to get out. -/
lemma walk_below (hold : t.holdsDir old = false) (hloc : old <+: loc)
    (h : t.walk loc ps = .ok l) : old <+: l := by
  induction ps generalizing loc with
  | nil =>
    cases h
    exact hloc
  | cons p ps ih =>
    obtain ⟨hdir, h⟩ := walk_cons_iff.mp h
    refine ih ?_ h
    unfold Location.step
    split_ifs
    · exact hloc
    · exact prefix_dropLast hloc (ne_of_holdsDir hdir hold)
    · exact hloc.trans (List.prefix_append _ _)

/-- One element leads to a location or below it from outside only if it leads there exactly. -/
lemma step_eq_of_prefix (hloc : ¬ old <+: loc) (h : old <+: loc.step p) : loc.step p = old := by
  unfold Location.step at h ⊢
  split_ifs at h ⊢ with hnone hup
  · exact absurd h hloc
  · exact absurd (h.trans (List.dropLast_prefix loc)) hloc
  · exact ((List.prefix_concat_iff.mp h).resolve_right hloc).symm

/-- **What a walk does not pass may go**: a tree with the same directories except below something
that was no directory is walked alike. -/
lemma walk_of_keeps (hold : t.holdsDir old = false)
    (hkeep : ∀ x, t.holdsDir x = true → ¬ old <+: x → t'.holdsDir x = true) (hloc : ¬ old <+: loc)
    (h : t.walk loc ps = .ok l) : t'.walk loc ps = .ok l := by
  induction ps generalizing loc with
  | nil => exact h
  | cons p ps ih =>
    obtain ⟨hdir, h⟩ := walk_cons_iff.mp h
    refine walk_cons_iff.mpr ⟨hkeep loc hdir hloc, ?_⟩
    by_cases hle : old <+: loc.step p
    · -- the walk has come to what is no directory, so this was its last step
      have heq := step_eq_of_prefix hloc hle
      cases ps with
      | nil => exact h
      | cons q ps =>
        obtain ⟨hdir, -⟩ := walk_cons_iff.mp h
        exact absurd heq.symm (ne_of_holdsDir hdir hold)
    · exact ih hle h

/-- The top is a directory. -/
lemma ne_nil_of_holdsDir_eq_false (h : t.holdsDir l = false) : l ≠ [] := ne_of_holdsDir rfl h

/-- What is put in where no directory is takes no directory away. -/
lemma holdsDir_insert {x : Location} (hl : t.holdsDir l = false) (hx : t.holdsDir x = true)
    (e : Entry) : (t.insert l e).holdsDir x = true := by
  have hne : x ≠ l := (ne_of_holdsDir hx hl).symm
  rwa [holdsDir, find?_insert (ne_nil_of_holdsDir_eq_false hl), if_neg hne]

/-- What is taken out takes no directory away but those below it. -/
lemma holdsDir_erase {x : Location} (hx : t.holdsDir x = true) (hle : ¬ old <+: x) :
    (t.erase old).holdsDir x = true := by
  rwa [holdsDir, find?_erase, if_neg fun hboth => hle hboth.1]

/-- A directory that is there after something was taken out was there before. -/
lemma holdsDir_of_erase (hl : t.holdsDir l = false) :
    (t.erase old).holdsDir l = false := by
  rw [holdsDir, find?_erase]
  split_ifs
  · rfl
  · exact hl

end Tree

/-! ## Elements of a path -/

/-- What is put behind a path without a slash belongs to its last element. -/
lemma Path.exists_split_append {ds : List Char} (hds : '/' ∉ ds) (cs : List Char) :
    ∃ front last, Path.split cs = front ++ [last] ∧ Path.split (cs ++ ds) = front ++ [last ++ ds] := by
  induction cs with
  | nil => exact ⟨[], [], rfl, Path.split_of_noSlash hds⟩
  | cons c cs ih =>
    obtain ⟨front, last, hcs, happend⟩ := ih
    rw [List.cons_append, Path.split, Path.split, hcs, happend]
    split_ifs with hc
    · exact ⟨[] :: front, last, rfl, rfl⟩
    · cases front with
      | nil => exact ⟨[], c :: last, rfl, rfl⟩
      | cons p ps => exact ⟨(c :: p) :: ps, last, rfl, rfl⟩

namespace Host

variable {h : Host} {path suffix : String} {data : Bytes} {d d' : Depot}

/-- Where the walk along a path starts. -/
def start (h : Host) (path : String) : Location :=
  if Path.isRooted path.toList then [] else h.location "."

/-- A path that is not empty leads where its elements lead. -/
lemma reach_eq (hne : path ≠ "") (t : Tree) : h.reach t path = t.walk (h.start path) (elements path) := by
  unfold reach start
  rw [if_neg hne]
  split_ifs <;> rfl

/-- A path stands for what is at the location that it leads to. -/
lemma find_eq_ok_iff {t : Tree} {e : Entry} :
    h.find t path = .ok e ↔ ∃ loc, h.reach t path = .ok loc ∧ t.find? loc = some e := by
  unfold find
  cases hreach : h.reach t path with
  | error reason => simp [bind, Except.bind]
  | ok loc =>
    cases hfind : t.find? loc with
    | none => simp [bind, Except.bind, hfind, throw, throwThe, MonadExceptOf.throw]
    | some e' => simp [bind, Except.bind, hfind, pure, Except.pure]

/-- The path of a temporary file: its last element is a name that is longer. -/
lemma exists_elements_append (hslash : '/' ∉ suffix.toList) (hlong : 2 < suffix.toList.length)
    (path : String) : ∃ front name, elements (path ++ suffix) = front ++ [name] ∧
      ∀ loc : Location, loc.step name = loc ++ [name] := by
  obtain ⟨front, last, -, happend⟩ := Path.exists_split_append hslash path.toList
  refine ⟨front.map String.ofList, String.ofList (last ++ suffix.toList), ?_, fun loc => ?_⟩
  · rw [elements, String.toList_append, happend]
    simp
  · have hlen : 2 < (String.ofList (last ++ suffix.toList)).length := by
      rw [String.length_ofList, List.length_append]
      omega
    refine Location.step_of_name ?_ ?_ ?_ loc <;> (intro heq; rw [heq] at hlen; revert hlen; decide)

/-- What follows a path does not say where it starts. -/
lemma start_append (hne : path ≠ "") (suffix : String) : h.start (path ++ suffix) = h.start path := by
  unfold start
  rw [String.toList_append, Path.isRooted_append (by simpa using hne)]

/-! ## Writing and moving -/

/-- A file that was written is at the location that its path leads to, where no directory was. -/
lemma exists_of_write (hrun : (h.write path data).run d = (.ok (), d')) :
    ∃ loc, h.reach d.tree path = .ok loc ∧ d.tree.holdsDir loc = false ∧
      d' = { d with tree := d.tree.insert loc (.file data d.now) } := by
  have hrun : h.write path data d = (.ok (), d') := hrun
  unfold write at hrun
  cases hreach : h.reach d.tree path with
  | error reason =>
    rw [hreach] at hrun
    cases hrun
  | ok loc =>
    refine ⟨loc, rfl, ?_⟩
    rcases hfind : d.tree.find? loc with _ | ⟨old, time⟩ | time <;>
      simp only [hreach, hfind] at hrun <;> cases hrun
    · exact ⟨by simp [Tree.holdsDir, hfind], rfl⟩
    · exact ⟨by simp [Tree.holdsDir, hfind, Entry.isDir], rfl⟩

/-- What was moved is at the location that the target leads to, where no directory was. -/
lemma exists_of_rename {source target : String} (hrun : (h.rename source target).run d = (.ok (), d')) :
    ∃ old e new, h.reach d.tree source = .ok old ∧ d.tree.find? old = some e ∧
      h.reach d.tree target = .ok new ∧ d.tree.holdsDir new = false ∧
      d' = { d with tree := (d.tree.erase old).insert new e } := by
  have hrun : h.rename source target d = (.ok (), d') := hrun
  unfold rename at hrun
  cases hold : h.reach d.tree source with
  | error reason =>
    simp only [hold] at hrun
    cases hrun
  | ok old =>
    cases hfind : h.find d.tree source with
    | error reason =>
      simp only [hold, hfind] at hrun
      cases hrun
    | ok e =>
      cases hnew : h.reach d.tree target with
      | error reason =>
        simp only [hold, hfind, hnew] at hrun
        cases hrun
      | ok new =>
        obtain ⟨loc, hloc, he⟩ := find_eq_ok_iff.mp hfind
        obtain rfl : old = loc := Except.ok.inj (hold.symm.trans hloc)
        refine ⟨old, e, new, rfl, he, rfl, ?_⟩
        rcases hthere : d.tree.find? new with _ | ⟨data, time⟩ | time <;>
          simp only [hold, hfind, hnew, hthere] at hrun <;> cases hrun
        · exact ⟨by simp [Tree.holdsDir, hthere], rfl⟩
        · exact ⟨by simp [Tree.holdsDir, hthere, Entry.isDir], rfl⟩

/-- The walk along a path does not start below its temporary file: that file is next to the last
directory on the way. -/
lemma not_prefix_start (hslash : '/' ∉ suffix.toList) (hlong : 2 < suffix.toList.length)
    (hne : path ≠ "") (hreach : h.reach t (path ++ suffix) = .ok old)
    (hold : t.holdsDir old = false) : ¬ old <+: h.start path := by
  intro hle
  obtain ⟨front, name, helements, hname⟩ := exists_elements_append hslash hlong path
  rw [reach_eq (by simp [hne]), start_append hne, helements] at hreach
  obtain ⟨m, hfront, hlast⟩ := Tree.walk_append_iff.mp hreach
  have hm : m.step name = old := Except.ok.inj (Tree.walk_cons_iff.mp hlast).2
  have hlen := (Tree.walk_below hold hle hfront).length_le
  rw [← hm, hname] at hlen
  simp at hlen

/-- **A file that was replaced has the contents that were written**, whatever the tree was before.

**Proof sketch.** The temporary file is written where its text leads, and found there again, since
writing it removed no directory on the way. The walk along the path does not start below the
temporary file (`not_prefix_start`), so that moving the file leaves every directory of that walk;
the same place is reached again, and holds the contents. -/
theorem contents_replace (hslash : '/' ∉ suffix.toList) (hlong : 2 < suffix.toList.length)
    (hrun : (h.replace path (path ++ suffix) data).run d = (.ok (), d')) :
    path ≠ "" ∧ h.contents d'.tree path = .ok data := by
  obtain ⟨⟨⟩, d₁, hwrite, hmove⟩ := Job.exists_of_bind_run hrun
  obtain ⟨old, hold, holdDir, rfl⟩ := exists_of_write hwrite
  obtain ⟨old', e, new, hold', he, hnew, hnewDir, rfl⟩ := exists_of_rename hmove
  have hne : path ≠ "" := by
    rintro rfl
    simp [reach] at hnew
  have hne' : path ++ suffix ≠ "" := by simp [hne]
  have hstart := not_prefix_start hslash hlong hne hold holdDir
  let file : Entry := .file data d.now
  let written := d.tree.insert old file
  have hfile : written.find? old = some file := by
    rw [Tree.find?_insert (Tree.ne_nil_of_holdsDir_eq_false holdDir), if_pos rfl]
  -- the temporary file is found where it was written
  obtain rfl : old = old' := by
    rw [reach_eq hne', start_append hne] at hold hold'
    have hwalk : written.walk _ _ = .ok old := Tree.walk_of_keeps holdDir
      (fun x hx _ => Tree.holdsDir_insert holdDir hx _) hstart hold
    exact Except.ok.inj (hwalk.symm.trans hold')
  obtain rfl : e = file := Option.some.inj (he.symm.trans hfile)
  -- and moving it leaves every directory on the way to its place
  let moved := (written.erase old).insert new file
  have hreach : h.reach moved path = .ok new := by
    have holdDir' : written.holdsDir old = false := by
      rw [Tree.holdsDir, hfile]
      rfl
    have hnewDir' : (written.erase old).holdsDir new = false := Tree.holdsDir_of_erase hnewDir
    rw [reach_eq hne] at hnew ⊢
    exact Tree.walk_of_keeps holdDir'
      (fun x hx hle => Tree.holdsDir_insert hnewDir' (Tree.holdsDir_erase hx hle) _) hstart hnew
  have hfind : h.find moved path = .ok file := by
    refine find_eq_ok_iff.mpr ⟨new, hreach, ?_⟩
    rw [Tree.find?_insert (Tree.ne_nil_of_holdsDir_eq_false hnewDir), if_pos rfl]
  refine ⟨hne, ?_⟩
  show h.contents moved path = .ok data
  rw [contents, hfind]

end Host

end SceneForge
