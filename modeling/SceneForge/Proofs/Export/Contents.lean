import SceneForge.Proofs.Depot.Reach
import SceneForge.Proofs.Export.Plan

set_option autoImplicit false

/-!
# What a directory holds

An export empties a directory and fills it again. What it then holds is said exactly: these files
with these contents, directly in the directory, and nothing else below it. A file that is written to
the directory under a new name is added, and whatever happens elsewhere does not matter. On a calm
depot calls succeed if nothing of the wrong kind is in the way.

## Main definitions

* `SceneForge.Tree.HoldsExactly` — a directory with some files and nothing else.

## Main results

* `SceneForge.Tree.HoldsExactly.writeAll` — a file that was written is added.
* `SceneForge.Job.purgeDirectory_calm`, `SceneForge.Job.createDirectory_empty`,
  `SceneForge.Job.writeAll_into` — calls on a calm depot.
* `SceneForge.Surface.renewDirectory_calm` — a directory that was renewed is empty.
* `SceneForge.AssetId.leads_child` — where files in a directory of an asset lie.
-/

namespace SceneForge

open Depot (locate)

/-! ## Directories with exactly some files -/

namespace Tree

variable {t t' : Tree} {loc l : Location} {files : List (String × Bytes)} {name : String}
  {data : Bytes}

/-- A directory holds exactly some files: each of them is directly in it, under a name of its own,
and nothing else is below it. -/
structure HoldsExactly (t : Tree) (loc : Location) (files : List (String × Bytes)) : Prop where
  /-- The directory is there. -/
  dir : t.holdsDir loc
  /-- No two files have the same name. -/
  nodup : (files.map (·.1)).Nodup
  /-- Every file is there, with its contents. -/
  file : ∀ f ∈ files, ∃ time, t.find? (loc ++ [f.1]) = some (.file f.2 time)
  /-- There is nothing else. -/
  only : ∀ l, loc <+: l → l ≠ loc → (t.find? l).isSome → ∃ f ∈ files, l = loc ++ [f.1]

/-- What happens elsewhere does not matter. -/
lemma HoldsExactly.of_same (h : t.HoldsExactly loc files)
    (hsame : ∀ l, loc <+: l → t'.find? l = t.find? l) : t'.HoldsExactly loc files where
  dir := by
    rw [holdsDir, hsame loc (List.prefix_refl loc)]
    exact h.dir
  nodup := h.nodup
  file f hf := by
    rw [hsame _ (List.prefix_append _ _)]
    exact h.file f hf
  only l hle hne hsome := by
    rw [hsame l hle] at hsome
    exact h.only l hle hne hsome

/-- Whatever keeps to a zone that misses the directory does not matter. -/
lemma HoldsExactly.of_keeps {d d' : Depot} {z : Zone} (h : d.tree.HoldsExactly loc files)
    (hkeeps : d.Keeps z d') (hmiss : z.Misses d.assigns loc) : d'.tree.HoldsExactly loc files :=
  h.of_same fun _ hle => hkeeps.find?_eq_of_misses (hmiss.below hle)

/-- **A file with a new name** is added. -/
lemma HoldsExactly.insert (h : t.HoldsExactly loc files) (hnew : name ∉ files.map (·.1))
    (hfile : ∃ time, t'.find? (loc ++ [name]) = some (.file data time))
    (hsame : ∀ l, loc <+: l → l ≠ loc ++ [name] → t'.find? l = t.find? l) :
    t'.HoldsExactly loc (files ++ [(name, data)]) where
  dir := by
    rw [holdsDir, hsame loc (List.prefix_refl loc) (by simp)]
    exact h.dir
  nodup := by
    rw [List.map_append]
    refine List.nodup_append.mpr ⟨h.nodup, List.nodup_singleton _, fun n hn n' hn' heq => hnew ?_⟩
    obtain rfl : n' = name := List.mem_singleton.mp hn'
    exact heq ▸ hn
  file f hf := by
    rcases List.mem_append.mp hf with hf | hf
    · have hne : loc ++ [f.1] ≠ loc ++ [name] := fun heq => by
        have hname : f.1 = name := by simpa using List.append_cancel_left heq
        exact hnew (hname ▸ List.mem_map_of_mem hf)
      rw [hsame _ (List.prefix_append _ _) hne]
      exact h.file f hf
    · obtain rfl := List.mem_singleton.mp hf
      exact hfile
  only l hle hne hsome := by
    by_cases heq : l = loc ++ [name]
    · exact ⟨(name, data), by simp, heq⟩
    · rw [hsame l hle heq] at hsome
      obtain ⟨f, hf, rfl⟩ := h.only l hle hne hsome
      exact ⟨f, List.mem_append_left _ hf, rfl⟩

/-- A location right below a directory lies below it. -/
lemma eq_of_between (hle : loc <+: l) (hle' : l <+: loc ++ [name]) (hne : l ≠ loc ++ [name]) :
    l = loc :=
  ((List.prefix_concat_iff.mp hle').resolve_left hne).eq_of_length_le hle.length_le

/-- **A file that was written to a directory** is added to what it holds. -/
lemma HoldsExactly.writeAll {d d' : Depot} {uri : String} (h : d.tree.HoldsExactly loc files)
    (hnew : name ∉ files.map (·.1)) (hleads : d.assigns.Leads uri (loc ++ [name]))
    (hrun : (Job.writeAll uri data).run d = (.ok (), d')) :
    d'.tree.HoldsExactly loc (files ++ [(name, data)]) := by
  obtain ⟨time, hholds⟩ := Depot.holds_of_writeAll hrun
  obtain ⟨t, j, heq, hwrites⟩ := Job.exists_of_writeAll uri data d
  rw [hrun] at heq
  obtain rfl : d' = { d with tree := t, journal := j } := heq
  obtain ⟨path, hpath, hloc⟩ := hleads
  have hstat := Depot.stat?_eq_find? (d := { d with tree := t, journal := j }) hpath hloc
  rw [hstat] at hholds
  refine h.insert hnew ⟨time, hholds⟩ fun l hle hne => ?_
  cases hwrites l with
  | kept same => exact same
  | file leads free holds => exact absurd (leads.unique ⟨path, hpath, hloc⟩) hne
  | ancestor leads above ne missing holds =>
    -- only the directory itself is on the way, and that is there
    rw [leads.unique ⟨path, hpath, hloc⟩] at above
    obtain ⟨time, hdir⟩ := Tree.holdsDir_iff.mp h.dir
    rw [Tree.eq_of_between hle above hne, hdir] at missing
    cases missing

end Tree

/-! ## Calls on a calm depot -/

namespace Job

variable {d : Depot} {loc : Location} {uri name : String}

/-- Removing a directory is done if the world does not refuse it. -/
lemma deleteDirectory_allowed (hallowed : d.refuses .deleteDirectory uri = false)
    (hleads : d.assigns.Leads uri loc) : (deleteDirectory uri).run d =
      (.ok (), { d.record (.rmdir uri) with tree := d.tree.erase loc }) := by
  obtain ⟨path, hpath, hloc⟩ := hleads
  show deleteDirectory uri d = _
  simp only [deleteDirectory, hallowed, hpath, hloc, Bool.false_eq_true, if_false]
  rfl

/-- **Purging a directory** leaves nothing there and below. -/
lemma purgeDirectory_calm (hcalm : d.world.Calm) (hground : d.tree.Grounded)
    (hleads : d.assigns.Leads uri loc) (hfree : ¬ d.tree.holdsFile loc) (warning : String) :
    ∃ t j, (purgeDirectory uri warning).run d = (.ok (), { d with tree := t, journal := j }) ∧
      ∀ l, t.find? l = if loc <+: l ∧ l ≠ [] then none else d.tree.find? l := by
  obtain ⟨path, hpath, hloc⟩ := hleads
  have hstat := Depot.stat?_eq_find? (d := d) hpath hloc
  rw [purgeDirectory, run_bind_of_ok (run_look _ d)]
  by_cases hthere : d.directoryExists uri
  · have hgone : (deleteDirectory uri).run d =
        (.ok (), { d.record (.rmdir uri) with tree := d.tree.erase loc }) := by
      show deleteDirectory uri d = _
      simp only [deleteDirectory, Depot.refuses, hcalm _ _ _, hpath, hloc, Bool.false_eq_true, if_false]
      rfl
    rw [if_pos hthere, orWarn, run_bind_of_ok (run_attempt_eq_ok_iff.mpr hgone)]
    exact ⟨_, _, rfl, fun l => Tree.find?_erase⟩
  · rw [if_neg hthere]
    refine ⟨d.tree, d.journal, rfl, fun l => ?_⟩
    split_ifs with hle
    · -- what is not there has nothing below it
      have hmissing : d.tree.find? loc = none := by
        cases hfind : d.tree.find? loc with
        | none => rfl
        | some e =>
          cases e with
          | file data time => exact absurd (Tree.holdsFile_iff.mpr ⟨data, time, hfind⟩) hfree
          | dir time => simp [Depot.directoryExists, hstat, hfind, Entry.isDir] at hthere
      by_contra hsome
      have habove := hground loc l hle.1 (Option.isSome_iff_ne_none.mpr hsome)
      rw [hmissing] at habove
      cases habove
    · rfl

/-- **Purging a directory** that has no file on the way to it leaves nothing below it, and no file
on the way. -/
lemma purgeDirectory_clears (hcalm : d.world.Calm) (hground : d.tree.Grounded)
    (hleads : d.assigns.Leads uri loc) (hfree : ∀ l, l <+: loc → ¬ d.tree.holdsFile l)
    (warning : String) :
    ∃ t j, (purgeDirectory uri warning).run d = (.ok (), { d with tree := t, journal := j }) ∧
      (∀ l, l <+: loc → ¬ t.holdsFile l) ∧ ∀ l, loc <+: l → l ≠ loc → t.find? l = none := by
  obtain ⟨t, j, hpurge, hgone⟩ := purgeDirectory_calm hcalm hground hleads
    (hfree loc (List.prefix_refl loc)) warning
  refine ⟨t, j, hpurge, fun l hle hfile => ?_, fun l hle hne => ?_⟩
  · obtain ⟨data, time, hfile⟩ := Tree.holdsFile_iff.mp hfile
    rw [hgone] at hfile
    split_ifs at hfile
    exact hfree l hle (Tree.holdsFile_iff.mpr ⟨data, time, hfile⟩)
  · have hnil : l ≠ [] := by
      rintro rfl
      exact hne (List.prefix_nil.mp hle).symm
    rw [hgone, if_pos ⟨hle, hnil⟩]

/-- **Making a directory** makes it with everything above, if no file is in the way. -/
lemma createDirectory_calm (hcalm : d.world.Calm) (hleads : d.assigns.Leads uri loc)
    (hfree : ∀ l, l <+: loc → ¬ d.tree.holdsFile l) :
    ∃ t j, (createDirectory uri).run d = (.ok (), { d with tree := t, journal := j }) ∧
      (∀ l, l <+: loc → t.holdsDir l) ∧ ∀ l, ¬ l <+: loc → t.find? l = d.tree.find? l := by
  obtain ⟨path, hpath, hloc⟩ := hleads
  have hclear : d.tree.obstacle? loc = none := Tree.obstacle?_eq_none_iff.mpr hfree
  have hmade : (createDirectory uri).run d = (.ok (), { d.record (.mkdir uri) with
      tree := d.tree.makeDirs loc (d.record (.mkdir uri)).now }) := by
    show createDirectory uri d = _
    simp [createDirectory, Depot.refuses, hcalm _ _ _, hpath, Depot.makeDirs, hloc, Depot.record, hclear]
  refine ⟨_, _, hmade, fun l hle => ?_, fun l hle => ?_⟩
  · rcases Tree.find?_makeDirs d.tree loc (d.record (.mkdir uri)).now l with hsame | ⟨hdir, -⟩
    · have hsome := Tree.isSome_find?_makeDirs d.tree (d.record (.mkdir uri)).now hle
      rw [hsame] at hsome
      obtain ⟨e, he⟩ := Option.isSome_iff_exists.mp hsome
      cases e with
      | file data time => exact absurd (Tree.holdsFile_iff.mpr ⟨data, time, he⟩) (hfree l hle)
      | dir time => exact Tree.holdsDir_iff.mpr ⟨time, hsame.trans he⟩
    · exact Tree.holdsDir_iff.mpr ⟨_, hdir⟩
  · exact (Tree.find?_makeDirs d.tree loc (d.record (.mkdir uri)).now l).resolve_right
      fun h => hle h.2.1

/-- **Making a directory** where nothing is below leaves it empty. -/
lemma createDirectory_empty (hcalm : d.world.Calm) (hleads : d.assigns.Leads uri loc)
    (hfree : ∀ l, l <+: loc → ¬ d.tree.holdsFile l)
    (hgone : ∀ l, loc <+: l → l ≠ loc → d.tree.find? l = none) :
    ∃ t j, (createDirectory uri).run d = (.ok (), { d with tree := t, journal := j }) ∧
      (∀ l, l <+: loc → t.holdsDir l) ∧ t.HoldsExactly loc [] := by
  obtain ⟨t, j, hrun, hdirs, hsame⟩ := createDirectory_calm hcalm hleads hfree
  refine ⟨t, j, hrun, hdirs, hdirs loc (List.prefix_refl loc), List.nodup_nil, by simp, ?_⟩
  intro l hle hne hsome
  have hbelow : ¬ l <+: loc := fun h => hne (h.eq_of_length_le hle.length_le)
  rw [hsame l hbelow, hgone l hle hne] at hsome
  cases hsome

/-- **Writing a file** to a directory that is there succeeds, if no directory has the name. -/
lemma writeAll_calm (hcalm : d.world.Calm) (hleads : d.assigns.Leads uri (loc ++ [name]))
    (hdirs : ∀ l, l <+: loc → d.tree.holdsDir l) (hfree : ¬ d.tree.holdsDir (loc ++ [name]))
    (data : Bytes) : ∃ d', (writeAll uri data).run d = (.ok (), d') := by
  refine exists_writeAll (fun op => hcalm _ _ _) hleads (by simp) ?_ hfree data
  rw [List.dropLast_concat]
  refine Tree.obstacle?_eq_none_iff.mpr fun l hle hfile => ?_
  obtain ⟨time, hdir⟩ := Tree.holdsDir_iff.mp (hdirs l hle)
  obtain ⟨bytes, time', hfile⟩ := Tree.holdsFile_iff.mp hfile
  cases hdir.symm.trans hfile

/-- **A file that was written** has no file on the way to it. -/
lemma clear_of_writeAll {data : Bytes} {d' : Depot} (h : (writeAll uri data).run d = (.ok (), d')) :
    ∃ l, d.assigns.Leads uri l ∧ ∀ l', l' <+: l.dropLast → ¬ d.tree.holdsFile l' := by
  cases writing_of_writeAll h with
  | @written path made opened loc r hpath hmade hopen hresult =>
    obtain ⟨hloc, -, -⟩ := truncate_cases hopen
    refine ⟨loc, ⟨path, hpath, hloc⟩, Tree.obstacle?_eq_none_iff.mp ?_⟩
    cases hobstacle : d.tree.obstacle? loc.dropLast with
    | none => rfl
    | some file => simp [Depot.makeDirs, Depot.locate_dir hloc, Depot.record, hobstacle] at hmade

/-- **A file with a new name** can be written to a directory that holds exactly some files, and is
added to them. -/
lemma writeAll_into {files : List (String × Bytes)} (hcalm : d.world.Calm)
    (hleads : d.assigns.Leads uri (loc ++ [name])) (hdirs : ∀ l, l <+: loc → d.tree.holdsDir l)
    (h : d.tree.HoldsExactly loc files) (hnew : name ∉ files.map (·.1)) (data : Bytes) :
    ∃ t j, (writeAll uri data).run d = (.ok (), { d with tree := t, journal := j }) ∧
      (∀ l, l <+: loc → t.holdsDir l) ∧ t.HoldsExactly loc (files ++ [(name, data)]) := by
  have hfree : ¬ d.tree.holdsDir (loc ++ [name]) := by
    intro hdir
    obtain ⟨time, hdir⟩ := Tree.holdsDir_iff.mp hdir
    obtain ⟨f, hf, heq⟩ := h.only (loc ++ [name]) (List.prefix_append _ _) (by simp) (by rw [hdir]; rfl)
    obtain rfl : name = f.1 := by simpa using List.append_cancel_left heq
    exact hnew (List.mem_map_of_mem hf)
  obtain ⟨d', hrun⟩ := writeAll_calm hcalm hleads hdirs hfree data
  have hholds := h.writeAll hnew hleads hrun
  obtain ⟨t, j, heq, hwrites⟩ := exists_of_writeAll uri data d
  rw [hrun] at heq
  obtain rfl : d' = { d with tree := t, journal := j } := heq
  refine ⟨t, j, hrun, fun l hle => ?_, hholds⟩
  obtain ⟨time, hdir⟩ := Tree.holdsDir_iff.mp (hdirs l hle)
  cases hwrites l with
  | kept same => exact Tree.holdsDir_iff.mpr ⟨time, same.trans hdir⟩
  | file leads free holds => exact absurd hdir (free time)
  | ancestor leads above ne missing holds => cases hdir.symm.trans missing

end Job

/-- **A directory that was renewed** is there, with everything above it, and holds nothing. -/
lemma Surface.renewDirectory_calm {d : Depot} {loc : Location} {dir : String} (hcalm : d.world.Calm)
    (hground : d.tree.Grounded) (hleads : d.assigns.Leads dir loc)
    (hfree : ∀ l, l <+: loc → ¬ d.tree.holdsFile l) :
    ∃ t j, (renewDirectory dir).run d = (.ok (), { d with tree := t, journal := j }) ∧
      (∀ l, l <+: loc → t.holdsDir l) ∧ t.HoldsExactly loc [] := by
  obtain ⟨t, j, hpurge, hfree', hgone⟩ := Job.purgeDirectory_clears hcalm hground hleads hfree
    "cannot purge surface directory"
  obtain ⟨u, k, hmake, hdirs, hempty⟩ := Job.createDirectory_empty
    (d := { d with tree := t, journal := j }) hcalm hleads hfree' hgone
  refine ⟨u, k, ?_, hdirs, hempty⟩
  rw [renewDirectory, Job.run_bind_of_ok hpurge, Job.orWarn,
    Job.run_bind_of_ok (Job.run_attempt_eq_ok_iff.mpr hmake)]
  rfl

/-- **Files in a directory of an asset** lie where the directory is. -/
lemma AssetId.leads_child {id : AssetId} {a : Assigns} {area : Area} {ending name : String}
    {loc : Location} (h : a.Leads (id.located area ending) loc) (hname : Path.Ordinary name.toList) :
    a.Leads (id.located area ending ++ "/" ++ name) (loc ++ [name]) := by
  have htext : id.located area ending = area.tag ++ ":" ++ (id.category ++ "/" ++ id.name ++ ending) := by
    simp only [located, String.append_assoc]
  rw [htext] at h ⊢
  exact h.child area.isTag hname

end SceneForge
