import Mathlib.Data.List.Nodup
import SceneForge.Export.Batch
import SceneForge.Proofs.Depot.Confinement
import SceneForge.Proofs.Depot.Outcome

set_option autoImplicit false

/-!
# What listings show

Listing a directory shows the entries directly below it, and a listing of files shows those that
match a pattern. The sources of a category are put together from one listing for each pattern;
however the patterns overlap, every file that one of them matches is there once, and names increase.

## Main definitions

* `SceneForge.Tree.Sound` — trees in which each location is listed once, by names.
* `SceneForge.Pattern.Matches` — a name is one that a pattern stands for.
* `SceneForge.Depot.IsSource` — the names of source documents of a category.

## Main results

* `SceneForge.Tree.mem_children` — the entries of a directory.
* `SceneForge.Job.mem_of_listFiles` — the files of a directory that match a pattern.
* `SceneForge.Batch.exists_names_of_sources` — the sources of a category.
-/

namespace SceneForge

/-! ## Entries of a directory -/

namespace Tree

variable {t : Tree} {loc l : Location} {n : String} {e : Entry}

/-- Each location is listed once, and its elements are names. -/
structure Sound (t : Tree) : Prop where
  /-- No location is listed twice. -/
  nodup : (t.entries.map (·.1)).Nodup
  /-- Elements of locations are not empty and have no slash. -/
  names : ∀ x ∈ t.entries, ∀ n ∈ x.1, n.toList ≠ [] ∧ '/' ∉ n.toList

/-- A tree holds what is listed. -/
lemma Sound.find?_eq_some_iff (h : t.Sound) (hl : l ≠ []) :
    t.find? l = some e ↔ (l, e) ∈ t.entries := by
  rw [find?_of_ne hl, Option.map_eq_some_iff]
  constructor
  · rintro ⟨⟨l', e'⟩, hfind, rfl⟩
    obtain rfl : l' = l := by simpa using List.find?_some hfind
    exact List.mem_of_find?_eq_some hfind
  · intro hmem
    obtain ⟨x, hx⟩ : ∃ x, t.entries.find? (fun x => x.1 = l) = some x :=
      Option.isSome_iff_exists.mp (List.find?_isSome.mpr ⟨_, hmem, by simp⟩)
    have hkey : x.1 = l := by simpa using List.find?_some hx
    have hsame : x = (l, e) := List.inj_on_of_nodup_map h.nodup (List.mem_of_find?_eq_some hx)
      hmem hkey
    exact ⟨x, hx, by rw [hsame]⟩

/-- **The entries of a directory** are what is held directly below it. -/
lemma mem_children (h : t.Sound) : (n, e) ∈ t.children loc ↔ t.find? (loc ++ [n]) = some e := by
  rw [h.find?_eq_some_iff (by simp), children, byName, List.mem_mergeSort, List.mem_filterMap]
  constructor
  · rintro ⟨⟨l, e'⟩, hmem, hentry⟩
    split_ifs at hentry with hle
    obtain ⟨rest, rfl⟩ := List.isPrefixOf_iff_prefix.mp hle
    rw [List.drop_left] at hentry
    split at hentry
    · cases hentry
      exact hmem
    · cases hentry
  · intro hmem
    exact ⟨_, hmem, by simp⟩

end Tree

/-! ## Listings -/

/-- A name is one that a pattern stands for. -/
def Pattern.Matches (pattern name : String) : Prop :=
  ∃ chunks, Pattern.parse pattern = some chunks ∧ Pattern.matchesName chunks name = true

/-- Whether a name is one that a pattern stands for can be found out. -/
instance Pattern.decidableMatches (pattern name : String) : Decidable (Pattern.Matches pattern name) :=
  decidable_of_iff ((Pattern.parse pattern).any (Pattern.matchesName · name) = true) <| by
    cases h : Pattern.parse pattern <;> simp [Matches, h]

/-- The first star takes nothing, so the second one would have to take part of a character. -/
example : ¬ Pattern.Matches "*?*?.gltf" "€.gltf" := by decide +kernel

namespace Job

section Still

variable {α β : Type} {job : Job α}

/-- An action that leaves every depot as it is. -/
def Still (job : Job α) : Prop := ∀ d, (job.run d).2 = d

/-- Looking leaves a depot as it is. -/
lemma look_still (f : Depot → α) : Still (look f) := fun _ => rfl

/-- A given result leaves a depot as it is. -/
lemma ofExcept_still (r : Except Failure α) : Still (ofExcept r) := fun _ => rfl

/-- A value leaves a depot as it is. -/
lemma pure_still (a : α) : Still (pure a : Job α) := fun _ => rfl

/-- A context does not matter. -/
lemma Still.within (h : Still job) (context : String) : Still (job.within context) := fun d => h d

/-- One action after the other. -/
lemma Still.bind {f : α → Job β} (h : Still job) (hf : ∀ a, Still (f a)) : Still (job >>= f) := by
  intro d
  have hd := h d
  rw [run_bind]
  generalize job.run d = r at hd ⊢
  obtain ⟨e | a, d'⟩ := r
  · exact hd
  · exact (hf a d').trans hd

/-- One action for every entry of a list. -/
lemma Still.mapM {f : α → Job β} (hf : ∀ a, Still (f a)) (as : List α) : Still (as.mapM f) := by
  induction as with
  | nil => exact pure_still _
  | cons a as ih =>
    rw [List.mapM_cons]
    exact (hf a).bind fun b => ih.bind fun bs => pure_still _

/-- An action that gave a value has left the depot as it was. -/
lemma Still.eq_of_run {d d' : Depot} {r : Except Failure α} (h : Still job)
    (hrun : job.run d = (r, d')) : d' = d := by
  have hd := h d
  rw [hrun] at hd
  exact hd

/-- Actions that change nothing give their values one after the other. -/
lemma forall₂_of_mapM_run {f : α → Job β} (hf : ∀ a, Still (f a)) {d d' : Depot} {as : List α}
    {bs : List β} (h : (as.mapM f).run d = (.ok bs, d')) :
    List.Forall₂ (fun a b => (f a).run d = (.ok b, d)) as bs := by
  induction as generalizing bs with
  | nil =>
    cases h
    exact .nil
  | cons a as ih =>
    rw [List.mapM_cons] at h
    obtain ⟨b, d₁, hb, h⟩ := exists_of_bind_run h
    obtain ⟨bs', d₂, hbs, h⟩ := exists_of_bind_run h
    cases h
    obtain rfl := (hf a).eq_of_run hb
    exact .cons hb (ih hbs)

end Still

variable {d d' : Depot} {dir pattern : String}

/-- Reading a directory changes nothing. -/
lemma readDir_still (dir : String) : Still (readDir dir) := by
  intro d
  show (readDir dir d).2 = d
  unfold readDir
  cases d.assigns.resolve dir <;> rfl

/-- A directory that was read is there, and its entries are shown. -/
lemma exists_of_readDir {entries : List (String × Entry)}
    (h : (readDir dir).run d = (.ok entries, d')) :
    d' = d ∧ ∃ loc, d.assigns.Leads dir loc ∧ entries = d.tree.children loc := by
  refine ⟨(readDir_still dir).eq_of_run h, ?_⟩
  replace h : readDir dir d = (.ok entries, d') := h
  unfold readDir at h
  cases hpath : d.assigns.resolve dir with
  | error f =>
    rw [hpath] at h
    cases h
  | ok path =>
    simp only [hpath, Depot.list] at h
    cases hloc : Depot.locate path with
    | none =>
      rw [hloc] at h
      cases h
    | some loc =>
      refine ⟨loc, ⟨path, hpath, hloc⟩, ?_⟩
      cases hentry : d.tree.find? loc with
      | none =>
        simp only [hloc, hentry] at h
        cases h
      | some entry =>
        cases entry with
        | file data time =>
          simp only [hloc, hentry] at h
          cases h
        | dir time =>
          simp only [hloc, hentry] at h
          cases h
          rfl

/-- Listing files changes nothing. -/
lemma listFiles_still (dir pattern : String) : Still (listFiles dir pattern) := by
  refine (look_still _).bind fun refused => ?_
  cases refused with
  | true => exact fun d => rfl
  | false =>
    refine (readDir_still dir).bind fun entries => ?_
    cases Pattern.parse pattern with
    | some chunks => exact pure_still _
    | none =>
      simp only
      split_ifs
      · exact pure_still _
      · exact ofExcept_still _

/-- Listing directories changes nothing. -/
lemma listDirectories_still (dir : String) : Still (listDirectories dir) := by
  refine (look_still _).bind fun refused => ?_
  cases refused with
  | true => exact fun d => rfl
  | false => exact (readDir_still dir).bind fun _ => pure_still _

/-- A directory that is there is listed, unless the world refuses. -/
lemma listFiles_run {loc : Location} {time : Int} (hrefused : d.refuses .listFiles dir = false)
    (hloc : d.assigns.Leads dir loc) (hdir : d.tree.find? loc = some (.dir time))
    (hparse : (Pattern.parse pattern).isSome) :
    (listFiles dir pattern).run d = (.ok ((((d.tree.children loc).filter fun e => !e.2.isDir).map
      (·.1)).filter fun n => decide (Pattern.Matches pattern n)), d) := by
  obtain ⟨path, hpath, hlocate⟩ := hloc
  obtain ⟨chunks, hparse⟩ := Option.isSome_iff_exists.mp hparse
  have hread : (readDir dir).run d = (.ok (d.tree.children loc), d) := by
    show readDir dir d = _
    simp only [readDir, hpath, Depot.list, hlocate, hdir]
    rfl
  rw [listFiles, run_bind_of_ok (run_look _ d), hrefused]
  simp only [Bool.false_eq_true, if_false]
  have hmatches : (fun n => decide (Pattern.Matches pattern n)) = Pattern.matchesName chunks := by
    funext n
    simp [Pattern.Matches, hparse]
  rw [run_bind_of_ok hread, hparse, hmatches]
  rfl

/-- **The files of a directory that match a pattern** are what a listing shows.

**Proof sketch.** The entries of the directory are what is directly below it, and the files among
them are kept. With a pattern that can be read those are kept that match it. A malformed pattern is
only accepted where there are no files, and there both sides are empty. -/
lemma mem_of_listFiles {names : List String} (htree : d.tree.Sound)
    (h : (listFiles dir pattern).run d = (.ok names, d')) :
    ∃ loc, d.assigns.Leads dir loc ∧ ∀ n, n ∈ names ↔
      (∃ data time, d.tree.find? (loc ++ [n]) = some (.file data time)) ∧
        Pattern.Matches pattern n := by
  unfold listFiles at h
  rw [run_bind_of_ok (run_look _ d)] at h
  split_ifs at h
  · cases h
  obtain ⟨entries, d₁, hread, h⟩ := exists_of_bind_run h
  obtain ⟨rfl, loc, hleads, rfl⟩ := exists_of_readDir hread
  refine ⟨loc, hleads, ?_⟩
  have hfile : ∀ n, n ∈ ((d₁.tree.children loc).filter fun e => !e.2.isDir).map (·.1) ↔
      ∃ data time, d₁.tree.find? (loc ++ [n]) = some (.file data time) := by
    intro n
    simp only [List.mem_map, List.mem_filter, Bool.not_eq_true']
    constructor
    · rintro ⟨⟨n, e⟩, ⟨hmem, hentry⟩, rfl⟩
      rw [Tree.mem_children htree] at hmem
      cases e with
      | file data time => exact ⟨data, time, hmem⟩
      | dir time => cases hentry
    · rintro ⟨data, time, hentry⟩
      exact ⟨(n, .file data time), ⟨(Tree.mem_children htree).mpr hentry, rfl⟩, rfl⟩
  cases hparse : Pattern.parse pattern with
  | some chunks =>
    rw [hparse] at h
    cases h
    intro n
    rw [List.mem_filter, hfile]
    simp [Pattern.Matches, hparse]
  | none =>
    simp only [hparse] at h
    split_ifs at h with hempty
    · cases h
      -- a malformed pattern is only accepted where there are no files
      intro n
      rw [List.isEmpty_iff] at hempty
      have hnone := hfile n
      rw [hempty] at hnone
      simp only [List.map_nil, List.not_mem_nil, false_iff] at hnone
      simp [hnone]
    · cases h

end Job

/-! ## Sources of a category -/

/-- A name in the directory of a category is that of a source: a file is there, and one of the
patterns stands for it. -/
def Depot.IsSource (d : Depot) (patterns : List String) (loc : Location) (n : String) : Prop :=
  (∃ data time, d.tree.find? (loc ++ [n]) = some (.file data time)) ∧
    ∃ p ∈ patterns, Pattern.Matches p n

/-- Without repetitions, no name is there twice. -/
lemma nodup_eraseDups (names : List String) : names.eraseDups.Nodup := by
  induction hlen : names.length using Nat.strong_induction_on generalizing names with
  | _ n ih =>
    cases names with
    | nil => simp
    | cons a names =>
      rw [List.eraseDups_cons, List.nodup_cons]
      refine ⟨fun hmem => ?_, ih _ ?_ _ rfl⟩
      · simp [List.mem_eraseDups] at hmem
      · have hle := List.length_filter_le (fun b => !b == a) names
        rw [List.length_cons] at hlen
        omega

/-- Names that are sorted and differ from each other increase. -/
lemma pairwise_lt_sorted (names : List String) :
    (names.eraseDups.mergeSort fun a b => !(b < a)).Pairwise (· < ·) := by
  have hle : ∀ a b : String, (!decide (b < a)) = true ↔ a ≤ b := fun a b => by
    rw [Bool.not_eq_true', decide_eq_false_iff_not, String.not_lt]
  have hsorted : (names.eraseDups.mergeSort fun a b => !(b < a)).Pairwise
      fun a b => (!decide (b < a)) = true := by
    refine List.pairwise_mergeSort (fun a b c hab hbc => ?_) (fun a b => ?_) _
    · exact (hle a c).mpr (String.le_trans ((hle a b).mp hab) ((hle b c).mp hbc))
    · rw [Bool.or_eq_true, hle, hle]
      exact String.le_total a b
  have hnodup : (names.eraseDups.mergeSort fun a b => !(b < a)).Nodup :=
    (List.mergeSort_perm _ _).nodup_iff.mpr (nodup_eraseDups names)
  refine (hsorted.and hnodup).imp fun {a b} hab => ?_
  rw [← String.not_le]
  exact fun hba => hab.2 (String.le_antisymm ((hle a b).mp hab.1) hba)

namespace Batch

variable {b : Batch} {category : String} {d d' : Depot}

/-- There is always a pattern. -/
lemma effectivePatterns_ne_nil (b : Batch) : b.effectivePatterns ≠ [] := by
  unfold effectivePatterns
  split_ifs with h
  · simp [usualPatterns]
  · simpa using h

/-- Looking for sources changes nothing. -/
lemma sources_still (b : Batch) (category : String) : Job.Still (b.sources category) :=
  (Job.Still.mapM (fun p => (Job.listFiles_still _ p).within _) _).bind fun _ => Job.pure_still _

/-- Listings of one directory, one for each pattern, show the sources there. -/
lemma mem_flatten_of_listings {context dir : String} {patterns : List String}
    {lists : List (List String)} {loc : Location} (htree : d.tree.Sound)
    (hloc : d.assigns.Leads dir loc)
    (h : List.Forall₂ (fun p ns => (Job.within context (Job.listFiles dir p)).run d = (.ok ns, d))
      patterns lists) (n : String) : n ∈ lists.flatten ↔ d.IsSource patterns loc n := by
  induction h with
  | nil => simp [Depot.IsSource]
  | cons hfirst _ ih =>
    obtain ⟨loc', hleads, hnames⟩ := Job.mem_of_listFiles htree (Job.run_within_eq_ok_iff.mp hfirst)
    obtain rfl := hleads.unique hloc
    rw [List.flatten_cons, List.mem_append, hnames, ih]
    simp only [Depot.IsSource, List.exists_mem_cons_iff]
    exact and_or_left.symm

/-- **The sources of a category** have increasing names, and these are the names of all files there
that one of the patterns stands for. -/
lemma exists_names_of_sources {paths : List String} (htree : d.tree.Sound)
    (h : (b.sources category).run d = (.ok paths, d')) :
    d' = d ∧ ∃ (loc : Location) (names : List String),
      d.assigns.Leads ("src:" ++ category) loc ∧
      paths = names.map (fun n => "src:" ++ category ++ "/" ++ n) ∧
      names.Pairwise (· < ·) ∧ ∀ n, n ∈ names ↔ d.IsSource b.effectivePatterns loc n := by
  refine ⟨(sources_still b category).eq_of_run h, ?_⟩
  unfold sources at h
  obtain ⟨found, d₁, hfound, h⟩ := Job.exists_of_bind_run h
  cases h
  have hlists := Job.forall₂_of_mapM_run (fun p => (Job.listFiles_still _ p).within _) hfound
  -- every listing is one of the same directory
  obtain ⟨p₀, ps, hps⟩ := List.exists_cons_of_ne_nil b.effectivePatterns_ne_nil
  obtain ⟨loc, hloc⟩ : ∃ loc, d.assigns.Leads ("src:" ++ category) loc := by
    rw [hps] at hlists
    cases hlists with
    | cons hfirst _ =>
      obtain ⟨loc, hleads, -⟩ := Job.mem_of_listFiles htree (Job.run_within_eq_ok_iff.mp hfirst)
      exact ⟨loc, hleads⟩
  have hmem : ∀ n, n ∈ found.flatten ↔ d.IsSource b.effectivePatterns loc n :=
    mem_flatten_of_listings htree hloc hlists
  have hname : ∀ n ∈ found.flatten, Path.base n = n := by
    intro n hn
    obtain ⟨data, time, hfile⟩ := ((hmem n).mp hn).1
    obtain ⟨hne, hslash⟩ := htree.names _ ((htree.find?_eq_some_iff (by simp)).mp hfile) n (by simp)
    rw [Path.base, Path.baseChars_of_noSlash hne hslash, String.ofList_toList]
  refine ⟨loc, found.flatten.eraseDups.mergeSort fun a b => !(b < a), hloc, ?_,
    pairwise_lt_sorted _, fun n => ?_⟩
  · refine List.map_congr_left fun n hn => ?_
    rw [List.mem_mergeSort, List.mem_eraseDups] at hn
    rw [hname n hn]
    rfl
  · rw [List.mem_mergeSort, List.mem_eraseDups, hmem]

end Batch

end SceneForge
