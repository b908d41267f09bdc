import SceneForge.Gltf.Location
import SceneForge.Proofs.Depot.Anchors

set_option autoImplicit false

/-!
# Where sources lie

The source of an asset and everything that is read with it are spelled by the category of the asset
and names behind it. Below a project root they lie in the directory of sources; only a source that
is named like the parent directory can be the directory above it. So what an export reads is out of
reach of what exports write.

## Main definitions

* `SceneForge.Assigns.Source` — locations of sources.
* `SceneForge.Gltf.Referable` — the names that a reference of a document can stand for.

## Main results

* `SceneForge.Assigns.source_of_leads` — texts that go up only at their end lead to sources.
* `SceneForge.Gltf.noBackslash_fileFor` — references of documents.
* `SceneForge.AssetId.source_located`, `SceneForge.AssetId.source_beside` — what an export reads.
-/

namespace SceneForge

/-! ## References of documents -/

namespace Gltf


/-- An encoded byte has no backslash. -/
lemma noBackslash_escapeBytes (bs : Bytes) : '\\' ∉ escapeBytes bs := by
  have hbyte : ∀ n < 256, '\\' ∉ (if isPlain (UInt8.ofNat n) then [Char.ofNat (UInt8.ofNat n).toNat]
      else '%' :: codeDigits (UInt8.ofNat n)) := by decide +kernel
  intro hmem
  obtain ⟨b, -, hb⟩ := List.mem_flatMap.mp hmem
  have h := hbyte b.toNat b.toNat_lt
  rw [UInt8.ofNat_toNat] at h
  exact h hb

/-- Leaving out steps that lead nowhere leaves no new characters. -/
lemma dropDots_subset (cs : List Char) : dropDots cs ⊆ cs := by
  fun_induction dropDots cs with
  | case1 rest ih =>
    intro c hc
    rcases List.mem_cons.mp hc with rfl | hc
    · exact List.mem_cons_self
    · exact List.mem_cons_of_mem _ (List.mem_cons_of_mem _ (List.mem_cons_of_mem _ (ih hc)))
  | case2 c rest _ ih => exact List.cons_subset_cons c ih
  | case3 => exact List.Subset.refl _

/-- A reference is tidied without backslashes. -/
lemma noBackslash_tidy (uri : String) : '\\' ∉ tidy uri := by
  have hslashed : '\\' ∉ dropDots (Path.slashed uri.toList) := fun hmem =>
    Path.noBackslash_slashed _ (dropDots_subset _ hmem)
  unfold tidy
  split
  · rename_i rest heq
    rw [heq] at hslashed
    exact fun hmem => hslashed (List.mem_cons_of_mem _ (List.mem_cons_of_mem _ hmem))
  · exact hslashed

/-- The encoded spelling of a path has no backslash if the path has none. -/
lemma noBackslash_encodedPath {cs encoded : List Char} (h : encodedPath? cs = some encoded)
    (hcs : '\\' ∉ cs) : '\\' ∉ encoded := by
  unfold encodedPath? at h
  obtain ⟨plain, -, h⟩ := Option.bind_eq_some_iff.mp h
  cases h
  split_ifs
  · exact hcs
  · exact noBackslash_escapeBytes plain

/-- Cutting a text leaves no new characters. -/
lemma cutAt_subset (c : Char) (cs : List Char) :
    (cutAt c cs).1 ⊆ cs ∧ (cutAt c cs).2.getD [] ⊆ cs := by
  refine ⟨List.takeWhile_subset _, ?_⟩
  unfold cutAt
  have hsub : cs.dropWhile (· != c) ⊆ cs := (List.dropWhile_suffix _).subset
  generalize cs.dropWhile (· != c) = tail at hsub ⊢
  cases tail with
  | nil => exact List.nil_subset _
  | cons x rest => exact fun y hy => hsub (List.mem_cons_of_mem x hy)

/-- Leaving out a host leaves no new characters. -/
lemma withoutHost_subset (cs : List Char) : withoutHost cs ⊆ cs := by
  unfold withoutHost
  split
  · exact List.Subset.refl _
  · exact fun c hc => List.mem_cons_of_mem _ (List.mem_cons_of_mem _
      ((List.dropWhile_suffix _).subset hc))
  · exact List.Subset.refl _

/-- **The file that a reference stands for** has no backslash in its name. -/
lemma noBackslash_fileFor {uri name : String} (h : fileFor? uri = some name) :
    '\\' ∉ name.toList := by
  have htidy := noBackslash_tidy uri
  have hcut := (cutAt_subset '#' (tidy uri)).1
  unfold fileFor? at h
  generalize cutAt '#' (tidy uri) = cut at h hcut
  obtain ⟨cs, fragment⟩ := cut
  have hcs : '\\' ∉ cs := fun hmem => htidy (hcut hmem)
  obtain ⟨hpath, hquery⟩ := cutAt_subset '?' cs
  simp only at h
  split at h
  · cases h
  generalize cutAt '?' cs = cut at h hpath hquery
  obtain ⟨path, query⟩ := cut
  simp only at h
  split at h
  · cases h
  obtain ⟨encoded, hencoded, h⟩ := Option.bind_eq_some_iff.mp h
  obtain ⟨-, -, h⟩ := Option.bind_eq_some_iff.mp h
  cases h
  have hfile := noBackslash_encodedPath hencoded fun hmem => hcs (hpath (withoutHost_subset _ hmem))
  rw [String.toList_ofList, List.mem_append, not_or]
  constructor
  · split
    · rename_i rest
      exact fun hmem => hfile (List.mem_cons_of_mem _ hmem)
    · exact hfile
  · cases query with
    | none => simp
    | some query =>
      have hmem : '\\' ∉ query := fun hmem => hcs (hquery hmem)
      simpa using hmem

/-- The names that a reference of a document to a file can stand for. -/
def Referable (name : String) : Prop := isFileName name = true ∧ '\\' ∉ name.toList

/-- Such a name does not go up. -/
lemma Referable.dotDot_notMem {name : String} (h : Referable name) :
    Path.dotDot ∉ Path.split name.toList := by
  have hname := h.1
  rw [isFileName, Bool.or_eq_true, List.all_eq_true] at hname
  rcases hname with hdot | hparts
  · rw [eq_of_beq hdot]
    decide
  · intro hmem
    simpa using hparts _ hmem

end Gltf

/-! ## Texts behind the tag of an area -/

namespace Path

/-- Elements that do not go up leave a stack as it is and put something on it. -/
lemma suffix_foldl_push {rooted : Bool} {ps stack : List Part} (h : dotDot ∉ ps) :
    stack <:+ ps.foldl (push rooted) stack := by
  induction ps generalizing stack with
  | nil => exact List.suffix_refl stack
  | cons p ps ih =>
    rw [List.mem_cons, not_or] at h
    obtain ⟨hp, hps⟩ := h
    refine List.IsSuffix.trans ?_ (ih hps)
    unfold push
    rw [if_neg (Ne.symm hp)]
    split_ifs
    · exact List.suffix_refl stack
    · exact List.suffix_cons p stack

/-- **Elements that go up at most at their end** stay below a directory, or lead to the one above.
-/
lemma prefix_or_eq_of_push (ds : List Part) (q p : Part) {ps : List Part} (hps : dotDot ∉ ps) :
    ds ++ [q] <+: ((ps ++ [p]).foldl (push false) (ds ++ [q]).reverse).reverse ∨
      ((ps ++ [p]).foldl (push false) (ds ++ [q]).reverse).reverse = ds := by
  rw [List.foldl_append, List.foldl_cons, List.foldl_nil]
  have hsuffix : (ds ++ [q]).reverse <:+ ps.foldl (push false) (ds ++ [q]).reverse :=
    suffix_foldl_push hps
  generalize ps.foldl (push false) (ds ++ [q]).reverse = stack at hsuffix
  have hkeep : ∀ stack', stack <:+ stack' → ds ++ [q] <+: stack'.reverse := fun stack' h =>
    List.reverse_suffix.mp (by simpa using hsuffix.trans h)
  rw [List.reverse_append, List.reverse_singleton, List.singleton_append] at hsuffix
  by_cases hp : p = dotDot
  · subst hp
    cases stack with
    | nil => exact absurd (List.suffix_nil.mp hsuffix) (by simp)
    | cons top rest =>
      have hup : push false (top :: rest) dotDot =
          if top = dotDot then dotDot :: top :: rest else rest := rfl
      rw [hup]
      split_ifs with htop
      · exact Or.inl (hkeep _ (List.suffix_cons _ _))
      · rcases List.suffix_cons_iff.mp hsuffix with heq | hrest
        · right
          rw [← (List.cons.inj heq).2, List.reverse_reverse]
        · left
          exact List.reverse_suffix.mp (by simpa using hrest)
  · have hlast : dotDot ∉ [p] := by simpa using Ne.symm hp
    exact Or.inl (hkeep ([p].foldl (push false) stack) (suffix_foldl_push hlast))

/-- A name in front of a text joins its first element. -/
lemma split_append_of_noSlash {c : Part} (hc : '/' ∉ c) (cs : List Char) :
    ∃ p ps, split cs = p :: ps ∧ split (c ++ cs) = (c ++ p) :: ps := by
  induction c with
  | nil =>
    obtain ⟨p, ps, h⟩ := List.exists_cons_of_ne_nil (split_ne_nil cs)
    exact ⟨p, ps, h, h⟩
  | cons a c ih =>
    rw [List.mem_cons, not_or] at hc
    obtain ⟨ha, hc⟩ := hc
    obtain ⟨p, ps, h, h'⟩ := ih hc
    refine ⟨p, ps, h, ?_⟩
    rw [List.cons_append, split, if_neg (Ne.symm ha), h']
    rfl

/-- The path of some text behind a tidy directory. -/
lemma norm_joinAll_behind {ds : List Part} (hds : Tidy ds) (hback : ∀ p ∈ ds, '\\' ∉ p)
    (hne : ds ≠ []) {v : List Char} (hv : '\\' ∉ v) :
    norm (joinAll [String.ofList (join ds), String.ofList v]) =
      String.ofList (text ((split v).foldl (push false) ds.reverse).reverse) := by
  have hparts : cleanParts (join ds ++ '/' :: v) =
      ((split v).foldl (push false) ds.reverse).reverse := by
    rw [cleanParts, hds.isRooted_join _ hne, split_append_slash,
      split_join (fun q hq => (hds.of_mem hq).2.2) hne, List.foldl_append, hds.foldl_push]
  by_cases hnil : v = []
  · subst hnil
    have hstack : ((split []).foldl (push false) ds.reverse).reverse = ds := by
      simp [split, push]
    rw [norm_joinAll_nil hds hback hne, hstack, text_of_ne_nil hne]
  · have hdir : join ds ≠ [] := join_ne_nil (fun p hp => (hds.of_mem hp).1) hne
    have hclean : joinAll [String.ofList (join ds), String.ofList v] =
        String.ofList (text (cleanParts (join ds ++ '/' :: v))) := by
      simp [joinAll, hdir, hnil, join, cleanChars_of_not_rooted (hds.isRooted_join _ hne)]
    have htidy := tidy_cleanParts (join ds ++ '/' :: v)
    have hback' : ∀ p ∈ cleanParts (join ds ++ '/' :: v), '\\' ∉ p := by
      intro p hp hmem
      have hmem' := subset_of_mem_split (mem_split_of_mem_cleanParts hp) hmem
      simp [hv, noBackslash_join hback] at hmem'
    rw [hclean, ← hparts, norm, String.toList_ofList]
    by_cases hparts : cleanParts (join ds ++ '/' :: v) = []
    · rw [hparts]
      decide
    · rw [text_of_ne_nil hparts, normChars_join htidy hback' hparts]

/-- A missing or ordinary element does not become the parent directory by what follows. -/
lemma ne_dotDot_append {c p : Part} (hc : c = [] ∨ Ordinary c) (hp : p ≠ dotDot) :
    c ++ p ≠ dotDot := by
  rcases hc with rfl | hc
  · exact hp
  · intro heq
    have hle : c <+: ['.', '.'] := ⟨p, heq⟩
    have hcases : ∀ q ∈ ['.', '.'].inits, ¬ Ordinary q := by decide
    exact hcases c ((List.mem_inits _ _).mpr hle) hc

/-- A category with or without a slash behind it does not go up, whatever follows that does not. -/
lemma dotDot_notMem_split {c : Part} (hc : c = [] ∨ Ordinary c) {v cs : List Char}
    (hv : v = c ∨ v = c ++ ['/']) (hcs : dotDot ∉ split cs) :
    dotDot ∉ split (v ++ cs) := by
  have hslash : '/' ∉ c := noSlash_of_shallow (hc.imp_right Or.inr)
  rcases hv with rfl | rfl
  · obtain ⟨p, ps, hsplit, happend⟩ := split_append_of_noSlash hslash cs
    rw [hsplit, List.mem_cons, not_or] at hcs
    rw [happend, List.mem_cons, not_or]
    exact ⟨Ne.symm (ne_dotDot_append hc (Ne.symm hcs.1)), hcs.2⟩
  · have hself := ne_dotDot_append hc (by decide : [] ≠ dotDot)
    rw [List.append_assoc, List.singleton_append, split_append_slash,
      split_of_noSlash hslash, List.singleton_append, List.mem_cons, not_or]
    rw [List.append_nil] at hself
    exact ⟨Ne.symm hself, hcs⟩

/-- A category with or without a slash behind it does not go up. -/
lemma dotDot_notMem_split_self {c : Part} (hc : c = [] ∨ Ordinary c) {v : List Char}
    (hv : v = c ∨ v = c ++ ['/']) : dotDot ∉ split v := by
  have h := dotDot_notMem_split hc hv (by decide : dotDot ∉ split [])
  rwa [List.append_nil] at h

end Path

namespace Assigns

open SceneForge.Path (Part Tidy split push dotDot join)

/-- **Where some text behind the tag of an area leads**, below tidy elements: its elements are
cleaned behind those of the area. -/
lemma leads_behind_iff {a : Assigns} {area : Area} {ds : List Part} {v : String} (loc : Location)
    (hdir : a.find? area.tag = some (String.ofList (join ds))) (hds : Tidy ds)
    (hback : ∀ p ∈ ds, '\\' ∉ p) (hne : ds ≠ []) (hv : '\\' ∉ v.toList) :
    a.Leads (area.tag ++ ":" ++ v) loc ↔
      dotDot ∉ ((split v.toList).foldl (push false) ds.reverse).reverse ∧
      loc = ((split v.toList).foldl (push false) ds.reverse).reverse.map String.ofList := by
  have hchars : (area.tag ++ ":" ++ v).toList = area.tag.toList ++ ':' :: v.toList := by simp
  have hcolon : ':' ∉ area.tag.toList ∧ '/' ∉ area.tag.toList := by cases area <;> decide
  have hnorm := Path.norm_joinAll_behind hds hback hne hv
  rw [String.ofList_toList] at hnorm
  have htidy : Tidy ((split v.toList).foldl (push false) ds.reverse).reverse :=
    Path.tidy_foldl_push (fun _ hp => Path.noSlash_of_mem_split hp) _ (by simpa using hds)
  simp only [Leads, resolve, hchars, Path.cutColon_append hcolon.1, if_neg hcolon.2,
    String.ofList_toList, hdir, Except.ok.injEq, exists_eq_left', hnorm]
  generalize ((split v.toList).foldl (push false) ds.reverse).reverse = parts at htidy ⊢
  by_cases hnil : parts = []
  · subst hnil
    show some [] = some loc ↔ _
    simp [eq_comm]
  · rw [Path.text_of_ne_nil hnil, Depot.locate_join htidy hnil]
    split_ifs with hup
    · simp [hup]
    · simp [hup, eq_comm]

/-- The locations of sources: the directory of sources and everything in it, and the directory
above. -/
def Source (a : Assigns) (loc : Location) : Prop :=
  ∃ src, a.Leads "src:" src ∧ (src <+: loc ∨ loc = src.dropLast)

/-- **A text that goes up at most at its end** leads to sources, below any project root. -/
lemma source_of_leads {root v : String} {loc : Location} (hback : '\\' ∉ v.toList)
    (hup : dotDot ∉ (split v.toList).dropLast)
    (h : (below root).Leads ("src:" ++ v) loc) : (below root).Source loc := by
  obtain ⟨top, htop⟩ := exists_find?_below root
  obtain ⟨hfind, htidy, hds⟩ := htop .source
  have hplace : top ++ Area.source.place.map String.toList = top ++ ["assets".toList] := rfl
  rw [hplace] at hfind htidy hds
  have hne : top ++ ["assets".toList] ≠ [] := by simp
  obtain ⟨hinside, rfl⟩ := (leads_behind_iff loc hfind htidy hds hne hback).mp h
  have hsrc : dotDot ∉ top → (below root).Leads "src:" (top.map String.ofList ++ ["assets"]) := by
    intro hmem
    have hnone : '\\' ∉ "".toList := by decide
    refine (leads_behind_iff _ hfind htidy hds hne hnone).mpr ⟨?_, ?_⟩
    · simpa [split, push, hmem] using (by decide : dotDot ≠ "assets".toList)
    · simp [split, push]
  have hparts := Path.prefix_or_eq_of_push top "assets".toList
    ((split v.toList).getLast (Path.split_ne_nil _)) hup
  rw [List.dropLast_concat_getLast] at hparts
  generalize ((split v.toList).foldl (push false) (top ++ ["assets".toList]).reverse).reverse = parts
    at hinside hparts ⊢
  rcases hparts with hbelow | rfl
  · refine ⟨_, hsrc fun hmem => hinside (hbelow.subset (List.mem_append_left _ hmem)), Or.inl ?_⟩
    simpa [String.ofList_toList] using hbelow.map String.ofList
  · exact ⟨_, hsrc hinside, Or.inr (by simp)⟩

end Assigns

/-! ## Sources of assets -/

namespace AssetId

open Assigns (below)

variable {root path : String}

/-- The category of an asset that does not go up is missing or ordinary. -/
lemma category_of_ne_parent (h : (ofPath path).category ≠ "..") :
    (ofPath path).category.toList = [] ∨ Path.Ordinary (ofPath path).category.toList :=
  (category_ofPath path).imp_right fun hcases => hcases.resolve_left fun heq =>
    h (String.toList_inj.mp heq)

/-- **What is next to the source of an asset** with a name of its own is a source. -/
lemma source_located (h : (ofPath path).category ≠ "..") {ending : String}
    (hending : '/' ∉ ending.toList ∧ '\\' ∉ ending.toList) {loc : Location}
    (hloc : (below root).Leads ((ofPath path).located .source ending) loc) :
    (below root).Source loc := by
  obtain ⟨v, name, hv, hname, hlocated⟩ := exists_located_ofPath path
  have hc := category_of_ne_parent h
  have hback : '\\' ∉ v.toList := Path.Shallow.noBackslash ⟨_, category_ofPath path, hv⟩
  have htext : (ofPath path).located .source ending = "src:" ++ (v ++ "/" ++ (name ++ ending)) := by
    rw [hlocated, ← String.toList_inj]
    simp [Area.uri, Path.join, Area.tag]
  rw [htext] at hloc
  refine Assigns.source_of_leads ?_ ?_ hloc
  · simp [hback, hname, hending]
  · have hlast : '/' ∉ (name ++ ending).toList := by simp [hname, hending]
    have hchars : (v ++ "/" ++ (name ++ ending)).toList = v.toList ++ '/' :: (name ++ ending).toList := by
      simp
    rw [hchars, Path.split_append_slash, Path.split_of_noSlash hlast, List.dropLast_concat]
    exact Path.dotDot_notMem_split_self hc hv

/-- **What a reference of a document stands for** is a source. -/
lemma source_beside (h : (ofPath path).category ≠ "..") {name : String} (hname : Gltf.Referable name)
    {loc : Location} (hloc : (below root).Leads
      (Gltf.inDirectory (Gltf.directoryOf (ofPath path).source) name) loc) :
    (below root).Source loc := by
  obtain ⟨v, file, hv, hfile, hlocated⟩ := exists_located_ofPath path
  have hc := category_of_ne_parent h
  have hback : '\\' ∉ v.toList := Path.Shallow.noBackslash ⟨_, category_ofPath path, hv⟩
  have hlast : '/' ∉ (file ++ ("." ++ (ofPath path).ext)).toList := by
    simp [hfile, noSeparator_ext_ofPath path]
  have hdir : Gltf.directoryOf (ofPath path).source = "src:" ++ v := by
    have hchars : (ofPath path).source.toList =
        ("src:" ++ v).toList ++ '/' :: (file ++ ("." ++ (ofPath path).ext)).toList := by
      rw [source, hlocated]
      simp [Area.uri, Path.join, Area.tag]
    simp only [Gltf.directoryOf, hchars]
    rw [if_pos (by simp), Path.uptoSlash_append _ hlast, List.dropLast_concat, String.ofList_toList]
  have hsplit := Path.dotDot_notMem_split hc hv hname.dotDot_notMem
  rw [hdir] at hloc
  unfold Gltf.inDirectory at hloc
  split_ifs at hloc
  · rw [String.append_assoc] at hloc
    refine Assigns.source_of_leads ?_ (fun hmem => hsplit ?_) hloc
    · simp [hback, hname.2]
    · simpa using List.dropLast_subset _ hmem
  · rw [String.append_assoc, String.append_assoc] at hloc
    refine Assigns.source_of_leads ?_ (fun hmem => ?_) hloc
    · simp [hback, hname.2]
    · have hmem' := List.dropLast_subset _ hmem
      have hchars : (v ++ ("/" ++ name)).toList = v.toList ++ '/' :: name.toList := by simp
      rw [hchars, Path.split_append_slash, List.mem_append] at hmem'
      exact hmem'.elim (Path.dotDot_notMem_split_self hc hv) hname.dotDot_notMem

end AssetId

end SceneForge
