import SceneForge.Proofs.Depot.Anchors

set_option autoImplicit false

/-!
# Texts behind a directory

A location text is a tag, a colon and some text. Joined to the directory of its tag, the text is
cleaned twice: before backslashes are replaced, and once more with slashes only. What comes out is
tidy, and names behind the text are reached behind what the text itself leads to.

## Main definitions

* `SceneForge.Path.reach` — the elements that a text leads to behind a directory.
* `SceneForge.Path.IsTag` — texts that are cut off in front of the colon.

## Main results

* `SceneForge.Path.reach_below` — names behind a text are reached behind what the text leads to.
* `SceneForge.Assigns.resolve_tagged`, `SceneForge.Assigns.leads_tagged_iff` — the path of a
  location text, and where it leads.
* `SceneForge.Assigns.Leads.below` — where names behind a location text lead.
-/

namespace SceneForge

/-! ## Texts behind a directory -/

namespace Path

variable {p : Part} {ps qs rs : List Part} {cs : List Char}

/-- A slash at the end does not matter. -/
lemma cleanParts_append_slash (hne : cs ≠ []) : cleanParts (cs ++ ['/']) = cleanParts cs := by
  have hpush : ∀ stack : List Part, push (isRooted cs) stack [] = stack := fun _ => rfl
  rw [cleanParts, cleanParts, isRooted_append hne, split_append_slash, List.foldl_append]
  simp [split, hpush]

/-- Backslashes are replaced piece by piece. -/
lemma slashed_append (cs ds : List Char) : slashed (cs ++ ds) = slashed cs ++ slashed ds :=
  List.map_append

/-- The elements of a clean spelling are those that were spelled. -/
lemma cleanParts_text (h : Tidy ps) : cleanParts (text ps) = ps := by
  by_cases hne : ps = []
  · rw [hne]
    rfl
  · rw [text_of_ne_nil hne, cleanParts_join h hne]

/-- Different tidy elements are spelled differently. -/
lemma text_inj (hps : Tidy ps) (hqs : Tidy qs) : text ps = text qs ↔ ps = qs := by
  refine ⟨fun h => ?_, fun h => by rw [h]⟩
  rw [← cleanParts_text hps, h, cleanParts_text hqs]

/-- Ordinary elements behind a text that is cleaned, and then cleaned again with slashes only, stay
where they are.

**Proof sketch.** Cleaning a text followed by ordinary elements keeps these behind the elements of
the text, whatever those are, since an ordinary element removes nothing (`cleanParts_below`). The
cases are those of what the text is cleaned to: nothing, the root, the current directory, or some
elements. Only in the last one is a separator put in between. -/
lemma cleanParts_slashed_below (cs : List Char) (hrs : ∀ r ∈ rs, Ordinary r) (hne : rs ≠ []) :
    cleanParts (slashed (cleanChars (cs ++ '/' :: join rs))) =
      cleanParts (slashed (cleanChars cs)) ++ rs := by
  have hplain : ∀ r ∈ rs, Plain r := fun r hr => (hrs r hr).toPlain
  have htidy : Tidy rs := tidy_of_plain hplain
  have hback : slashed (join rs) = join rs :=
    slashed_eq_self (noBackslash_join fun r hr => (hrs r hr).noBackslash)
  have hjoin : join rs ≠ [] := join_ne_nil (fun r hr => (hplain r hr).ne_nil) hne
  have hslash : slashed ('/' :: join rs) = '/' :: join rs := by
    rw [← List.singleton_append, slashed_append, hback]
    rfl
  have hroot : cleanParts ('/' :: join rs) = rs := cleanParts_below [] hplain hne
  by_cases hcs : cs = []
  · have hclean : cleanChars ('/' :: join rs) = '/' :: join rs := by
      simp [cleanChars, hroot, isRooted]
    rw [hcs, List.nil_append, hclean, hslash, hroot]
    rfl
  have hparts : cleanParts (cs ++ '/' :: join rs) = cleanParts cs ++ rs := by
    rw [cleanParts_below cs hplain hne, cleanParts_append_slash hcs]
  have hrooted : isRooted (cs ++ '/' :: join rs) = isRooted cs := isRooted_append hcs _
  by_cases has : cleanParts cs = []
  · cases hr : isRooted cs with
    | true =>
      simp only [cleanChars, hparts, hrooted, has, hr, List.nil_append, if_true]
      rw [hslash, hroot]
      rfl
    | false =>
      simp only [cleanChars, hparts, hrooted, has, hr, List.nil_append, Bool.false_eq_true, if_false,
        if_neg hjoin]
      rw [hback, cleanParts_join htidy hne]
      rfl
  · have has' : join (cleanParts cs) ≠ [] :=
      join_ne_nil (fun p hp => ((tidy_cleanParts cs).of_mem hp).1) has
    have hclean : cleanChars (cs ++ '/' :: join rs) = cleanChars cs ++ '/' :: join rs := by
      simp only [cleanChars, hparts, hrooted, join_append has hne, if_neg has']
      cases isRooted cs <;> simp
    have hne' : slashed (cleanChars cs) ≠ [] := by
      simp only [cleanChars, slashed, if_neg has', ne_eq, List.map_eq_nil_iff]
      cases isRooted cs <;> simp [has']
    have hslashed : slashed (cleanChars cs ++ '/' :: join rs) =
        slashed (cleanChars cs) ++ '/' :: join rs := by
      rw [slashed_append, hslash]
    rw [hclean, hslashed, cleanParts_below _ hplain hne, cleanParts_append_slash hne']

/-- The elements that a text leads to behind a directory. -/
def reach (dir v : String) : List Part := cleanParts (slashed (joinAll [dir, v]).toList)

/-- The path of a text behind a directory is spelled by what it leads to. -/
lemma norm_joinAll_eq (dir v : String) :
    norm (joinAll [dir, v]) = String.ofList (text (reach dir v)) := by
  rw [norm, normChars_eq_text]
  rfl

/-- What is reached is tidy. -/
lemma tidy_reach (dir v : String) : Tidy (reach dir v) := tidy_cleanParts _

/-- What is reached has no backslashes. -/
lemma noBackslash_reach {dir v : String} (h : p ∈ reach dir v) : '\\' ∉ p := fun hmem =>
  noBackslash_slashed _ (subset_of_mem_split (mem_split_of_mem_cleanParts h) hmem)

/-- What is reached is found by cleaning twice, the second time with slashes only. -/
lemma reach_eq (dir v : String) : reach dir v = cleanParts (slashed (cleanChars
    (if dir = "" then v.toList else if v = "" then dir.toList else dir.toList ++ '/' :: v.toList))) := by
  by_cases hdir : dir = "" <;> by_cases hv : v = ""
  · rw [hdir, hv]
    rfl
  all_goals simp [reach, joinAll, hdir, hv, join]

/-- **Names behind a text** are reached behind what the text leads to. -/
lemma reach_below (dir v : String) (hrs : ∀ r ∈ rs, Ordinary r) (hne : rs ≠ []) :
    reach dir (v ++ "/" ++ String.ofList (join rs)) = reach dir v ++ rs := by
  have hnames : v ++ "/" ++ String.ofList (join rs) ≠ "" := by
    intro h
    have hchars := congrArg String.toList h
    simp at hchars
  rw [reach_eq, reach_eq, if_neg hnames]
  by_cases hdir : dir = ""
  · simpa [hdir] using cleanParts_slashed_below v.toList hrs hne
  by_cases hv : v = ""
  · have hdir' : dir.toList ≠ [] := by simpa using hdir
    have hclean : cleanChars (dir.toList ++ ['/']) = cleanChars dir.toList := by
      rw [cleanChars, cleanChars, cleanParts_append_slash hdir', isRooted_append hdir']
    have hbelow := cleanParts_slashed_below (dir.toList ++ ['/']) hrs hne
    rw [hclean] at hbelow
    simpa [hdir, hv] using hbelow
  · simpa [hdir, hv] using cleanParts_slashed_below (dir.toList ++ '/' :: v.toList) hrs hne

/-- Names are reached behind a directory. -/
lemma reach_join (dir : String) (hrs : ∀ r ∈ rs, Ordinary r) (hne : rs ≠ []) :
    reach dir (String.ofList (join rs)) = reach dir "" ++ rs := by
  have hjoin : join rs ≠ [] := join_ne_nil (fun r hr => (hrs r hr).ne_nil) hne
  rw [reach_eq, reach_eq]
  by_cases hdir : dir = ""
  · have htidy : Tidy rs := tidy_of_plain fun r hr => (hrs r hr).toPlain
    have hback : slashed (join rs) = join rs :=
      slashed_eq_self (noBackslash_join fun r hr => (hrs r hr).noBackslash)
    simp only [hdir, if_true, String.toList_ofList]
    rw [cleanChars_join htidy hne, hback, cleanParts_join htidy hne]
    rfl
  · simpa [hdir, hjoin] using cleanParts_slashed_below dir.toList hrs hne

end Path

/-! ## Location texts -/

/-- A text that is cut off in front of the colon: it has no colon itself, and no slash. -/
structure Path.IsTag (tag : String) : Prop where
  /-- The first colon is behind it. -/
  noColon : ':' ∉ tag.toList
  /-- It is no path. -/
  noSlash : '/' ∉ tag.toList

/-- Whether a text can be a tag can be found out. -/
instance Path.decidableIsTag (tag : String) : Decidable (Path.IsTag tag) :=
  decidable_of_iff (':' ∉ tag.toList ∧ '/' ∉ tag.toList)
    ⟨fun ⟨hcolon, hslash⟩ => ⟨hcolon, hslash⟩, fun h => ⟨h.noColon, h.noSlash⟩⟩

/-- The tags of areas are tags. -/
lemma Area.isTag (area : Area) : Path.IsTag area.tag := by
  cases area <;> decide

namespace Assigns

open SceneForge.Path (IsTag Ordinary dotDot reach text)

variable {a : Assigns} {tag dir : String} {loc : Location}

/-- The tag of a location text is what stands in front of the colon. -/
lemma cutColon_tagged (htag : IsTag tag) (v : String) :
    Path.cutColon (tag ++ ":" ++ v).toList = some (tag.toList, v.toList) := by
  have h := Path.cutColon_append htag.noColon v.toList
  simpa using h

/-- The path of a location text. -/
lemma resolve_tagged (htag : IsTag tag) (hdir : a.find? tag = some dir) (v : String) :
    a.resolve (tag ++ ":" ++ v) = .ok (String.ofList (text (reach dir v))) := by
  simp only [resolve, cutColon_tagged htag, if_neg htag.noSlash, String.ofList_toList, hdir,
    Path.norm_joinAll_eq]

/-- Two texts behind one tag have the same path if they lead to the same elements. -/
lemma resolve_tagged_inj (htag : IsTag tag) (hdir : a.find? tag = some dir) (v w : String) :
    a.resolve (tag ++ ":" ++ v) = a.resolve (tag ++ ":" ++ w) ↔ reach dir v = reach dir w := by
  rw [resolve_tagged htag hdir, resolve_tagged htag hdir, Except.ok.injEq, ← String.toList_inj,
    String.toList_ofList, String.toList_ofList,
    Path.text_inj (Path.tidy_reach dir v) (Path.tidy_reach dir w)]

/-- Where a location text leads. -/
lemma leads_tagged_iff (htag : IsTag tag) (hdir : a.find? tag = some dir) (v : String)
    (loc : Location) :
    a.Leads (tag ++ ":" ++ v) loc ↔
      dotDot ∉ reach dir v ∧ loc = (reach dir v).map String.ofList := by
  simp only [Leads, resolve_tagged htag hdir, Except.ok.injEq, exists_eq_left']
  by_cases hne : reach dir v = []
  · have hroot : Depot.locate (String.ofList (text [])) = some [] := by decide
    rw [hne, hroot]
    simp [eq_comm]
  · rw [Path.text_of_ne_nil hne, Depot.locate_join (Path.tidy_reach dir v) hne]
    split_ifs with hup
    · simp [hup]
    · simp [hup, eq_comm]

/-- A tag is assigned if a location text with it leads anywhere. -/
lemma exists_dir_of_leads (htag : IsTag tag) {v : String} (h : a.Leads (tag ++ ":" ++ v) loc) :
    ∃ dir, a.find? tag = some dir := by
  obtain ⟨path, hpath, -⟩ := h
  cases hfind : a.find? tag with
  | some dir => exact ⟨dir, rfl⟩
  | none =>
    simp only [resolve, cutColon_tagged htag, if_neg htag.noSlash, String.ofList_toList, hfind] at hpath
    cases hpath

/-- **Names behind a location text** lead to a place behind what it leads to. -/
lemma Leads.below (htag : IsTag tag) {v : String} (h : a.Leads (tag ++ ":" ++ v) loc)
    {names : List String} (hnames : OrdinaryNames names) :
    a.Leads (tag ++ ":" ++ (v ++ "/" ++ String.ofList (Path.join (names.map String.toList))))
      (loc ++ names) := by
  obtain ⟨dir, hdir⟩ := exists_dir_of_leads htag h
  obtain ⟨hup, rfl⟩ := (leads_tagged_iff htag hdir v loc).mp h
  have hrs := Path.ordinary_of_mem_map hnames.2
  rw [leads_tagged_iff htag hdir, Path.reach_below dir v hrs (by simpa using hnames.1)]
  refine ⟨fun hmem => ?_, by simp [Function.comp_def, String.ofList_toList]⟩
  rcases List.mem_append.mp hmem with hmem | hmem
  · exact hup hmem
  · exact (hrs _ hmem).ne_dotDot rfl

/-- **A name behind a location text** leads to what lies in the place that it leads to. -/
lemma Leads.child (htag : IsTag tag) {v name : String} (h : a.Leads (tag ++ ":" ++ v) loc)
    (hname : Ordinary name.toList) :
    a.Leads (tag ++ ":" ++ v ++ "/" ++ name) (loc ++ [name]) := by
  have hbelow := h.below htag ⟨by simp, List.forall_mem_singleton.mpr hname⟩
  simpa only [List.map_cons, List.map_nil, Path.join, String.ofList_toList, String.append_assoc]
    using hbelow

end Assigns

end SceneForge
