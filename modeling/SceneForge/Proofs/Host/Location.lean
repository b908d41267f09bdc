import SceneForge.Host.Files
import SceneForge.Proofs.Path.Relative

set_option autoImplicit false

/-!
# Where paths of the host are

A path that is rooted is seen from the root, and any other path from the working directory. What a
path is joined to takes the place of the working directory: so a path that is joined to a directory
is at the same place as the path itself if the directory and the working directory agree after
climbing.

## Main definitions

* `SceneForge.Host.parts` — the elements of a path seen from the root.

## Main results

* `SceneForge.Host.absolute_eq_iff` — two paths have the same spelling seen from the root if they
  have the same location.
* `SceneForge.Host.location_relative`, `SceneForge.Host.location_joinAll` — the location of a path
  that is not rooted, by itself and joined to a directory.
* `SceneForge.Host.absolute_joinAll_iff` — when joining to a directory leaves a path where it is.
-/

namespace SceneForge.Host

open SceneForge.Path (Part Plain isRooted follow climb descent cleanParts cleanChars)

variable {h : Host} {path dir : String}

/-- The elements of a path seen from the root. -/
def parts (h : Host) (path : String) : List Part :=
  if isRooted path.toList then follow [] path.toList
  else follow (follow [] h.directory.toList) path.toList

/-- Seen from the root, all elements are plain. -/
lemma plain_parts (h : Host) (path : String) : ∀ p ∈ h.parts path, Plain p := by
  have hroot : ∀ p ∈ ([] : List Part), Plain p := by simp
  unfold parts
  split_ifs
  · exact Path.plain_follow hroot _
  · exact Path.plain_follow (Path.plain_follow hroot _) _

/-- A path with a directory in front of it. -/
lemma joinAll_pair (hdir : dir ≠ "") (hpath : path ≠ "") : Path.joinAll [dir, path] =
    String.ofList (cleanChars (dir.toList ++ '/' :: path.toList)) := by
  simp [Path.joinAll, hdir, hpath, Path.join]

/-- A path joined to a directory is not empty. -/
lemma joinAll_pair_ne_empty (hdir : dir ≠ "") (hpath : path ≠ "") :
    Path.joinAll [dir, path] ≠ "" := by
  rw [joinAll_pair hdir hpath]
  simpa using Path.cleanChars_ne_nil _

/-- A rooted path is not empty. -/
lemma ne_empty_of_isRooted (hrooted : isRooted path.toList = true) : path ≠ "" := by
  rintro rfl
  cases hrooted

/-- **The spelling of a path seen from the root.** -/
lemma absolute_eq (hrooted : isRooted h.directory.toList = true) (path : String) :
    h.absolute path = String.ofList ('/' :: Path.join (h.parts path)) := by
  unfold absolute parts
  split_ifs with hpath
  · rw [Path.clean, Path.cleanChars_of_rooted hpath]
  · have hne := ne_empty_of_isRooted hrooted
    by_cases hnil : path = ""
    · subst hnil
      simp [Path.joinAll, hne, Path.join, Path.cleanChars_of_rooted hrooted, Path.follow_nil]
    · have hboth : isRooted (h.directory.toList ++ '/' :: path.toList) = true := by
        rw [Path.isRooted_append (by simpa using hne), hrooted]
      rw [joinAll_pair hne hnil, Path.cleanChars_of_rooted hboth, Path.follow_append_slash]

/-- **The location of a path** lists its elements. -/
lemma location_eq (hrooted : isRooted h.directory.toList = true) (path : String) :
    h.location path = (h.parts path).map String.ofList := by
  have hplain := plain_parts h path
  have hsplit : elements (h.absolute path) =
      "" :: (Path.split (Path.join (h.parts path))).map String.ofList := by
    rw [elements, absolute_eq hrooted, String.toList_ofList]
    rfl
  rw [location, hsplit]
  by_cases hnil : h.parts path = []
  · simp [hnil, Path.join, Path.split]
  · have hkeep : ((h.parts path).map String.ofList).filter (· ≠ "") =
        (h.parts path).map String.ofList := by
      refine List.filter_eq_self.mpr fun r hr => ?_
      obtain ⟨p, hp, rfl⟩ := List.mem_map.mp hr
      simpa using (hplain p hp).ne_nil
    rw [Path.split_join (fun p hp => (hplain p hp).noSlash) hnil, List.filter_cons_of_neg (by simp),
      hkeep]

/-- Two paths have the same elements if they have the same location. -/
lemma location_eq_iff (hrooted : isRooted h.directory.toList = true) {path path' : String} :
    h.location path = h.location path' ↔ h.parts path = h.parts path' := by
  rw [location_eq hrooted, location_eq hrooted]
  exact (List.map_injective_iff.mpr fun _ _ hab => String.ofList_injective hab).eq_iff

/-- **Two paths have the same spelling** seen from the root if they have the same location. -/
theorem absolute_eq_iff (hrooted : isRooted h.directory.toList = true) {path path' : String} :
    h.absolute path = h.absolute path' ↔ h.location path = h.location path' := by
  refine ⟨fun heq => by rw [location, heq, location], fun heq => ?_⟩
  rw [absolute_eq hrooted, absolute_eq hrooted, (location_eq_iff hrooted).mp heq]

/-! ## Paths that are not rooted -/

/-- The working directory. -/
lemma parts_dot (h : Host) : h.parts "." = follow [] h.directory.toList :=
  Path.follow_dot _

/-- A path joined to a directory is followed from that directory. -/
lemma parts_joinAll (hdir : dir ≠ "") (hpath : path ≠ "") :
    h.parts (Path.joinAll [dir, path]) = follow (h.parts dir) path.toList := by
  rw [joinAll_pair hdir hpath]
  have hne : dir.toList ≠ [] := by simpa using hdir
  unfold parts
  rw [String.toList_ofList]
  cases hrooted : isRooted dir.toList with
  | true =>
    have hboth : isRooted (dir.toList ++ '/' :: path.toList) = true := by
      rw [Path.isRooted_append hne, hrooted]
    have hclean : isRooted (cleanChars (dir.toList ++ '/' :: path.toList)) = true := by
      rw [Path.cleanChars_of_rooted hboth]
      rfl
    rw [if_pos hclean, Path.follow_cleanChars_of_rooted hboth, Path.follow_append_slash]
    simp
  | false =>
    have hboth : isRooted (dir.toList ++ '/' :: path.toList) = false := by
      rw [Path.isRooted_append hne, hrooted]
    have hclean : isRooted (cleanChars (dir.toList ++ '/' :: path.toList)) = false := by
      rw [Path.cleanChars_of_not_rooted hboth]
      exact (Path.tidy_cleanParts _).isRooted_text
    rw [if_neg (by simp [hclean]), Path.follow_cleanChars hboth, Path.follow_append_slash]
    simp

/-- A path joined to two spellings of one directory is the same path. -/
lemma absolute_joinAll_congr (hrooted : isRooted h.directory.toList = true) {dir' : String}
    (hdir : dir ≠ "") (hdir' : dir' ≠ "") (hpath : path ≠ "")
    (heq : h.absolute dir = h.absolute dir') :
    h.absolute (Path.joinAll [dir, path]) = h.absolute (Path.joinAll [dir', path]) := by
  have hparts := (location_eq_iff hrooted).mp ((absolute_eq_iff hrooted).mp heq)
  rw [absolute_eq_iff hrooted, location_eq_iff hrooted, parts_joinAll hdir hpath,
    parts_joinAll hdir' hpath, hparts]

/-- Climbing and descending, by locations. -/
lemma map_follow {ps : List Part} (hps : ∀ p ∈ ps, Plain p) {cs : List Char}
    (hcs : isRooted cs = false) : (follow ps cs).map String.ofList =
      (ps.map String.ofList).rdrop (climb cs) ++ (descent cs).map String.ofList := by
  have hnone : Path.dotDot ∉ ps := fun hmem => (hps _ hmem).ne_dotDot rfl
  rw [Path.follow_eq hnone hcs, List.map_append, List.rdrop, List.rdrop, List.map_take,
    List.length_map]

/-- The location of a path that is not rooted: it climbs from the working directory and then
descends. -/
theorem location_relative (hrooted : isRooted h.directory.toList = true)
    (hpath : isRooted path.toList = false) : h.location path =
      (h.location ".").rdrop (climb path.toList) ++ (descent path.toList).map String.ofList := by
  rw [location_eq hrooted, location_eq hrooted, ← map_follow (plain_parts h ".") hpath, parts_dot,
    parts, hpath]
  simp

/-- The location of a path that is joined to a directory: it climbs from that directory. -/
theorem location_joinAll (hrooted : isRooted h.directory.toList = true) (hdir : dir ≠ "")
    (hne : path ≠ "") (hpath : isRooted path.toList = false) :
    h.location (Path.joinAll [dir, path]) =
      (h.location dir).rdrop (climb path.toList) ++ (descent path.toList).map String.ofList := by
  rw [location_eq hrooted, location_eq hrooted, ← map_follow (plain_parts h dir) hpath,
    parts_joinAll hdir hne]

/-- **Joining to a directory leaves a path where it is** if that directory and the working directory
agree after climbing. -/
theorem absolute_joinAll_iff (hrooted : isRooted h.directory.toList = true) (hdir : dir ≠ "")
    (hne : path ≠ "") (hpath : isRooted path.toList = false) :
    h.absolute (Path.joinAll [dir, path]) = h.absolute path ↔
      (h.location dir).rdrop (climb path.toList) = (h.location ".").rdrop (climb path.toList) := by
  rw [absolute_eq_iff hrooted, location_joinAll hrooted hdir hne hpath,
    location_relative hrooted hpath, List.append_left_inj]

end SceneForge.Host
