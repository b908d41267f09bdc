import SceneForge.Cli.Run
import SceneForge.Proofs.Host.Location
import SceneForge.Proofs.Host.Replace

set_option autoImplicit false

/-!
# Saved configurations

A configuration is saved as it is, and a file that is loaded gives its root relative to the
directory of the file. So everything in a saved configuration reads back but the root: a root that
is not rooted is another path afterwards, and names the same directory only if the directory of the
file and the working directory agree after climbing. Where the root names the same directory, a run
starts from the saved file as it would have started from the configuration itself.

## Main definitions

* `SceneForge.Config.Same` — configurations with the same values.
* `SceneForge.Config.ReadsBack` — a configuration whose text is read as that configuration.
* `SceneForge.Config.assigned` — the areas that a configuration assigns, seen from the root.

## Main results

* `SceneForge.Config.accepted_iff` — the configurations that are accepted.
* `SceneForge.Config.Same.assigned` — areas are in the same directories.
* `SceneForge.Config.read_save` — **what is loaded from a saved configuration**.
-/

namespace SceneForge

open SceneForge.Path (isRooted climb)

/-- An area lies at one path below a project root. -/
lemma Area.joinAll_place {root : String} (hroot : root ≠ "") (area : Area) :
    Path.joinAll (root :: area.place) = Path.joinAll [root, "/".intercalate area.place] := by
  cases area <;> simp [Area.place, Path.joinAll, Path.join, hroot]

namespace Config

variable {c c' : Config}

/-! ## Configurations with the same values -/

/-- Configurations with the same values. The directories of areas are given by tag: their order does
not count. -/
structure Same (c c' : Config) : Prop where
  /-- All other values. -/
  rest : { c with assigns := [] } = { c' with assigns := [] }
  /-- The directories of areas. -/
  lookup : ∀ tag, c.assigns.lookup tag = c'.assigns.lookup tag

/-- A configuration whose text is read as that configuration. -/
def ReadsBack (c : Config) : Prop :=
  ∃ read, Yaml.decode decoder { ({} : Config) with root := "" } (utf8 c.render) = .ok read ∧
    read.Same c

/-- **The configurations that are accepted**: names that stand for something, limits in their range,
and directories of known areas only. -/
lemma accepted_iff : c.validate = .ok () ↔
    (∃ platform, c.target = .ok platform) ∧ (∃ settings, c.settings = .ok settings) ∧
      0 < c.limits.maxSize ∧ 1 ≤ c.limits.quality ∧ c.limits.quality ≤ 100 ∧
      ∀ b ∈ c.assigns, b.1 ∈ Area.all.map Area.tag := by
  have hknown : (∀ b ∈ c.assigns, b.1 ∈ Area.all.map Area.tag) ↔
      (c.assigns.find? fun b => !(Area.all.map Area.tag).contains b.1) = none := by
    simp [List.find?_eq_none]
  rw [hknown, validate]
  generalize (c.assigns.find? fun b => !(Area.all.map Area.tag).contains b.1) = unknown
  cases htarget : c.target with
  | error f => simp [bind, Except.bind]
  | ok platform =>
    cases hsettings : c.settings with
    | error f => simp [bind, Except.bind]
    | ok settings =>
      simp only [bind, Except.bind, throw, throwThe, MonadExceptOf.throw, pure, Except.pure]
      by_cases hsize : c.limits.maxSize ≤ 0
      · simp [hsize, Int.not_lt.mpr hsize]
      by_cases hquality : c.limits.quality < 1 ∨ 100 < c.limits.quality
      · have hrange : ¬ (1 ≤ c.limits.quality ∧ c.limits.quality ≤ 100) := by omega
        simp only [hsize, hquality, if_true, if_false, reduceCtorEq, false_iff]
        exact fun h => hrange ⟨h.2.2.2.1, h.2.2.2.2.1⟩
      · have hrange : 0 < c.limits.maxSize ∧ 1 ≤ c.limits.quality ∧ c.limits.quality ≤ 100 := by omega
        cases unknown <;> simp [hsize, hquality, hrange]

namespace Same

/-- Only the list of areas may be another one. -/
lemma eq_with (h : c.Same c') : c = { c' with assigns := c.assigns } :=
  congrArg (fun rest : Config => { rest with assigns := c.assigns }) h.rest

/-- The roots are the same text. -/
lemma root_eq (h : c.Same c') : c.root = c'.root := by
  rw [h.eq_with]

/-- The same areas are named. -/
lemma mem_tags (h : c.Same c') {b : String × String} (hb : b ∈ c.assigns) :
    ∃ b' ∈ c'.assigns, b'.1 = b.1 := by
  by_contra hnone
  have hlookup : c'.assigns.lookup b.1 = none :=
    List.lookup_eq_none_iff.mpr fun b' hb' => by
      simpa using fun heq : b.1 = b'.1 => hnone ⟨b', hb', heq.symm⟩
  have habsurd := List.lookup_eq_none_iff.mp ((h.lookup b.1).trans hlookup) b hb
  simp at habsurd

/-- What is accepted is accepted with the same values. -/
lemma validate (h : c.Same c') (hvalid : c'.validate = .ok ()) : c.validate = .ok () := by
  obtain ⟨htarget, hsettings, hsize, hlow, hhigh, hknown⟩ := accepted_iff.mp hvalid
  have hassigns : ∀ b ∈ c.assigns, b.1 ∈ Area.all.map Area.tag := by
    intro b hb
    obtain ⟨b', hb', heq⟩ := h.mem_tags hb
    exact heq ▸ hknown b' hb'
  rw [accepted_iff]
  refine ⟨?_, ?_, ?_, ?_, ?_, hassigns⟩ <;> rw [h.eq_with] <;> assumption

end Same

/-! ## Areas -/

/-- The directories of the areas of an accepted configuration. -/
lemma bindings_eq (hvalid : c.validate = .ok ()) : c.bindings = Area.all.map fun area =>
    (area.tag, (c.assigns.lookup area.tag).getD (Path.joinAll (c.root :: area.place))) := by
  obtain ⟨-, -, -, -, -, hknown⟩ := accepted_iff.mp hvalid
  have hnone : c.assigns.filter (fun b => !(Area.all.map Area.tag).contains b.1) = [] := by
    rw [List.filter_eq_nil_iff]
    intro b hb
    simpa using hknown b hb
  rw [bindings, hnone, List.append_nil, Assigns.layout, List.map_map]
  rfl

/-- The areas that a configuration assigns, seen from the root. -/
def assigned (c : Config) (h : Host) : Assigns :=
  Assigns.ofList (c.bindings.map fun b => (b.1, h.absolute b.2))

/-- **Areas are in the same directories** for configurations with the same values and with roots
that name the same directory. -/
lemma Same.assigned {h : Host} (hrooted : isRooted h.directory.toList = true)
    (hsame : { c with root := c'.root }.Same c') (hvalid : c.validate = .ok ())
    (hvalid' : c'.validate = .ok ()) (hne : c.root ≠ "") (hne' : c'.root ≠ "")
    (hroot : h.absolute c.root = h.absolute c'.root) : c.assigned h = c'.assigned h := by
  rw [Config.assigned, Config.assigned, bindings_eq hvalid, bindings_eq hvalid', List.map_map,
    List.map_map]
  congr 1
  refine List.map_congr_left fun area _ => ?_
  have hlookup : c.assigns.lookup area.tag = c'.assigns.lookup area.tag := hsame.lookup area.tag
  simp only [Function.comp_apply, hlookup]
  cases c'.assigns.lookup area.tag with
  | some dir => rfl
  | none =>
    have hplace : "/".intercalate area.place ≠ "" := by cases area <;> decide
    simp only [Option.getD_none, Area.joinAll_place hne, Area.joinAll_place hne',
      Host.absolute_joinAll_congr hrooted hne hne' hplace hroot]

/-! ## Loading -/

/-- The root that a file gives. -/
lemma rootFrom_of_ne {path usual given : String} (hne : given ≠ "") : rootFrom path usual given =
    if isRooted given.toList then given else Path.joinAll [Path.dir path, given] := by
  rw [rootFrom, if_neg hne]

/-- A configuration that is saved is what is found at its path. -/
lemma contents_of_save {h : Host} {path : String} {d d' : Depot}
    (hsave : (c.save h path).runOn d = (.ok (), d')) :
    path ≠ "" ∧ h.contents d'.tree path = .ok (utf8 c.render) := by
  rw [Job.runOn_eq] at hsave
  obtain ⟨⟨⟩, d₁, -, hreplace⟩ := Job.exists_of_bind_run hsave
  have hslash : '/' ∉ ".tmp".toList := by decide
  have hlong : 2 < ".tmp".toList.length := by decide
  exact Host.contents_replace hslash hlong hreplace

/-- A command line that only names a file changes nothing in it. -/
lemma override_file (c : Config) (path : String) : c.override { file := path } = c := by
  simp [override, orElse]

/-- The configuration of a run whose command line only names a file. -/
lemma load_of_read {h : Host} {t : Tree} {path : String} (hne : path ≠ "")
    (hread : read h t path = .ok c) (hvalid : c.validate = .ok ()) :
    load h { file := path } t = .ok c := by
  have hchosen : chosenFile h { file := path } t = some path := by
    simp [chosenFile, hne]
  simp only [load, hchosen, hread, inContext, bind, Except.bind, override_file, hvalid, pure,
    Except.pure]

/-- A program that is set up by a loaded configuration. -/
lemma setup_of_load {h : Host} {o : Overrides} {s : Cli.Console}
    (hload : load h o s.depot.tree = .ok c) : (Cli.setup h o).run s =
      (.ok c, { s with depot := { s.depot with assigns := c.assigned h }, config := some c }) := by
  have hsetup : (Cli.setup h o).run s = ((do
      let c ← Cli.orFail (load h o s.depot.tree)
      let assigns := c.assigned h
      modify fun s => { s with depot := { s.depot with assigns }, config := some c }
      return c : Cli.Action Config)).run s := rfl
  rw [hsetup, hload]
  rfl

/-- **What is loaded from a saved configuration**: the same values with another root, which names
the same directory exactly if the root is rooted, or the directory of the file and the working
directory agree after climbing. In this case a program that is given the file starts with the areas
of the configuration that was saved. -/
theorem read_save {h : Host} {path : String} {d d' : Depot}
    (hrooted : isRooted h.directory.toList = true) (hne : c.root ≠ "")
    (hvalid : c.validate = .ok ()) (hreads : c.ReadsBack)
    (hsave : (c.save h path).runOn d = (.ok (), d')) :
    ∃ loaded, read h d'.tree path = .ok loaded ∧
      load h { file := path } d'.tree = .ok loaded ∧
      { loaded with root := c.root }.Same c ∧
      loaded.root = (if isRooted c.root.toList then c.root
        else Path.joinAll [Path.dir path, c.root]) ∧
      (h.absolute loaded.root = h.absolute c.root ↔ isRooted c.root.toList = true ∨
        (h.location (Path.dir path)).rdrop (climb c.root.toList) =
          (h.location ".").rdrop (climb c.root.toList)) ∧
      (h.absolute loaded.root = h.absolute c.root →
        ∀ s : Cli.Console, s.depot.tree = d'.tree → (Cli.setup h { file := path }).run s =
          (.ok loaded, { s with
            depot := { s.depot with assigns := c.assigned h }, config := some loaded })) := by
  obtain ⟨hpath, hcontents⟩ := contents_of_save hsave
  obtain ⟨back, hdecode, hsame⟩ := hreads
  have hback : back.root = c.root := hsame.root_eq
  have hdir := Path.dir_ne_empty path
  let loaded : Config := { back with root := rootFrom path "." c.root }
  have hroot : loaded.root =
      if isRooted c.root.toList then c.root else Path.joinAll [Path.dir path, c.root] :=
    rootFrom_of_ne hne
  have hread : read h d'.tree path = .ok loaded := by
    simp only [read, hcontents, bind, Except.bind, overlay, hdecode, Except.mapError, pure,
      Except.pure, hback]
    rfl
  have hvalues : { loaded with root := c.root }.Same c := by
    have heq : { loaded with root := c.root } = back := by
      rw [← hback]
    rw [heq]
    exact hsame
  have haccepted : loaded.validate = .ok () := hvalues.validate hvalid
  have hload := load_of_read hpath hread haccepted
  refine ⟨loaded, hread, hload, hvalues, hroot, ?_, fun hplace s htree => ?_⟩
  · rw [hroot]
    cases hr : isRooted c.root.toList with
    | true => simp
    | false =>
      simp only [Bool.false_eq_true, if_false, false_or]
      exact Host.absolute_joinAll_iff hrooted hdir hne hr
  · have hne' : loaded.root ≠ "" := by
      rw [hroot]
      split_ifs
      · exact hne
      · exact Host.joinAll_pair_ne_empty hdir hne
    rw [setup_of_load (htree ▸ hload),
      hvalues.assigned hrooted haccepted hvalid hne' hne hplace]

/-! ### A configuration for the user -/

/-- A user at work in a directory that is not the one of the user's configuration. -/
def atWork : Host := { directory := "/work", environment := [("HOME", "/home/user")] }

/-- A project in a directory below the working directory. -/
def gameBelow : Config := { root := "game" }

/-- A host without any files. -/
def bareHost : Depot where
  tree := {}
  assigns := {}
  world :=
    { clock := fun _ => 0, refuses := fun _ _ _ => false, scratch := fun _ => "", backend := .host }

/-- A result that is there. -/
lemma eq_ok_of_toOption {ε α : Type} {r : Except ε α} {a : α} (h : r.toOption = some a) :
    r = .ok a := by
  cases r with
  | error e => cases h
  | ok b => exact congrArg Except.ok (Option.some.inj h)

/-- The configuration is accepted, read from its text, and saved for the user. -/
lemma computed_gameBelow : gameBelow.validate.toOption = some () ∧
    (Yaml.decode decoder { ({} : Config) with root := "" } (utf8 gameBelow.render)).toOption =
      some gameBelow ∧
    ((gameBelow.save atWork (userFile atWork)).runOn bareHost).1.toOption = some () := by
  decide +kernel

/-- The text of the configuration is read as the configuration. -/
lemma gameBelow_readsBack : gameBelow.ReadsBack :=
  ⟨gameBelow, eq_ok_of_toOption computed_gameBelow.2.1, rfl, fun _ => rfl⟩

/-- The configuration can be saved for the user. -/
lemma exists_save_gameBelow :
    ∃ d', (gameBelow.save atWork (userFile atWork)).runOn bareHost = (.ok (), d') := by
  have hsaved : ((gameBelow.save atWork (userFile atWork)).runOn bareHost).1 = .ok () :=
    eq_ok_of_toOption computed_gameBelow.2.2
  generalize (gameBelow.save atWork (userFile atWork)).runOn bareHost = r at hsaved
  exact ⟨r.2, Prod.ext hsaved rfl⟩

/-- The project is saved for the user: what is loaded has another root, which names a directory that
does not belong to the project. -/
theorem read_save_gameBelow :
    isRooted atWork.directory.toList = true ∧ gameBelow.root ≠ "" ∧ gameBelow.validate = .ok () ∧
      gameBelow.ReadsBack ∧ ∃ d' loaded,
        (gameBelow.save atWork (userFile atWork)).runOn bareHost = (.ok (), d') ∧
        read atWork d'.tree (userFile atWork) = .ok loaded ∧
        { loaded with root := gameBelow.root }.Same gameBelow ∧
        loaded.root = "/home/user/.config/assetpipe/game" ∧
        atWork.absolute gameBelow.root = "/work/game" ∧
        atWork.absolute loaded.root ≠ atWork.absolute gameBelow.root := by
  have hrooted : isRooted atWork.directory.toList = true := by decide
  have hne : gameBelow.root ≠ "" := by decide
  have hvalid : gameBelow.validate = .ok () := eq_ok_of_toOption computed_gameBelow.1
  have hreads := gameBelow_readsBack
  obtain ⟨d', hsave⟩ := exists_save_gameBelow
  obtain ⟨loaded, hread, -, hvalues, hroot, hplace, -⟩ :=
    read_save hrooted hne hvalid hreads hsave
  refine ⟨hrooted, hne, hvalid, hreads, d', loaded, hsave, hread, hvalues, ?_, ?_, ?_⟩
  · rw [hroot]
    decide
  · decide
  · rw [ne_eq, hplace]
    decide

end Config

end SceneForge
