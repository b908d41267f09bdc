import SceneForge.Cli.Run

set_option autoImplicit false

/-!
# What a run looks at

A run acts on a depot, and a depot is a value: the files that matter are read before the run, and
what the run changed is written after it. This module says which files matter and what changed.

## Main definitions

* `SceneForge.Cli.configPaths`, `SceneForge.Cli.workPaths` — the paths that a run looks at: those
  that decide the configuration, and those that the configuration decides.
* `SceneForge.Tree.removedIn`, `SceneForge.Tree.changedIn` — how one tree becomes another.
-/

namespace SceneForge

namespace Cli

/-- The request that arguments stand for, if they stand for one. -/
def request? (args : List String) (d : Depot) : Option Request :=
  match ((request args).run.run { depot := d }).1 with
  | .ok r => some r
  | .error _ => none

/-- The paths that decide the configuration, and those of the files it may be written to. -/
def configPaths (h : Host) (args : List String) (d : Depot) : List String :=
  match request? args d with
  | none => []
  | some r =>
    let named := [r.overrides.file, h.env Config.variableName].filter (· ≠ "")
    let found := Config.candidates h r.overrides.root
    (named ++ found ++ found.map (· ++ ".tmp")).map h.absolute

/-- The paths of a command that are not in areas. -/
def ownPaths : Command → List String
  | .texture _ image outDir => [image, outDir]
  | _ => []

/-- The paths that the configuration decides, once the depot holds what decides it. -/
def workPaths (h : Host) (args : List String) (d : Depot) : List String :=
  match request? args d with
  | none => []
  | some r =>
    match Config.load h r.overrides d.tree with
    | .error _ => []
    | .ok c =>
      let files := [c.logFile, c.metricsFile].filter (· ≠ "")
      (c.bindings.map (·.2) ++ files ++ ownPaths r.command).map h.absolute

end Cli

namespace Tree

/-- The locations that another tree does not have any more, or has as something of another kind. -/
def removedIn (old new : Tree) : List Location :=
  old.entries.filterMap fun (loc, e) =>
    match new.find? loc with
    | some e' => if e.isDir = e'.isDir then none else some loc
    | none => some loc

/-- The entries of another tree that are new or different; outer directories come first. -/
def changedIn (old new : Tree) : List (Location × Entry) :=
  let changed := new.entries.filter fun (loc, e) =>
    match e, old.find? loc with
    | .dir _, some (.dir _) => false
    | e, some before => e ≠ before
    | _, none => true
  changed.mergeSort fun a b => decide (a.1.length ≤ b.1.length)

end Tree

end SceneForge
