import SceneForge.Cli.Arguments
import SceneForge.Cli.Console

set_option autoImplicit false

/-!
# Commands and their arguments

## Main definitions

* `SceneForge.Cli.usage` — the help text.
* `SceneForge.Cli.Command` — what the program can be asked to do.
* `SceneForge.Cli.Request`, `SceneForge.Cli.request` — a command with what the flags in front of it
  say about the configuration.
-/

namespace SceneForge.Cli

/-- The help text. -/
def usage : String := "\n".intercalate [
  "assetexport - glTF asset export pipeline",
  "",
  "Usage:",
  "  assetexport [flags] <command> [options]",
  "",
  "Flags:",
  "  -config <file>     Config file (default ./assetexport.yaml)",
  "  -root <dir>        Project root with assets/, export/ and temp/",
  "  -platform <name>   Mesh platform: pc, ps3, xbox360",
  "  -force             Export even when nothing is stale",
  "  -debug             Debug logging",
  "  -log <file>        Also log to a rotating file",
  "  -metrics <file>    Write Prometheus textfile metrics after the run",
  "",
  "Commands:",
  "  file <asset>                Export one asset (src:props/chair.glb or props/chair.glb)",
  "  dir <category>              Export every source document in a category",
  "  all                         Export every category",
  "  check <asset>               Show the dependency checks of an asset",
  "  paths <asset>               Show every derived artifact location",
  "  texture <image> <out_dir>   Convert a single image file",
  "  inspect <mesh>              Show the contents of a binary mesh",
  "  init [-global]              Write the effective config to assetexport.yaml",
  "",
  "Examples:",
  "  assetexport -root ./game file props/chair.glb",
  "  assetexport -platform ps3 dir props",
  "  assetexport -force -metrics export.prom all",
  "  assetexport check props/chair.glb",
  ""]

/-- What the program can be asked to do. -/
inductive Command where
  /-- One asset is exported. -/
  | file (asset : String)
  /-- A category is exported. -/
  | dir (category : String)
  /-- All categories are exported. -/
  | all
  /-- The checks of an asset are shown. -/
  | check (asset : String)
  /-- The locations of an asset are shown. -/
  | paths (asset : String)
  /-- A picture is converted, with a limit of its own if that is positive. -/
  | texture (maxSize : Int) (image outDir : String)
  /-- A mesh is shown, with or without its groups. -/
  | inspect (groups : Bool) (mesh : String)
  /-- The configuration is written, for the user or here, over an old one or not. -/
  | init (forUser overwrite : Bool)
  /-- The help text is shown. -/
  | help
deriving DecidableEq, Inhabited

/-- A command with what is said about the configuration. -/
structure Request where
  /-- What is said about the configuration. -/
  overrides : Overrides := {}
  /-- The command. -/
  command : Command
deriving DecidableEq, Inhabited

/-! ## Flags -/

/-- The flags in front of a command. -/
def globalFlags : List Flag := [
  { name := "config", kind := .text }, { name := "debug", kind := .switch },
  { name := "root", kind := .text }, { name := "platform", kind := .text },
  { name := "force", kind := .switch }, { name := "log", kind := .text },
  { name := "metrics", kind := .text }]

/-- The flags of `texture`. -/
def textureFlags : List Flag :=
  [{ name := "max", kind := .number, about := "Maximum width/height (0 = config value)" }]

/-- The flags of `inspect`. -/
def inspectFlags : List Flag :=
  [{ name := "groups", kind := .switch, about := "List index groups", usual := "true" }]

/-- The flags of `init`. -/
def initFlags : List Flag := [
  { name := "f", kind := .switch, about := "Overwrite an existing file" },
  { name := "global", kind := .switch, about := "Write to the user config directory" }]

/-- What the flags in front of a command say about the configuration. -/
def overridesOf (a : Arguments) : Overrides :=
  { file := a.text "config", debug := a.switch "debug" false, root := a.text "root"
    platform := a.text "platform", force := a.switch "force" false, logFile := a.text "log"
    metricsFile := a.text "metrics" }

/-- Arguments that are read, or the end of the command with the help that it gives. -/
def arguments (flags : List Flag) (help : Action Unit) (args : List String) : Action Arguments :=
  match Arguments.parse flags args with
  | .ok a => return a
  | .error .help => do
    help
    exit 0
  | .error (.fault text) => do
    complain (text ++ "\n")
    help
    exit 2

/-- The arguments of a command with flags of its own. -/
def ownArguments (command : String) (flags : List Flag) (args : List String) : Action Arguments :=
  arguments flags (complain (flagHelp command flags)) args

/-- The end of a command whose arguments are missing. -/
def misused {α : Type} (form : String) : Action α := do
  complain ("Usage: assetexport " ++ form ++ "\n")
  exit 1

/-- The command of a name with its arguments. -/
def commandOf (name : String) (args : List String) : Action Command :=
  match name, args with
  | "file", asset :: _ => return .file asset
  | "file", [] => misused "file <asset>"
  | "dir", category :: _ => return .dir category
  | "dir", [] => misused "dir <category>"
  | "all", _ => return .all
  | "check", asset :: _ => return .check asset
  | "check", [] => misused "check <asset>"
  | "paths", asset :: _ => return .paths asset
  | "paths", [] => misused "paths <asset>"
  | "texture", args => texture args
  | "tex", args => texture args
  | "inspect", args => do
    let a ← ownArguments "inspect" inspectFlags args
    match a.rest with
    | mesh :: _ => return .inspect (a.switch "groups" true) mesh
    | [] => misused "inspect [-groups=false] <mesh>"
  | "init", args => do
    let a ← ownArguments "init" initFlags args
    return .init (a.switch "global" false) (a.switch "f" false)
  | "help", _ => return .help
  | "-h", _ => return .help
  | "--help", _ => return .help
  | name, _ => do
    complain ("Unknown command: " ++ name ++ "\n")
    say usage
    exit 1
where
  /-- The command that converts a picture. -/
  texture (args : List String) : Action Command := do
    let a ← ownArguments "texture" textureFlags args
    match a.rest with
    | image :: outDir :: _ => return .texture (a.number "max" 0) image outDir
    | _ => misused "texture [-max N] <image> <out_dir>"

/-- The request that arguments stand for. -/
def request (args : List String) : Action Request := do
  let a ← arguments globalFlags (say usage) args
  match a.rest with
  | name :: rest => return { overrides := overridesOf a, command := ← commandOf name rest }
  | [] => do
    say usage
    exit 1

end SceneForge.Cli
