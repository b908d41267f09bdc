import SceneForge.Config.Basic
import SceneForge.Host.Files

set_option autoImplicit false

/-!
# Configuration files

A configuration starts from the defaults; a file is laid over them, and what the command line says
is laid over the file. The file is the one that the command line or the environment names, or the
first that is found.

## Main definitions

* `SceneForge.Overrides` — what the command line says about the configuration.
* `SceneForge.Config.overlay` — a configuration with a file laid over it.
* `SceneForge.Config.load` — the configuration of a run.
* `SceneForge.Config.save` — a configuration is written.
-/

namespace SceneForge

/-- What the command line says about the configuration; an empty text says nothing. -/
structure Overrides where
  /-- The configuration file. -/
  file : String := ""
  /-- Whether everything is logged. -/
  debug : Bool := false
  /-- The project root. -/
  root : String := ""
  /-- The name of the target platform. -/
  platform : String := ""
  /-- Whether assets are exported that are up to date. -/
  force : Bool := false
  /-- The file that is logged to. -/
  logFile : String := ""
  /-- The file that metrics are written to. -/
  metricsFile : String := ""
deriving DecidableEq, Inhabited

namespace Config

/-- The name of configuration files. -/
def fileName : String := "assetexport.yaml"

/-- The variable that names the configuration file. -/
def variableName : String := "ASSETEXPORT_CONFIG"

/-- The user's configuration file. -/
def userFile (h : Host) : String := Path.joinAll [h.configDir, fileName]

/-- The configuration files that are looked for, the first choice first. -/
def candidates (h : Host) (root : String) : List String :=
  (if root = "" then [] else [Path.joinAll [root, fileName]]) ++ ["./" ++ fileName, userFile h]

/-- The configuration file of a run, if there is one. -/
def chosenFile (h : Host) (o : Overrides) (t : Tree) : Option String :=
  let named := if o.file = "" then h.env variableName else o.file
  if named ≠ "" then some named else (candidates h o.root).find? (h.isFile t)

/-- A root as a file at some path gives it: relative to the directory of the file. -/
def rootFrom (path usual given : String) : String :=
  if given = "" then usual
  else if Path.isRooted given.toList then given
  else Path.joinAll [Path.dir path, given]

/-- The configuration with the file at some path laid over it. -/
def overlay (c : Config) (path : String) (file : Bytes) : Except Failure Config := do
  let read ← (Yaml.decode decoder { c with root := "" } file).mapError Failure.plain
  return { read with root := rootFrom path c.root read.root }

/-- A text, unless another one says something. -/
def orElse (given usual : String) : String := if given = "" then usual else given

/-- The configuration with the command line laid over it. -/
def override (c : Config) (o : Overrides) : Config :=
  { c with
    level := if o.debug then "debug" else c.level
    root := orElse o.root c.root
    platform := orElse o.platform c.platform
    force := o.force || c.force
    logFile := orElse o.logFile c.logFile
    metricsFile := orElse o.metricsFile c.metricsFile }

/-- The defaults with the configuration file at a path laid over them. -/
def read (h : Host) (t : Tree) (path : String) : Except Failure Config := do
  ({} : Config).overlay path (← h.contents t path)

/-- The configuration of a run. -/
def load (h : Host) (o : Overrides) (t : Tree) : Except Failure Config := do
  let base ← match chosenFile h o t with
    | none => pure {}
    | some path => inContext ("loading config from " ++ path) (read h t path)
  let c := base.override o
  inContext "invalid config" c.validate
  return c

/-- The configuration is written to a path, replacing what was there at once. -/
def save (c : Config) (h : Host) (path : String) : Job Unit := do
  h.makeDirs (Path.dir path)
  h.replace path (path ++ ".tmp") (utf8 c.render)

end Config

end SceneForge
