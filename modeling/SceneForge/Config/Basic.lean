import SceneForge.Export.Batch
import SceneForge.Yaml.Reader
import SceneForge.Yaml.Writer

set_option autoImplicit false

/-!
# Configuration

Everything that a run of the exporter can be told beforehand. A configuration keeps names as they
were written, so that it is saved as it was read; `validate` decides whether they stand for
anything.

## Main definitions

* `SceneForge.Config` — a configuration, with the defaults of every value.
* `SceneForge.Config.decoder`, `SceneForge.Config.render` — reading and writing.
* `SceneForge.Config.bindings`, `SceneForge.Config.target`, `SceneForge.Config.settings` — what the
  names stand for.
* `SceneForge.Config.validate` — whether all of them stand for something.
-/

namespace SceneForge

/-- A configuration. -/
structure Config where
  /-- The project root. -/
  root : String := "."
  /-- Directories of areas that do not lie below the root. -/
  assigns : List (String × String) := []
  /-- The name of the target platform. -/
  platform : String := "pc"
  /-- The patterns of source documents. -/
  patterns : List String := Batch.usualPatterns
  /-- Whether assets are exported that are up to date. -/
  force : Bool := false
  /-- The name of the mode of assets that have none of their own. -/
  mode : String := "static"
  /-- The names of the flags of assets that have none of their own. -/
  flags : List String := []
  /-- The scale of assets that have none of their own. -/
  scale : Single := 1
  /-- What textures are held to. -/
  limits : Texture.Limits := {}
  /-- The name of the least severity that is logged. -/
  level : String := "info"
  /-- The file that is logged to, if any. -/
  logFile : String := ""
  /-- The file that metrics are written to, if any. -/
  metricsFile : String := ""
deriving DecidableEq, Inhabited

namespace Config

/-! ## Reading -/

/-- The names that complaints call the parts of a configuration by. -/
def typeName (part : String) : String := "config." ++ part

/-- Reading how assets are exported. -/
def exportDecoder : Yaml.Decoder Config := Yaml.record (typeName "ExportConfig") true [
  Yaml.field "platform" (·.platform) (fun c v => { c with platform := v }) Yaml.text,
  Yaml.field "patterns" (·.patterns) (fun c v => { c with patterns := v }) (Yaml.list "" Yaml.text),
  Yaml.field "force" (·.force) (fun c v => { c with force := v }) Yaml.bool,
  Yaml.field "mode" (·.mode) (fun c v => { c with mode := v }) Yaml.text,
  Yaml.field "flags" (·.flags) (fun c v => { c with flags := v }) (Yaml.list "" Yaml.text),
  Yaml.field "scale" (·.scale) (fun c v => { c with scale := v }) Yaml.single]

/-- Reading what textures are held to. -/
def textureDecoder : Yaml.Decoder Texture.Limits := Yaml.record (typeName "TextureConfig") true [
  Yaml.field "max_size" (·.maxSize) (fun l v => { l with maxSize := v }) Yaml.int,
  Yaml.field "jpeg_quality" (·.quality) (fun l v => { l with quality := v }) Yaml.int]

/-- Reading what is logged. -/
def loggingDecoder : Yaml.Decoder Config := Yaml.record (typeName "LoggingConfig") true [
  Yaml.field "level" (·.level) (fun c v => { c with level := v }) Yaml.text,
  Yaml.field "log_file" (·.logFile) (fun c v => { c with logFile := v }) Yaml.text]

/-- Reading where metrics go. -/
def metricsDecoder : Yaml.Decoder Config := Yaml.record (typeName "MetricsConfig") true [
  Yaml.field "textfile" (·.metricsFile) (fun c v => { c with metricsFile := v }) Yaml.text]

/-- Reading a configuration. A key that has no meaning is refused. -/
def decoder : Yaml.Decoder Config := Yaml.record (typeName "Config") true [
  Yaml.field "root" (·.root) (fun c v => { c with root := v }) Yaml.text,
  Yaml.field "assigns" (·.assigns) (fun c v => { c with assigns := v }) Yaml.table,
  Yaml.field "export" id (fun _ v => v) exportDecoder,
  Yaml.field "texture" (·.limits) (fun c v => { c with limits := v }) textureDecoder,
  Yaml.field "logging" id (fun _ v => v) loggingDecoder,
  Yaml.field "metrics" id (fun _ v => v) metricsDecoder]

/-! ## Writing -/

/-- The first line of a saved configuration. -/
def heading : String := "# assetexport configuration\n"

/-- The configuration as it is written. -/
def entries (c : Config) : List (String × Yaml.Value) := [
  ("root", .text c.root),
  ("assigns", .map ((Yaml.sorted c.assigns).map fun b => (b.1, .text b.2))),
  ("export", .map [
    ("platform", .text c.platform), ("patterns", .seq (c.patterns.map .text)),
    ("force", .bool c.force), ("mode", .text c.mode), ("flags", .seq (c.flags.map .text)),
    ("scale", .single c.scale)]),
  ("texture", .map [("max_size", .int c.limits.maxSize), ("jpeg_quality", .int c.limits.quality)]),
  ("logging", .map [("level", .text c.level), ("log_file", .text c.logFile)]),
  ("metrics", .map [("textfile", .text c.metricsFile)])]

/-- The text of a saved configuration. -/
def render (c : Config) : String := heading ++ Yaml.render 2 c.entries

/-! ## Meaning -/

/-- The directories of all areas: below the root, unless assigned elsewhere. -/
def bindings (c : Config) : List (String × String) :=
  (Assigns.layout c.root).map (fun b => (b.1, (c.assigns.lookup b.1).getD b.2)) ++
    c.assigns.filter fun b => !(Area.all.map Area.tag).contains b.1

/-- The target platform. -/
def target (c : Config) : Except Failure Platform := Platform.ofName c.platform

/-- The settings of assets that have none of their own. -/
def settings (c : Config) : Except Failure Settings := do
  let mode ← Mode.ofName c.mode
  let flags ← Flags.ofNames c.flags
  let s : Settings := { flags, mode, scale := c.scale }
  s.validate
  return s

/-- Every value has to be one that an export can work with. -/
def validate (c : Config) : Except Failure Unit := do
  let _ ← c.target
  let _ ← c.settings
  if c.limits.maxSize ≤ 0 then
    throw (.plain ("texture.max_size must be positive, got " ++ toString c.limits.maxSize))
  if c.limits.quality < 1 ∨ 100 < c.limits.quality then
    throw (.plain ("texture.jpeg_quality must be within 1..100, got " ++ toString c.limits.quality))
  match c.assigns.find? fun b => !(Area.all.map Area.tag).contains b.1 with
  | some (tag, _) => throw (.plain ("assigns: unknown prefix " ++ Text.quote tag))
  | none => return ()

end Config

end SceneForge
