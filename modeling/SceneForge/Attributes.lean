import SceneForge.Depot.Files
import SceneForge.Settings
import SceneForge.Yaml.Reader
import SceneForge.Yaml.Writer

set_option autoImplicit false

/-!
# Attribute files

An asset may have a file next to its source that changes how it is exported. What the file does not
mention is taken from the settings it is laid over.

## Main definitions

* `SceneForge.Attributes` — what an attribute file says.
* `SceneForge.Settings.overlay` — settings with an attribute file laid over them.
* `SceneForge.Settings.render` — settings as an attribute file.
* `SceneForge.Job.settingsFor` — the settings of an asset.
-/

namespace SceneForge

/-- What an attribute file says. -/
structure Attributes where
  /-- The mode, if given. -/
  mode : Option Mode := none
  /-- The scale, if given. -/
  scale : Option Single := none
  /-- The names of the flags, if given. -/
  flags : Option (List String) := none

namespace Attributes

/-- Reading a mode by its name. -/
def modeDecoder : Yaml.Decoder Mode := Yaml.parsed fun s => (Mode.ofName s).mapError (·.message)

/-- Reading an attribute file. -/
def decoder : Yaml.Decoder Attributes := Yaml.record "Attributes" false [
  Yaml.field "mode" (·.mode) (fun a v => { a with mode := v })
    (Yaml.optional .static modeDecoder),
  Yaml.field "scale" (·.scale) (fun a v => { a with scale := v }) (Yaml.optional 0 Yaml.single),
  Yaml.field "flags" (·.flags) (fun a v => { a with flags := v })
    (Yaml.optional [] (Yaml.list "" Yaml.text))]

end Attributes

namespace Settings

/-- The settings with an attribute file laid over them. -/
def overlay (base : Settings) (file : Bytes) : Except Failure Settings := do
  let invalid (reason : String) : Failure := ⟨.invalidSettings, [reason]⟩
  let a ← (Yaml.decode Attributes.decoder {} file).mapError invalid
  let flags ← match a.flags with
    | some names => (Flags.ofNames names).mapError fun f => invalid f.message
    | none => .ok base.flags
  let s : Settings := { flags, mode := a.mode.getD base.mode, scale := a.scale.getD base.scale }
  s.validate
  return s

/-- The settings as an attribute file. -/
def render (s : Settings) : String :=
  Yaml.render 4 [("mode", .text s.mode.name), ("scale", .single s.scale),
    ("flags", .seq (s.flags.names.map .text))]

end Settings

/-- The settings of an asset: the defaults, with its attribute file laid over them if there is
one. -/
def Job.settingsFor (defaults : Settings) (id : AssetId) : Job Settings := do
  let uri := id.attributes
  if ← look (·.fileExists uri) then
    let file ← readAll uri
    ofExcept (inContext uri (defaults.overlay file))
  else
    ofExcept defaults.validate
    return defaults

end SceneForge
