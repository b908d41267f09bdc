import SceneForge.Failure
import SceneForge.Number.Shortest
import SceneForge.Text.Case
import SceneForge.Text.Quoted

set_option autoImplicit false

/-!
# Export settings

## Main definitions

* `SceneForge.Flags`, `SceneForge.Mode`, `SceneForge.Settings` — how an asset is exported.
* `SceneForge.Settings.validate` — the scale has to be positive.
-/

namespace SceneForge

/-- How vertex data is copied. -/
structure Flags where
  /-- The second texture coordinate `v` becomes `1 - v`. -/
  flipUVs : Bool := false
  /-- Normals are derived for primitives that have none. -/
  calcNormals : Bool := false
deriving DecidableEq, Inhabited

namespace Flags

/-- The names of the flags that are set, in a fixed order. -/
def names (f : Flags) : List String :=
  (if f.flipUVs then ["flip_uvs"] else []) ++ (if f.calcNormals then ["calc_normals"] else [])

/-- One more flag, by its name in any case. -/
def add (f : Flags) (name : String) : Except Failure Flags :=
  if Text.equalFold name "flip_uvs" then .ok { f with flipUVs := true }
  else if Text.equalFold name "calc_normals" then .ok { f with calcNormals := true }
  else .error (.plain ("scene: unknown export flag " ++ Text.quote name))

/-- The flags with the given names. -/
def ofNames (names : List String) : Except Failure Flags := names.foldlM add {}

end Flags

/-- What kind of asset is exported. -/
inductive Mode where
  /-- Geometry only. -/
  | static
  /-- Geometry with a skeleton and skin weights. -/
  | character
deriving DecidableEq, Inhabited

namespace Mode

/-- The name of a mode. -/
def name : Mode → String
  | static => "static"
  | character => "character"

/-- The mode with the given name, in any case; no name at all means static. -/
def ofName (s : String) : Except Failure Mode :=
  match Text.toLower s with
  | "static" => .ok static
  | "" => .ok static
  | "character" => .ok character
  | _ => .error (.plain ("scene: unknown export mode " ++ Text.quote s))

end Mode

/-- The settings of one export. -/
structure Settings where
  /-- How vertex data is copied. -/
  flags : Flags := {}
  /-- What kind of asset is exported. -/
  mode : Mode := .static
  /-- The factor applied to the whole scene. -/
  scale : Single := 1
deriving DecidableEq, Inhabited

/-- The scale has to be positive; a NaN is not. -/
def Settings.validate (s : Settings) : Except Failure Unit :=
  if Single.lt 0 s.scale then .ok ()
  else .error ⟨.invalidSettings, ["scale must be positive, got " ++ s.scale.text]⟩

end SceneForge
