import SceneForge.Attributes
import SceneForge.Mesh.Basic

set_option autoImplicit false

/-!
# Models

A model ties the mesh of an asset to its surfaces and joints; a physics model says how it collides.

## Main definitions

* `SceneForge.Model`, `SceneForge.PhysicsModel`, `SceneForge.Physics`.
* `SceneForge.Model.render`, `SceneForge.PhysicsModel.render` — their files.
* `SceneForge.Model.load`, `SceneForge.PhysicsModel.load` — reading them back.
-/

namespace SceneForge

namespace Model

/-- A group of the mesh with its surface. -/
structure Part where
  /-- Name of the group. -/
  name : String := ""
  /-- The surface, empty if the group has no material. -/
  surface : String := ""
  /-- Position of the first vertex number. -/
  firstIndex : Int := 0
  /-- How many vertex numbers there are. -/
  indexCount : Int := 0
deriving DecidableEq, Inhabited

/-- A joint of the skeleton. -/
structure Joint where
  /-- Name. -/
  name : String := ""
  /-- The parent joint, -1 for none. -/
  parent : Int := 0
deriving DecidableEq, Inhabited

end Model

/-- A model. -/
structure Model where
  /-- Name of the asset. -/
  name : String := ""
  /-- Category of the asset. -/
  category : String := ""
  /-- What kind of asset it is. -/
  mode : Mode := .static
  /-- The names of the flags it was exported with. -/
  flags : List String := []
  /-- The scale it was exported with. -/
  scale : Single := 0
  /-- The mesh. -/
  mesh : String := ""
  /-- The box around the mesh. -/
  bounds : Bounds := {}
  /-- The groups of the mesh. -/
  parts : List Model.Part := []
  /-- The joints. -/
  joints : List Model.Joint := []
deriving DecidableEq, Inhabited

/-- What a physics description says. -/
structure Physics where
  /-- The shape that collides. -/
  collider : String := "none"
  /-- The mass. -/
  mass : Single := 0
deriving DecidableEq, Inhabited

/-- A physics model. -/
structure PhysicsModel where
  /-- Name of the asset. -/
  name : String := ""
  /-- The shape that collides. -/
  collider : String := ""
  /-- The mass. -/
  mass : Single := 0
  /-- The box that collides. -/
  bounds : Option Bounds := none
  /-- The mesh that collides, empty for none. -/
  mesh : String := ""
deriving DecidableEq, Inhabited

/-! ## Boxes -/

namespace Bounds

/-- A box in a file. -/
def entries (b : Bounds) : List (String × Yaml.Value) :=
  [("min", .seq (b.min.toList.map .single)), ("max", .seq (b.max.toList.map .single))]

/-- Reading a corner. -/
def cornerDecoder : Yaml.Decoder (Vec3 Single) := fun n v => do
  match ← Yaml.vector 0 Yaml.single n v.toList with
  | some [x, y, z] => return some ⟨x, y, z⟩
  | _ => return none

/-- Reading a box. -/
def decoder : Yaml.Decoder Bounds := Yaml.record "Bounds" false [
  Yaml.field "min" (·.min) (fun b v => { b with min := v }) cornerDecoder,
  Yaml.field "max" (·.max) (fun b v => { b with max := v }) cornerDecoder]

end Bounds

/-- An entry that is left out if it is empty. -/
def unlessEmpty (name text : String) : List (String × Yaml.Value) :=
  if text.isEmpty then [] else [(name, .text text)]

/-- A file read as a value. -/
def loadYaml {α : Type} (d : Yaml.Decoder α) (start : α) (uri : String) : Job α := do
  let data ← Job.readAll uri
  match Yaml.decode d start data with
  | .ok v => return v
  | .error e => Job.fail ((Failure.plain e).within ("decoding " ++ uri))

/-! ## Models -/

namespace Model

/-- A group in a file. -/
def Part.value (p : Part) : Yaml.Value :=
  .map ([("name", .text p.name)] ++ unlessEmpty "surface" p.surface ++
    [("first_index", .int p.firstIndex), ("index_count", .int p.indexCount)])

/-- Reading a group. -/
def Part.decoder : Yaml.Decoder Part := Yaml.record "Part" false [
  Yaml.field "name" (·.name) (fun p v => { p with name := v }) Yaml.text,
  Yaml.field "surface" (·.surface) (fun p v => { p with surface := v }) Yaml.text,
  Yaml.field "first_index" (·.firstIndex) (fun p v => { p with firstIndex := v }) Yaml.int,
  Yaml.field "index_count" (·.indexCount) (fun p v => { p with indexCount := v }) Yaml.int]

/-- Reading a joint. -/
def Joint.decoder : Yaml.Decoder Joint := Yaml.record "Joint" false [
  Yaml.field "name" (·.name) (fun j v => { j with name := v }) Yaml.text,
  Yaml.field "parent" (·.parent) (fun j v => { j with parent := v }) Yaml.int]

/-- Reading a model. -/
def decoder : Yaml.Decoder Model := Yaml.record "Model" false [
  Yaml.field "name" (·.name) (fun m v => { m with name := v }) Yaml.text,
  Yaml.field "category" (·.category) (fun m v => { m with category := v }) Yaml.text,
  Yaml.field "mode" (·.mode) (fun m v => { m with mode := v }) Attributes.modeDecoder,
  Yaml.field "flags" (·.flags) (fun m v => { m with flags := v }) (Yaml.list "" Yaml.text),
  Yaml.field "scale" (·.scale) (fun m v => { m with scale := v }) Yaml.single,
  Yaml.field "mesh" (·.mesh) (fun m v => { m with mesh := v }) Yaml.text,
  Yaml.field "bounds" (·.bounds) (fun m v => { m with bounds := v }) Bounds.decoder,
  Yaml.field "groups" (·.parts) (fun m v => { m with parts := v }) (Yaml.list {} Part.decoder),
  Yaml.field "joints" (·.joints) (fun m v => { m with joints := v }) (Yaml.list {} Joint.decoder)]

/-- A list that is left out if it is empty. -/
def unlessNil (name : String) (items : List Yaml.Value) : List (String × Yaml.Value) :=
  if items.isEmpty then [] else [(name, .seq items)]

/-- A joint in a file. -/
def Joint.value (j : Joint) : Yaml.Value :=
  .map [("name", .text j.name), ("parent", .int j.parent)]

/-- The entries of a model file. -/
def entries (m : Model) : List (String × Yaml.Value) :=
  [("name", .text m.name), ("category", .text m.category), ("mode", .text m.mode.name)] ++
    unlessNil "flags" (m.flags.map .text) ++
    [("scale", .single m.scale), ("mesh", .text m.mesh), ("bounds", .map m.bounds.entries),
      ("groups", .seq (m.parts.map Part.value))] ++
    unlessNil "joints" (m.joints.map Joint.value)

/-- The text of a model file. -/
def render (m : Model) : String := Yaml.render 4 m.entries

/-- The model in a file. -/
def load (uri : String) : Job Model := loadYaml decoder {} uri

end Model

/-! ## Physics -/

namespace Physics

/-- Reading a physics description. -/
def decoder : Yaml.Decoder Physics := Yaml.record "Physics" false [
  Yaml.field "collider" (·.collider) (fun p v => { p with collider := v }) Yaml.text,
  Yaml.field "mass" (·.mass) (fun p v => { p with mass := v }) Yaml.single]

/-- The shapes that can collide. -/
def colliders : List String := ["none", "box", "mesh"]

/-- The physics description of a file: the shape in any case, empty for none, and no negative
mass. -/
def parse (uri : String) (data : Bytes) : Except Failure Physics := do
  let invalid (reason : String) : Failure := ⟨.invalidPhysics, [uri ++ ": " ++ reason]⟩
  let p ← (Yaml.decode decoder {} data).mapError invalid
  let named := Text.toLower p.collider
  let collider := if named.isEmpty then "none" else named
  if !colliders.contains collider then
    throw (invalid ("unknown collider " ++ Text.quote collider))
  if p.mass.lt 0 then throw (invalid "negative mass")
  return { p with collider }

end Physics

namespace PhysicsModel

/-- Reading a physics model. -/
def decoder : Yaml.Decoder PhysicsModel := Yaml.record "PhysicsModel" false [
  Yaml.field "name" (·.name) (fun m v => { m with name := v }) Yaml.text,
  Yaml.field "collider" (·.collider) (fun m v => { m with collider := v }) Yaml.text,
  Yaml.field "mass" (·.mass) (fun m v => { m with mass := v }) Yaml.single,
  Yaml.field "bounds" (·.bounds) (fun m v => { m with bounds := v })
    (Yaml.optional {} Bounds.decoder),
  Yaml.field "mesh" (·.mesh) (fun m v => { m with mesh := v }) Yaml.text]

/-- The text of a physics model file. -/
def render (m : PhysicsModel) : String :=
  Yaml.render 4 ([("name", .text m.name), ("collider", .text m.collider)] ++
    (if m.mass.same 0 then [] else [("mass", .single m.mass)]) ++
    (m.bounds.map fun b => ("bounds", Yaml.Value.map b.entries)).toList ++
    unlessEmpty "mesh" m.mesh)

/-- The physics model in a file. -/
def load (uri : String) : Job PhysicsModel := loadYaml decoder {} uri

end PhysicsModel

end SceneForge
