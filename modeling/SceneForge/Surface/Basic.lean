import SceneForge.Depot.Files
import SceneForge.Geometry.Vec3
import SceneForge.Yaml.Reader
import SceneForge.Yaml.Writer

set_option autoImplicit false

/-!
# Surfaces

A surface says how a material is drawn: a shader template and the values bound to its parameters.

## Main definitions

* `SceneForge.Binding`, `SceneForge.Surface` — parameters and surfaces.
* `SceneForge.Surface.lookup` — the binding of a parameter.
* `SceneForge.Surface.save`, `SceneForge.Surface.load` — surface files.
-/

namespace SceneForge

/-- What a parameter is bound to. -/
inductive BindingValue where
  /-- A texture, by its reference. -/
  | texture (ref : String)
  /-- Four numbers. -/
  | vec4 (v : Vec4 Single)
  /-- One number. -/
  | scalar (x : Single)
  /-- A kind that no surface can have, by its number. -/
  | unknown (kind : Int)
deriving DecidableEq, Inhabited

/-- The name of a kind of value. -/
def BindingValue.kindName : BindingValue → String
  | texture _ => "texture"
  | vec4 _ => "vec4"
  | scalar _ => "scalar"
  | unknown _ => "unknown"

/-- A parameter with its value. -/
structure Binding where
  /-- The parameter. -/
  name : String
  /-- Its value. -/
  value : BindingValue
deriving DecidableEq, Inhabited

/-- A shader template with its bindings. -/
structure Surface where
  /-- The name of the material. -/
  name : String := ""
  /-- The template. -/
  template : String := ""
  /-- The bindings, in order. -/
  bindings : List Binding := []
deriving DecidableEq, Inhabited

namespace Binding

/-- The value of a binding under its kind. -/
def entry (b : Binding) : Except Failure (String × Yaml.Value) :=
  match b.value with
  | .texture ref => .ok ("texture", .text ref)
  | .vec4 v => .ok ("vec4", .row (v.toList.map .single))
  | .scalar x => .ok ("scalar", .single x)
  | .unknown kind => .error (.plain ("surface: binding " ++ Text.quote b.name ++
      " has unknown kind " ++ toString kind))

/-- A binding in a file: its parameter, and its value under its kind. -/
def toYaml (b : Binding) : Except Failure Yaml.Value := do
  let (kind, value) ← b.entry
  return .map [("name", .text b.name), (kind, value)]

/-- What an entry of a surface file says. -/
structure Draft where
  /-- The parameter. -/
  name : String := ""
  /-- A texture, if given. -/
  texture : Option String := none
  /-- Four numbers, if given. -/
  vec4 : Option (List Single) := none
  /-- One number, if given. -/
  scalar : Option Single := none

/-- Reading an entry of a surface file. -/
def Draft.decoder : Yaml.Decoder Draft := Yaml.record "Draft" false [
  Yaml.field "name" (·.name) (fun d v => { d with name := v }) Yaml.text,
  Yaml.field "texture" (·.texture) (fun d v => { d with texture := v })
    (Yaml.optional "" Yaml.text),
  Yaml.field "vec4" (·.vec4) (fun d v => { d with vec4 := v })
    (Yaml.optional [0, 0, 0, 0] (Yaml.vector 0 Yaml.single)),
  Yaml.field "scalar" (·.scalar) (fun d v => { d with scalar := v })
    (Yaml.optional 0 Yaml.single)]

/-- The values that an entry gives. -/
def Draft.values (d : Draft) : List BindingValue :=
  (d.texture.map BindingValue.texture).toList ++
  (d.vec4.map fun v => BindingValue.vec4 ⟨v.getD 0 0, v.getD 1 0, v.getD 2 0, v.getD 3 0⟩).toList ++
  (d.scalar.map BindingValue.scalar).toList

/-- Reading a binding: an entry with exactly one value. -/
def decoder : Yaml.Decoder Binding := fun n _ => do
  if ← Yaml.isNull n then return none
  let before ← get
  let draft ← Draft.decoder n {}
  if (← get).length > before.length then return none
  let d := draft.getD {}
  match d.values with
  | [v] => return some ⟨d.name, v⟩
  | vs => throw ("surface: binding " ++ Text.quote d.name ++ " needs exactly one value, has " ++
      toString vs.length)

end Binding

namespace Surface

/-- The first binding of a parameter. -/
def lookup (s : Surface) (name : String) : Option Binding :=
  s.bindings.find? fun b => b.name == name

/-- Reading a surface. -/
def decoder : Yaml.Decoder Surface := Yaml.record "Surface" false [
  Yaml.field "name" (·.name) (fun s v => { s with name := v }) Yaml.text,
  Yaml.field "template" (·.template) (fun s v => { s with template := v }) Yaml.text,
  Yaml.field "params" (·.bindings) (fun s v => { s with bindings := v })
    (Yaml.list default Binding.decoder)]

/-- The entries of a surface file. -/
def entries (s : Surface) : Except Failure (List (String × Yaml.Value)) := do
  let params ← s.bindings.mapM Binding.toYaml
  return [("name", .text s.name), ("template", .text s.template), ("params", .seq params)]

/-- The text of a surface file. -/
def render (s : Surface) : Except Failure String := do
  return Yaml.render 4 (← s.entries)

/-- A surface is written to a file. -/
def save (uri : String) (s : Surface) : Job Unit := do
  let text ← Job.within ("encoding surface " ++ s.name) (Job.ofExcept s.render)
  Job.writeAll uri (utf8 text)

/-- The surface in a file. -/
def load (uri : String) : Job Surface := do
  let data ← Job.readAll uri
  match Yaml.decode decoder {} data with
  | .ok s => return s
  | .error e => Job.fail ((Failure.plain e).within ("decoding surface " ++ uri))

end Surface

end SceneForge
