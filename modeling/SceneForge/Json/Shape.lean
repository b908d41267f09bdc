import SceneForge.Json.Basic
import SceneForge.Number.Binary
import SceneForge.Text.Case

set_option autoImplicit false

/-!
# Shapes of JSON values

A shape says which values a place admits. Null is admitted everywhere and stands for the default.
Fields are found whatever the case of their letters; unknown ones are admitted.

## Main definitions

* `SceneForge.Json.Shape` — a test of values, with one definition per kind of place.
* `SceneForge.Json.Value.field` and its companions — the contents of a value, with defaults.
-/

namespace SceneForge.Json

/-! ## Contents -/

/-- The single-precision number of a numeral, if it does not exceed the range. -/
def Numeral.single? (n : Numeral) : Option Single :=
  let x := Single.ofDecimal n.negative n.digits n.exponent
  if x.isFinite then some x else none

/-- The natural number of a numeral that is written as one. -/
def Numeral.natural? (n : Numeral) : Option Nat := if n.plain then some n.digits else none

namespace Value

/-- Whether a value is null. -/
def isNull : Value → Bool
  | null => true
  | _ => false

/-- The latest field of a name that holds more than null. -/
def get? (v : Value) (name : String) : Option Value :=
  match v with
  | object fields =>
    (fields.reverse.find? fun f => Text.equalFold f.1 name && !f.2.isNull).map (·.2)
  | _ => none

/-- A field, or null. -/
def field (v : Value) (name : String) : Value := (v.get? name).getD null

/-- The items of a list. -/
def items : Value → List Value
  | array vs => vs
  | _ => []

/-- A text, empty by default. -/
def textD : Value → String
  | text s => s
  | _ => ""

/-- A natural number. -/
def natural? : Value → Option Nat
  | number n => n.natural?
  | _ => none

/-- A natural number, zero by default. -/
def naturalD (v : Value) : Nat := v.natural?.getD 0

/-- A single-precision number. -/
def single? : Value → Option Single
  | number n => n.single?
  | _ => none

/-- The numbers of a vector with the given defaults. Numbers that are left out are zero, extra ones
are dropped, and null stands for the default. -/
def vector (v : Value) (defaults : List Single) : List Single :=
  match v with
  | array vs => defaults.zipIdx.map fun (d, i) =>
    match vs[i]? with
    | none => 0
    | some v => v.single?.getD d
  | _ => defaults

end Value

/-! ## Shapes -/

/-- A test of the values that a place admits. -/
abbrev Shape := Value → Bool

namespace Shape

/-- Every value. -/
def any : Shape := fun _ => true

/-- Texts. -/
def text : Shape
  | .null => true
  | .text _ => true
  | _ => false

/-- Truth values. -/
def flag : Shape
  | .null => true
  | .bool _ => true
  | _ => false

/-- Natural numbers of so many bits. -/
def natural (bits : Nat) : Shape
  | .null => true
  | .number n => n.plain && n.digits < Nat.pow 2 bits
  | _ => false

/-- Indices. -/
def index : Shape := natural 32

/-- Single-precision numbers. -/
def real : Shape
  | .null => true
  | .number n => n.single?.isSome
  | _ => false

/-- Lists of any length. -/
def list (item : Shape) : Shape
  | .null => true
  | .array vs => vs.all item
  | _ => false

/-- Lists of which only the first items count. -/
def vector (length : Nat) : Shape
  | .null => true
  | .array vs => (vs.take length).all real
  | _ => false

/-- Objects with fields of any name. -/
def table (item : Shape) : Shape
  | .null => true
  | .object fields => fields.all fun f => item f.2
  | _ => false

/-- Objects with fields of known names among others. -/
def record (known : List (String × Shape)) : Shape
  | .null => true
  | .object fields => fields.all fun f =>
    match known.find? fun k => Text.equalFold f.1 k.1 with
    | some k => k.2 f.2
    | none => true
  | _ => false

end Shape

end SceneForge.Json
