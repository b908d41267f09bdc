import SceneForge.Number.Binary
import SceneForge.Text.Quoted
import SceneForge.Yaml.Node

set_option autoImplicit false

/-!
# Reading records from YAML

A decoder takes a node and the value so far, and gives the new value. What a node does not mention
keeps its value, and so does a plain value under a null. A node of the wrong kind makes the whole
reading fail, but only at its end; a value that is refused for another reason ends it at once.

## Main definitions

* `SceneForge.Yaml.Decoder` — from a node and the value so far to the new value, if there is one.
* `SceneForge.Yaml.record` — a mapping with known keys.
* `SceneForge.Yaml.decode` — a value from a text.
-/

namespace SceneForge.Yaml

/-- Reading in progress: the complaints so far, or why reading ended. -/
abbrev Reading (α : Type) := StateT (List String) (Except String) α

/-- From a node and the value so far to the new value; `none` keeps the value. -/
abbrev Decoder (α : Type) := Node → α → Reading (Option α)

/-- The text for nodes that cannot be read. -/
def unreadable : String := "yaml: unreadable document"

/-- A complaint about a line. -/
def complain (line : Nat) (text : String) : Reading Unit :=
  modify (· ++ ["line " ++ toString line ++ ": " ++ text])

/-- The short form of a tag. -/
def shortTag (tag : String) : String :=
  if tag.startsWith Scalar.standard then
    "!!" ++ String.ofList (tag.toList.drop Scalar.standard.length)
  else tag

/-- The tag that a scalar has or would have. -/
def scalarTag (text tag : String) (plain : Bool) : String :=
  if tag != "" && tag != "!" then shortTag tag
  else if !plain then "!!str"
  else if text == "<<" then "!!merge"
  else
    match Scalar.ofText text with
    | .null => "!!null"
    | .bool _ => "!!bool"
    | .int _ => "!!int"
    | .float _ => "!!float"
    | .text _ => if isTimestamp text.toList then "!!timestamp" else "!!str"

/-- The beginning of a scalar, in quotation marks. -/
def excerpt (text : String) : String :=
  let bytes := utf8 text
  let mark := String.singleton (Char.ofNat 96)
  " " ++ mark ++ (if bytes.length > 10 then Text.Utf8.decodeLossy (bytes.take 7) ++ "..."
    else text) ++ mark

/-- A node of the wrong kind for a type of values. -/
def mismatch {α : Type} (type : String) (n : Node) : Reading (Option α) := do
  let refuse (line : Nat) (what : String) : Reading Unit :=
    complain line ("cannot unmarshal " ++ what ++ " into " ++ type)
  match n with
  | .scalar text tag plain line => refuse line (scalarTag text tag plain ++ excerpt text)
  | .seq _ line => refuse line "!!seq"
  | .map _ line => refuse line "!!map"
  | .cycle => throw unreadable
  return none

/-- What a scalar stands for. -/
def scalarOf (text tag : String) (plain : Bool) : Reading Scalar :=
  match Scalar.resolve tag plain text with
  | some v => return v
  | none => throw unreadable

/-- Reading a scalar that is not null, if its kind fits; other nodes are of the wrong kind. -/
def scalar {α : Type} (type : String) (read : String → Scalar → Except String (Option α)) :
    Decoder α := fun n _ => do
  match n with
  | .scalar text tag plain _ =>
    let v ← scalarOf text tag plain
    let result : Except String (Option (Option α)) := match v with
      | .null => .ok none
      | .text s => (read s v).map some
      | v => (read text v).map some
    match result with
    | .ok none => return none
    | .ok (some (some a)) => return some a
    | .ok (some none) => mismatch type n
    | .error e => throw e
  | _ => mismatch type n

/-- Whether a node is null. -/
def isNull (n : Node) : Reading Bool := do
  match n with
  | .scalar text tag plain _ =>
    match ← scalarOf text tag plain with
    | .null => return true
    | _ => return false
  | _ => return false

/-- A text; any scalar will do. -/
def text : Decoder String := scalar "string" fun s _ => .ok (some s)

/-- A text with a grammar of its own. -/
def parsed {α : Type} (parse : String → Except String α) : Decoder α :=
  scalar "string" fun s _ => (parse s).map some

/-- A truth value, also in its long spellings. -/
def bool : Decoder Bool := scalar "bool" fun _ v =>
  match v with
  | .bool b => .ok (some b)
  | .text s =>
    if ["y", "Y", "yes", "on"].contains s then .ok (some true)
    else if ["n", "N", "no", "off"].contains s then .ok (some false)
    else .ok none
  | _ => .ok none

/-- A number, rounded twice: to double precision first. -/
def single : Decoder Single := scalar "float32" fun _ v =>
  match v with
  | .int i => .ok (some (Single.ofDouble (Float.ofInt i)))
  | .float x => .ok (some (Single.ofDouble x))
  | _ => .ok none

/-- An integer within 64 bits; a fraction is cut off. -/
def int : Decoder Int := scalar "int" fun _ v =>
  match v with
  | .int i => .ok (if i < 0x8000000000000000 then some i else none)
  | .float x =>
    .ok (if x ≤ 9223372036854775807.0 then
      some (if x < 9223372036854775807.0 && x > -9223372036854775808.0 then x.toInt64.toInt
        else -0x8000000000000000)
    else none)
  | _ => .ok none

/-- A natural number below a limit; a fraction is cut off. -/
def natural (limit : Nat) : Decoder Nat := scalar "uint32" fun _ v =>
  match v with
  | .int i => .ok (if 0 ≤ i && i < limit then some i.toNat else none)
  | .float x =>
    .ok (if x ≤ 18446744073709551615.0 && x ≥ 0 && x < Float.ofNat limit then
      some x.toUInt64.toNat
    else none)
  | _ => .ok none

/-- A value that may be absent: a null takes it away. -/
def optional {α : Type} (start : α) (d : Decoder α) : Decoder (Option α) := fun n v => do
  if ← isNull n then return some none
  let old := v.getD start
  match ← d n old with
  | some new => return some (some new)
  | none => return some (some old)

/-- A list; a null entry is left out, and a null instead of the list empties it. -/
def list {α : Type} (start : α) (d : Decoder α) : Decoder (List α) := fun n _ => do
  match n with
  | .seq items _ =>
    let read ← items.mapM fun item => d item start
    return some (read.filterMap id)
  | _ => if ← isNull n then return some [] else mismatch "[]string" n

/-- A list of fixed length; a null entry is left out, and the entries after it move up. -/
def vector {α : Type} (start : α) (d : Decoder α) : Decoder (List α) := fun n v => do
  match n with
  | .seq items _ =>
    if items.length != v.length then throw unreadable
    let read := (← items.mapM fun item => d item start).filterMap id
    return some (read ++ v.drop read.length)
  | _ => if ← isNull n then return none else mismatch "[]float32" n

/-! ## Mappings -/

/-- What makes two keys the same. -/
def keyIdentity : Node → Nat × String
  | .scalar text _ _ _ => (0, text)
  | .seq _ _ => (1, "")
  | .map _ _ => (2, "")
  | .cycle => (3, "")

/-- The line on which a node starts. -/
def lineOf : Node → Nat
  | .scalar _ _ _ line => line
  | .seq _ line => line
  | .map _ line => line
  | .cycle => 0

/-- The keys that were given before, each with the key that gave it first. -/
def repeated : List Node → List (Node × Node)
  | [] => []
  | k :: ks => ((ks.filter fun l => keyIdentity l == keyIdentity k).map fun l => (l, k)) ++ repeated ks

/-- Whether a key asks for the entries of another mapping. -/
def isMerge : Node → Bool
  | .scalar "<<" tag true _ => tag == "" || tag == "!"
  | _ => false

/-- The mappings that a merge key brings in. -/
def mergedMaps (n : Node) : Reading (List (List (Node × Node))) :=
  match n with
  | .map es _ => return [es]
  | .seq items _ => items.mapM fun item =>
    match item with
    | .map es _ => return es
    | _ => throw unreadable
  | _ => throw unreadable

/-- The entries of a mapping, its own first, then those that merge keys bring in under other keys.
A key that occurs twice makes the node unreadable. -/
def entriesOf (own : List (Node × Node)) : Reading (Option (List (Node × Node))) := do
  let twice := repeated (own.map (·.1))
  if !twice.isEmpty then
    twice.forM fun (again, first) =>
      complain (lineOf again) ("mapping key " ++ Text.quote (keyIdentity again).2 ++
        " already defined at line " ++ toString (lineOf first))
    return none
  else
    let plain := own.filter fun e => !isMerge e.1
    match (own.filter fun e => isMerge e.1).getLast? with
    | none => return some plain
    | some (_, n) =>
      let maps ← mergedMaps n
      return some (maps.foldl (fun acc es =>
        acc ++ es.filter fun e => !(acc.map fun a => keyIdentity a.1).contains (keyIdentity e.1))
        plain)

/-- One key of a record. -/
structure Field (σ : Type) where
  /-- The key. -/
  name : String
  /-- The record with the value of a node. -/
  update : Node → σ → Reading σ

/-- A key whose value is one component of the record. -/
def field {σ α : Type} (name : String) (get : σ → α) (put : σ → α → σ) (d : Decoder α) : Field σ where
  name := name
  update n s := do
    match ← d n (get s) with
    | some v => return put s v
    | none => return s

/-- A mapping read entry by entry. A null keeps the value so far. -/
def entries {σ : Type} (type : String) (step : σ → String → Node → Node → Reading σ) :
    Decoder σ := fun n s => do
  match n with
  | .map own _ =>
    match ← entriesOf own with
    | none => return none
    | some es =>
      return some (← es.foldlM (fun s e => do
        match ← text e.1 "" with
        | some key => step s key e.1 e.2
        | none => return s) s)
  | _ => if ← isNull n then return none else mismatch type n

/-- A record. Unknown keys are left aside, or refused if the record is strict. -/
def record {σ : Type} (type : String) (strict : Bool) (fields : List (Field σ)) : Decoder σ :=
  entries type fun s key keyNode n =>
    match fields.find? fun f => f.name == key with
    | some f => f.update n s
    | none => do
      if strict then
        complain (lineOf keyNode) ("field " ++ key ++ " not found in type " ++ type)
      return s

/-- Texts by key, in order of their keys' first occurrence; a null empties the table. -/
def table : Decoder (List (String × String)) := fun n v => do
  if ← isNull n then return some []
  entries "map[string]string" (fun s key _ n => do
    match ← text n "" with
    | some t =>
      return if s.any (·.1 == key) then s.map fun e => if e.1 == key then (key, t) else e
        else s ++ [(key, t)]
    | none =>
      return if !(← isNull n) || s.any (·.1 == key) then s else s ++ [(key, "")]) n v

/-! ## Texts -/

/-- The outcome of reading; complaints fail it at the end. -/
def Reading.outcome {α : Type} (r : Reading α) : Except String α :=
  match r.run [] with
  | .error e => .error e
  | .ok (v, []) => .ok v
  | .ok (_, complaints) => .error ("yaml: unmarshal errors:\n  " ++ "\n  ".intercalate complaints)

/-- A value read from a text on top of the value so far; `none` if the text has no document. -/
def decode? {α : Type} (d : Decoder α) (start : α) (source : Bytes) : Except String (Option α) :=
  match Node.read? source with
  | none => .error unreadable
  | some none => .ok none
  | some (some n) => Reading.outcome do
    return some ((← d n start).getD start)

/-- A value read from a text on top of the value so far. -/
def decode {α : Type} (d : Decoder α) (start : α) (source : Bytes) : Except String α :=
  (decode? d start source).map (·.getD start)

end SceneForge.Yaml
