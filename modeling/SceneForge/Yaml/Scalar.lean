import SceneForge.Number.Binary
import SceneForge.Text.Base64
import SceneForge.Yaml.Token

set_option autoImplicit false

/-!
# What a YAML scalar stands for

A scalar without quotes and tag may be null, a boolean or a number; everything else is text.

## Main definitions

* `SceneForge.Yaml.Scalar` — the kinds of scalars.
* `SceneForge.Yaml.Scalar.ofText` — the reading of a scalar without quotes and tag.
* `SceneForge.Yaml.Scalar.resolve` — the reading of a scalar under a tag.
* `SceneForge.Yaml.isTimestamp`, `SceneForge.Yaml.isSexagesimal` — texts that other readers take for
  dates or base-60 numbers.
-/

namespace SceneForge.Yaml

open Digits

/-- The reading of a scalar. -/
inductive Scalar where
  /-- Nothing. -/
  | null
  /-- A truth value. -/
  | bool (b : Bool)
  /-- An integer of at most 64 bits. -/
  | int (n : Int)
  /-- A number with a fraction or exponent. -/
  | float (x : Float)
  /-- Any other text. -/
  | text (s : String)

/-! ## Numbers -/

/-- An integer: 64 bits with sign, or without. -/
def wholeNumber? (cs : List Char) : Option Int :=
  match signed? prefixed? cs with
  | some i => some i
  | none => (prefixed? cs).bind fun n => if n < 0x10000000000000000 then some (n : Int) else none

/-- Binary or octal digits with a sign behind the base. -/
def lateSigned? : List Char → Option Int
  | '0' :: 'b' :: rest => signed? (natural? 2) rest
  | '0' :: 'o' :: rest => signed? (natural? 8) rest
  | _ => none

/-- A decimal number: digits with at most one point, then perhaps an exponent. One that is too large
for double precision is none. -/
def decimal? (cs : List Char) : Option Float := do
  let (negative, cs) := sign cs
  let whole := cs.takeWhile Char.isDigit
  let cs := cs.drop whole.length
  let (fraction, cs) := match cs with
    | '.' :: rest =>
      let fraction := rest.takeWhile Char.isDigit
      (fraction, rest.drop fraction.length)
    | cs => ([], cs)
  let exponent : Int ← match cs with
    | [] => some 0
    | e :: rest =>
      if e == 'e' || e == 'E' then
        let (down, digits) := sign rest
        (natural? 10 digits).map fun n => if down then -(n : Int) else n
      else none
  let digits ← natural? 10 (whole ++ fraction)
  let x := doubleOfDecimal negative digits (exponent - fraction.length)
  if x.isInf then none else some x

/-- Underscores stand between digits only. -/
def separated : Bool → List Char → Bool
  | _, [] => true
  | afterDigit, '_' :: rest => afterDigit && (rest.head?.any Char.isDigit) && separated false rest
  | _, c :: rest => separated c.isDigit rest

/-! ## Texts that look like something else -/

/-- One or two digits, not above a limit, and what follows. -/
def shortNumber (limit : Nat) (cs : List Char) : Option (Nat × List Char) := do
  let ds := (cs.take 2).takeWhile Char.isDigit
  let n ← natural? 10 ds
  if n ≤ limit then some (n, cs.drop ds.length) else none

/-- The days of a month. -/
def daysIn (year month : Nat) : Nat :=
  if month == 2 then
    (if year % 4 == 0 && (year % 100 != 0 || year % 400 == 0) then 29 else 28)
  else if [4, 6, 9, 11].contains month then 30
  else 31

/-- A date: four digits, a month, a day of that month. -/
def dateAhead (cs : List Char) : Option (List Char) := do
  let y := cs.takeWhile Char.isDigit
  let year ← natural? 10 y
  let .cons '-' cs := cs.drop y.length | none
  let (month, cs) ← shortNumber 12 cs
  let .cons '-' cs := cs | none
  let (day, cs) ← shortNumber 31 cs
  if y.length == 4 && month ≥ 1 && day ≥ 1 && day ≤ daysIn year month then some cs else none

/-- A time of day with an optional fraction of seconds. -/
def timeAhead (cs : List Char) : Option (List Char) := do
  let (_, cs) ← shortNumber 23 cs
  let .cons ':' cs := cs | none
  let (_, cs) ← shortNumber 59 cs
  let .cons ':' cs := cs | none
  let (_, cs) ← shortNumber 59 cs
  match cs with
  | p :: d :: rest =>
    if (p == '.' || p == ',') && d.isDigit then some (rest.dropWhile Char.isDigit) else some cs
  | cs => some cs

/-- A time zone: `Z`, or a sign with hours and minutes. -/
def isZone : List Char → Bool
  | ['Z'] => true
  | [s, a, b, ':', c, d] =>
    (s == '+' || s == '-') && (natural? 10 [a, b]).any (· ≤ 24) && (natural? 10 [c, d]).any (· ≤ 60)
  | _ => false

/-- A date, alone or with a time of day. -/
def isTimestamp (cs : List Char) : Bool :=
  match dateAhead cs with
  | none => false
  | some [] => true
  | some (t :: rest) =>
    if t == 'T' || t == 't' then (timeAhead rest).any isZone
    else t == ' ' && (timeAhead (rest.dropWhile (· == ' '))).any List.isEmpty

/-- Colon-separated groups below sixty, then perhaps a point and digits. -/
def sexagesimalTail : Nat → List Char → Bool
  | 0, _ => false
  | fuel + 1, cs =>
    match cs with
    | ':' :: rest =>
      let ds := rest.takeWhile Char.isDigit
      let after := rest.drop ds.length
      (ds.length == 1 || (ds.length == 2 && ds.head?.any (· ≤ '5'))) &&
        (after.isEmpty || sexagesimalTail fuel after ||
          (after.head? == some '.' && (after.drop 1).all fun c => c.isDigit || c == '_'))
    | _ => false

/-- A base-60 number such as `12:30`. -/
def isSexagesimal (cs : List Char) : Bool :=
  let body := (sign cs).2
  let whole := body.takeWhile fun c => c.isDigit || c == '_'
  whole.head?.any Char.isDigit && sexagesimalTail (cs.length + 1) (body.drop whole.length)

namespace Scalar

/-- The fixed spellings. -/
def fixed? : String → Option Scalar
  | "" | "~" | "null" | "Null" | "NULL" => some null
  | "true" | "True" | "TRUE" => some (bool true)
  | "false" | "False" | "FALSE" => some (bool false)
  | ".nan" | ".NaN" | ".NAN" => some (float (0.0 / 0.0))
  | ".inf" | ".Inf" | ".INF" | "+.inf" | "+.Inf" | "+.INF" => some (float (1.0 / 0.0))
  | "-.inf" | "-.Inf" | "-.INF" => some (float (-1.0 / 0.0))
  | _ => none

/-- A number. Underscores do not count, except that after a leading point they stand between
digits. -/
def number? (cs : List Char) : Option Scalar :=
  match cs with
  | '.' :: _ =>
    if separated false cs then (decimal? (cs.filter (· != '_'))).map float else none
  | c :: _ =>
    if c == '+' || c == '-' || c.isDigit then
      let plain := cs.filter (· != '_')
      match wholeNumber? plain with
      | some i => some (int i)
      | none =>
        match decimal? plain with
        | some x => some (float x)
        | none => (lateSigned? plain).map int
    else none
  | [] => none

/-- The reading of a scalar without quotes and tag. -/
def ofText (s : String) : Scalar :=
  match fixed? s with
  | some v => v
  | none => (number? s.toList).getD (text s)

/-- The namespace of the standard tags. -/
def standard : String := "tag:yaml.org,2002:"

/-- The reading of a scalar under a tag; `none` if the tag does not admit it. -/
def resolve (tag : String) (plain : Bool) (s : String) : Option Scalar :=
  if tag == "" || tag == "!" then some (if plain then ofText s else text s)
  else if tag == standard ++ "binary" then
    (Text.Base64.decode? s.toList).map fun bs => text (Text.Utf8.decodeLossy bs)
  else if tag == standard ++ "timestamp" then
    (if isTimestamp s.toList then some (text s) else none)
  else
    match ofText s with
    | null => if tag == standard ++ "null" then some null else given tag s
    | bool b => if tag == standard ++ "bool" then some (bool b) else given tag s
    | int i =>
      if tag == standard ++ "int" then some (int i)
      else if tag == standard ++ "float" then some (float (Float.ofInt i))
      else given tag s
    | float x => if tag == standard ++ "float" then some (float x) else given tag s
    | text _ => given tag s
where
  /-- A tag that says nothing about the kind makes the scalar a text. -/
  given (tag s : String) : Option Scalar :=
    if ["null", "bool", "int", "float"].any fun k => tag == standard ++ k then none
    else some (text s)

end Scalar

end SceneForge.Yaml
