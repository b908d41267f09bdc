import SceneForge.Number.Digits
import SceneForge.Text.Utf8

set_option autoImplicit false

/-!
# JSON

Values keep the fields of objects in the order in which they were written, repeated ones included.
Numbers keep what was written, since it depends on the reader what range they have to fit in.

## Main definitions

* `SceneForge.Json.Numeral`, `SceneForge.Json.Value` — numbers as written, and values.
* `SceneForge.Json.value` — the first value of a text and what follows it.
* `SceneForge.Json.parse?` — the first value of some bytes.
-/

namespace SceneForge.Json

open Digits

/-- A number as it was written: `± digits · 10 ^ exponent`. -/
structure Numeral where
  /-- Whether a minus sign was written. -/
  negative : Bool := false
  /-- The digits without the point. -/
  digits : Nat
  /-- The power of ten. -/
  exponent : Int := 0
  /-- Whether nothing but digits was written. -/
  plain : Bool := true
deriving DecidableEq, Inhabited

/-- A value. -/
inductive Value where
  /-- Nothing. -/
  | null
  /-- A truth value. -/
  | bool (b : Bool)
  /-- A number. -/
  | number (n : Numeral)
  /-- A text. -/
  | text (s : String)
  /-- A list. -/
  | array (items : List Value)
  /-- Fields in the order in which they were written. -/
  | object (fields : List (String × Value))
deriving Inhabited

/-- The deepest nesting that is read. -/
def maxDepth : Nat := 10000

/-! ## Blanks and numbers -/

/-- Whether a character may stand between tokens. -/
def isBlank (c : Char) : Bool := c == ' ' || c == '\t' || c == '\n' || c == '\r'

/-- The rest of a text without leading blanks. -/
def skipBlanks (cs : List Char) : List Char := cs.dropWhile isBlank

/-- The number of a list of digits. -/
def digitsValue (ds : List Char) : Nat := ds.foldl (fun n c => 10 * n + (c.toNat - 48)) 0

/-- The digits behind a point, if there is one. -/
def fraction : List Char → Option (List Char × List Char)
  | '.' :: rest =>
    let ds := rest.takeWhile Char.isDigit
    if ds.isEmpty then none else some (ds, rest.dropWhile Char.isDigit)
  | rest => some ([], rest)

/-- The sign and digits of an exponent, if there is one. -/
def exponent (cs : List Char) : Option (Option Int × List Char) :=
  match cs with
  | e :: rest =>
    if e == 'e' || e == 'E' then
      let (negative, rest) := match rest with
        | '-' :: rest => (true, rest)
        | '+' :: rest => (false, rest)
        | rest => (false, rest)
      let ds := rest.takeWhile Char.isDigit
      let n : Int := digitsValue ds
      if ds.isEmpty then none
      else some (some (if negative then -n else n), rest.dropWhile Char.isDigit)
    else some (none, cs)
  | [] => some (none, cs)

/-- The digits in front of the point: a zero stands alone. -/
def leadingDigits (cs : List Char) : Option (List Char × List Char) :=
  match cs with
  | '0' :: rest => some (['0'], rest)
  | _ =>
    let ds := cs.takeWhile Char.isDigit
    if ds.isEmpty then none else some (ds, cs.dropWhile Char.isDigit)

/-- The number at the start of a text. -/
def numeral (cs : List Char) : Option (Numeral × List Char) := do
  let (negative, cs) := match cs with
    | '-' :: rest => (true, rest)
    | cs => (false, cs)
  let (whole, cs) ← leadingDigits cs
  let (part, cs) ← fraction cs
  let (power, cs) ← exponent cs
  return ({ negative, digits := digitsValue (whole ++ part)
            exponent := power.getD 0 - part.length
            plain := !negative && part.isEmpty && power.isNone }, cs)

/-! ## Texts -/

/-- A character of a text, or half of one that was written as two. -/
inductive Piece where
  /-- A character. -/
  | char (c : Char)
  /-- A code unit written with four digits. -/
  | unit (n : Nat)

/-- The character that a letter behind a backslash stands for. -/
def escape? (c : Char) : Option Char :=
  match c with
  | '"' => some '"'
  | '\\' => some '\\'
  | '/' => some '/'
  | 'b' => some (Char.ofNat 8)
  | 'f' => some (Char.ofNat 12)
  | 'n' => some '\n'
  | 'r' => some '\r'
  | 't' => some '\t'
  | _ => none

/-- The pieces of a text up to its closing quote, latest first, and what follows. -/
def pieces : List Char → List Piece → Option (List Piece × List Char)
  | '"' :: rest, acc => some (acc, rest)
  | '\\' :: 'u' :: a :: b :: c :: d :: rest, acc =>
    match hexDigit? a, hexDigit? b, hexDigit? c, hexDigit? d with
    | some p, some q, some r, some s => pieces rest (.unit (((p * 16 + q) * 16 + r) * 16 + s) :: acc)
    | _, _, _, _ => none
  | '\\' :: c :: rest, acc =>
    match escape? c with
    | some e => pieces rest (.char e :: acc)
    | none => none
  | c :: rest, acc => if c.toNat < 32 || c == '\\' then none else pieces rest (.char c :: acc)
  | [], _ => none

/-- Whether a code unit is the first half of a character. -/
def isHigh (n : Nat) : Bool := 0xd800 ≤ n && n < 0xdc00

/-- Whether a code unit is the second half of a character. -/
def isLow (n : Nat) : Bool := 0xdc00 ≤ n && n < 0xe000

/-- The characters of pieces that come latest first: halves are joined, and a lone half is replaced.
-/
def joinPieces : List Piece → List Char → List Char
  | [], acc => acc
  | .char c :: rest, acc => joinPieces rest (c :: acc)
  | .unit low :: .unit high :: rest, acc =>
    if isLow low && isHigh high then
      joinPieces rest (Char.ofNat (0x10000 + (high - 0xd800) * 1024 + (low - 0xdc00)) :: acc)
    else joinPieces (.unit high :: rest)
      ((if isLow low || isHigh low then '\ufffd' else Char.ofNat low) :: acc)
  | .unit n :: rest, acc =>
    joinPieces rest ((if isLow n || isHigh n then '\ufffd' else Char.ofNat n) :: acc)

/-- The text behind an opening quote. -/
def text (cs : List Char) : Option (String × List Char) :=
  (pieces cs []).map fun (ps, rest) => (String.ofList (joinPieces ps []), rest)

/-! ## Values -/

mutual

/-- The first value of a text and what follows it. Fuel bounds the tokens, depth the nesting. -/
def value : Nat → Nat → List Char → Option (Value × List Char)
  | 0, _, _ => none
  | fuel + 1, depth, cs =>
    match skipBlanks cs with
    | '{' :: rest =>
      if depth = 0 then none
      else
        match skipBlanks rest with
        | '}' :: rest => some (.object [], rest)
        | rest => members fuel (depth - 1) rest []
    | '[' :: rest =>
      if depth = 0 then none
      else
        match skipBlanks rest with
        | ']' :: rest => some (.array [], rest)
        | rest => items fuel (depth - 1) rest []
    | '"' :: rest => (text rest).map fun (s, rest) => (.text s, rest)
    | 'n' :: 'u' :: 'l' :: 'l' :: rest => some (.null, rest)
    | 't' :: 'r' :: 'u' :: 'e' :: rest => some (.bool true, rest)
    | 'f' :: 'a' :: 'l' :: 's' :: 'e' :: rest => some (.bool false, rest)
    | cs => (numeral cs).map fun (n, rest) => (.number n, rest)

/-- The items of a list up to its closing bracket, those so far latest first. -/
def items : Nat → Nat → List Char → List Value → Option (Value × List Char)
  | 0, _, _, _ => none
  | fuel + 1, depth, cs, acc =>
    match value fuel depth cs with
    | none => none
    | some (v, rest) =>
      match skipBlanks rest with
      | ',' :: rest => items fuel depth rest (v :: acc)
      | ']' :: rest => some (.array (v :: acc).reverse, rest)
      | _ => none

/-- The fields of an object up to its closing brace, those so far latest first. -/
def members : Nat → Nat → List Char → List (String × Value) → Option (Value × List Char)
  | 0, _, _, _ => none
  | fuel + 1, depth, cs, acc =>
    match skipBlanks cs with
    | '"' :: rest =>
      match text rest with
      | none => none
      | some (key, rest) =>
        match skipBlanks rest with
        | ':' :: rest =>
          match value fuel depth rest with
          | none => none
          | some (v, rest) =>
            match skipBlanks rest with
            | ',' :: rest => members fuel depth rest ((key, v) :: acc)
            | '}' :: rest => some (.object ((key, v) :: acc).reverse, rest)
            | _ => none
        | _ => none
    | _ => none

end

/-- The first value of some bytes; whatever follows it is not looked at. Bytes that belong to no
character are replaced. -/
def parse? (data : Bytes) : Option Value :=
  let cs := Text.Utf8.characters data
  (value (2 * cs.length + 2) maxDepth cs).map (·.1)

end SceneForge.Json
