import SceneForge.Number.Shortest
import SceneForge.Text.Quoted
import SceneForge.Yaml.Scalar

set_option autoImplicit false

/-!
# Writing YAML

Block style throughout: keys one below the other, sequences indented below their key. A text is
written without quotes where it reads back as the same text.

## Main definitions

* `SceneForge.Yaml.Value` — what can be written.
* `SceneForge.Yaml.Style.ofText` — how a text is quoted.
* `SceneForge.Yaml.render` — a value as a document.
-/

namespace SceneForge.Yaml

/-- The texts of numbers that are not finite. -/
def specialNumbers : SpecialTexts := ⟨".nan", ".inf", "-.inf"⟩

/-- A scalar that is not a text. -/
inductive Bare where
  /-- A number. -/
  | single (a : Single)
  /-- An integer. -/
  | int (n : Int)
  /-- A truth value. -/
  | bool (b : Bool)

/-- How a scalar that is not a text is written. -/
def Bare.text : Bare → String
  | single a => a.textWith specialNumbers
  | int n => toString n
  | bool b => if b then "true" else "false"

/-- What can be written. -/
inductive Value where
  /-- A scalar that is written as it stands. -/
  | bare (b : Bare)
  /-- A text. -/
  | text (s : String)
  /-- A short sequence, written in one line. -/
  | row (items : List Bare)
  /-- A sequence. -/
  | seq (items : List Value)
  /-- A mapping. -/
  | map (entries : List (String × Value))

namespace Value

/-- A number. -/
def single (a : Single) : Value := bare (.single a)

/-- An integer. -/
def int (n : Int) : Value := bare (.int n)

/-- A truth value. -/
def bool (b : Bool) : Value := bare (.bool b)

end Value

/-! ## Texts -/

/-- How a text is written. -/
inductive Style where
  /-- As it stands. -/
  | plain
  /-- Between single quotes. -/
  | single
  /-- Between double quotes, with escapes. -/
  | double
  /-- On lines of its own. -/
  | literal
deriving DecidableEq

/-- Characters that may be written without escape. -/
def isPrintable (c : Char) : Bool :=
  let n := c.toNat
  n == 10 || (0x20 ≤ n && n ≤ 0x7e) ||
    (0xa0 ≤ n && n ≤ 0xfffd && n != 0xfeff && !(0xd800 ≤ n && n ≤ 0xdfff))

/-- Each character with the ones before and after it. -/
def neighbours (cs : List Char) : List (Option Char × Char × Option Char) :=
  go none cs
where
  /-- From a position on. -/
  go (before : Option Char) : List Char → List (Option Char × Char × Option Char)
    | [] => []
    | c :: rest => (before, c, rest.head?) :: go (some c) rest

/-- Whether a text could be mistaken for an indicator where blocks are written. -/
def hasIndicator (cs : List Char) : Bool :=
  cs.take 3 == ['-', '-', '-'] || cs.take 3 == ['.', '.', '.'] ||
  (neighbours cs).any fun (before, c, after) =>
    let blankAfter := after.all isBlank
    match before with
    | none =>
      ("#,[]\x7b\x7d&*!|>'\"%@".push (Char.ofNat 96)).toList.contains c ||
        ((c == '?' || c == ':' || c == '-') && blankAfter)
    | some b => (c == ':' && blankAfter) || (c == '#' && isSpace b)

/-- Whether a space stands right before a line break. -/
def spaceBeforeBreak (cs : List Char) : Bool :=
  (neighbours cs).any fun (_, c, after) => c == ' ' && after.any isBreak

/-- Whether a space follows a line break. -/
def spaceAfterBreak (cs : List Char) : Bool :=
  (neighbours cs).any fun (_, c, after) => isBreak c && after == some ' '

/-- The spellings of truth values that older readers know. -/
def oldBooleans : List String :=
  ["y", "Y", "yes", "Yes", "YES", "on", "On", "ON", "n", "N", "no", "No", "NO", "off", "Off", "OFF"]

/-- Whether an unquoted text would be read as something other than a text. -/
def readsOtherwise (s : String) : Bool :=
  (match Scalar.ofText s with
    | .text _ => false
    | _ => true) ||
    isTimestamp s.toList || isSexagesimal s.toList || oldBooleans.contains s

/-- How a text is written; a key has to stay in one line. -/
def Style.ofText (key : Bool) (s : String) : Style :=
  let cs := s.toList
  let special := cs.any fun c => !isPrintable c && c != '\t'
  let spaced := spaceBeforeBreak cs
  if cs.contains '\n' then
    if key || special || spaced || cs.getLast? == some ' ' then .double else .literal
  else if readsOtherwise s then .double
  else if special || spaced || spaceAfterBreak cs || cs.contains '\t' then .double
  else if hasIndicator cs || cs.any isBreak || cs.head? == some ' ' || cs.getLast? == some ' ' then
    .single
  else .plain

/-- A character between double quotes. -/
def escaped (c : Char) : String :=
  match c.toNat with
  | 0 => "\\0"
  | 7 => "\\a"
  | 8 => "\\b"
  | 9 => "\\t"
  | 10 => "\\n"
  | 11 => "\\v"
  | 12 => "\\f"
  | 13 => "\\r"
  | 0x1b => "\\e"
  | 0x22 => "\\\""
  | 0x5c => "\\\\"
  | 0x85 => "\\N"
  | 0x2028 => "\\L"
  | 0x2029 => "\\P"
  | n =>
    if isPrintable c then String.singleton c
    else if n ≤ 0xff then "\\x" ++ (Text.hex 2 n).toUpper
    else if n ≤ 0xffff then "\\u" ++ (Text.hex 4 n).toUpper
    else "\\U" ++ (Text.hex 8 n).toUpper

/-- A text between single quotes: a quote is doubled, and the indentation is repeated after a line
separator. -/
def singleQuoted (indent : Nat) (cs : List Char) : String :=
  let body := (neighbours cs).map fun (before, c, _) =>
    (if before.any isBreak && !isSpace c then String.ofList (List.replicate indent ' ') else "") ++
      (if c == '\'' then "''" else String.singleton c)
  "'" ++ String.join body ++ "'"

/-- What a literal block says about its indentation and its last line breaks. -/
def literalHints (best : Nat) (cs : List Char) : String :=
  (if cs.head?.any fun c => c == ' ' || isBreak c then toString best else "") ++
  (match cs.reverse with
    | a :: b :: _ => if !isBreak a then "-" else if isBreak b then "+" else ""
    | [a] => if isBreak a then "+" else "-"
    | [] => "-")

/-- The lines of a text. -/
def linesOf (cs : List Char) : List (List Char) :=
  go [] cs
where
  /-- With the current line so far, in reverse. -/
  go (line : List Char) : List Char → List (List Char)
    | [] => [line.reverse]
    | '\n' :: rest => line.reverse :: go [] rest
    | c :: rest => go (c :: line) rest

/-- A literal block behind its header: what follows a line break or a line separator is indented,
and a line break in front takes the place of the one that ends the header. -/
def literalBlock (indent : Nat) (cs : List Char) : List Char :=
  let margin := List.replicate indent ' '
  (neighbours cs).flatMap fun (before, c, _) =>
    if isBreak c then [c]
    else
      match before with
      | none => '\n' :: margin ++ [c]
      | some b => if isBreak b then margin ++ [c] else [c]

/-- The lines of a literal block; the first is the rest of the header's line, and the last line
break is the one that ends every line. -/
def literalLines (indent : Nat) (cs : List Char) : List String :=
  let lines := linesOf (literalBlock indent cs)
  (if lines.getLast? == some [] then lines.dropLast else lines).map String.ofList

/-- A text: the end of the current line, and the lines after it. -/
def textLines (best indent : Nat) (key : Bool) (s : String) : String × List String :=
  let cs := s.toList
  match Style.ofText key s with
  | .plain => (s, [])
  | .single => (singleQuoted indent cs, [])
  | .double => ("\"" ++ String.join (cs.map escaped) ++ "\"", [])
  | .literal =>
    let lines := literalLines indent cs
    ("|" ++ literalHints best cs ++ lines.headD "", lines.tail)

/-! ## Documents -/

/-- The indentation of what stands below a key. -/
def deeper (best indent : Nat) : Nat := best * ((indent + best) / best)

/-- The first line of a block, behind a dash. -/
def dashed (indent : Nat) : List String → List String
  | [] => []
  | l :: rest =>
    (String.ofList (List.replicate indent ' ') ++ "- " ++ (l.drop (indent + 2)).toString) :: rest

mutual

/-- The entries of a mapping, keys at the given column. -/
def mapLines (best indent : Nat) : List (String × Value) → List String
  | [] => []
  | (k, v) :: rest =>
    let lead := String.ofList (List.replicate indent ' ') ++ (textLines best indent true k).1 ++ ":"
    let lines := match v with
      | .bare b => [lead ++ " " ++ b.text]
      | .text s =>
        let (head, more) := textLines best (deeper best indent) false s
        (lead ++ " " ++ head) :: more
      | .row items => [lead ++ " [" ++ ", ".intercalate (items.map Bare.text) ++ "]"]
      | .seq [] => [lead ++ " []"]
      | .map [] => [lead ++ " " ++ "\x7b\x7d"]
      | .seq items => lead :: seqLines best (deeper best indent) items
      | .map entries => lead :: mapLines best (deeper best indent) entries
    lines ++ mapLines best indent rest

/-- The items of a sequence, dashes at the given column. -/
def seqLines (best indent : Nat) : List Value → List String
  | [] => []
  | v :: rest =>
    let lead := String.ofList (List.replicate indent ' ') ++ "- "
    let lines := match v with
      | .bare b => [lead ++ b.text]
      | .text s =>
        let (head, more) := textLines best (indent + 2) false s
        (lead ++ head) :: more
      | .row items => [lead ++ "[" ++ ", ".intercalate (items.map Bare.text) ++ "]"]
      | .seq [] => [lead ++ "[]"]
      | .map [] => [lead ++ "\x7b\x7d"]
      | .seq items => dashed indent (seqLines best (indent + 2) items)
      | .map entries => dashed indent (mapLines best (indent + 2) entries)
    lines ++ seqLines best indent rest

end

/-- A mapping as a document, with the given indentation. -/
def render (best : Nat) (entries : List (String × Value)) : String :=
  if entries.isEmpty then "\x7b\x7d\n"
  else String.join ((mapLines best 0 entries).map (· ++ "\n"))

/-! ## The order of keys -/

/-- Letters, for the order of keys. -/
def isKeyLetter (c : Char) : Bool := c.isAlpha || c.toNat ≥ 0x80

/-- The number at the start of a text, continuing one in front of it, and its length. -/
def runNumber (start : Nat) (cs : List Char) : Nat × Nat :=
  let ds := cs.takeWhile Char.isDigit
  (ds.foldl (fun n d => n * 10 + (d.toNat - 48)) start, ds.length)

/-- Keys in natural order: letters by code, runs of digits by their number, letters after other
characters except behind a digit. -/
def keyLess (before : List Char) : List Char → List Char → Bool
  | [], b => !b.isEmpty
  | _ :: _, [] => false
  | x :: xs, y :: ys =>
    if x == y then keyLess (x :: before) xs ys
    else if isKeyLetter x && isKeyLetter y then x < y
    else if isKeyLetter x || isKeyLetter y then
      (if before.head?.any Char.isDigit then isKeyLetter x else isKeyLetter y)
    else
      let start := if (x == '0' || y == '0') && (before.takeWhile Char.isDigit).any (· != '0')
        then 1 else 0
      let (m, i) := runNumber start (x :: xs)
      let (n, j) := runNumber start (y :: ys)
      if m != n then m < n else if i != j then i < j else x < y

/-- Entries in the order of their keys. -/
def sorted {α : Type} (entries : List (String × α)) : List (String × α) :=
  entries.mergeSort fun a b => !keyLess [] b.1.toList a.1.toList

end SceneForge.Yaml
