import SceneForge.Number.Digits
import SceneForge.Text.Utf8

set_option autoImplicit false

/-!
# YAML tokens

The first step of reading YAML: a text becomes a list of indicators and scalars. Indentation turns
into explicit start and end tokens, and a scalar that a colon follows on the same line becomes a
key, so that what follows needs no columns. Lines are only kept for messages.

## Main definitions

* `SceneForge.Yaml.Token` — indicators, scalars, anchors, tags and directives.
* `SceneForge.Yaml.Cursor` — the rest of a text with its position.
* `SceneForge.Yaml.Gap` — the white space inside a scalar and what it folds to.
* `SceneForge.Yaml.tokens` — the tokens of a text; a text that is not YAML ends with
  `Token.broken`.
-/

namespace SceneForge.Yaml

open Digits

/-- The parts of a YAML text. -/
inductive Token where
  /-- The end of the text. -/
  | streamEnd
  /-- A version directive. -/
  | version (major minor : Nat)
  /-- A tag directive. -/
  | shorthand (handle expansion : String)
  /-- The start of a document. -/
  | docStart
  /-- The end of a document. -/
  | docEnd
  /-- The start of a block sequence. -/
  | seqStart (line : Nat)
  /-- The start of a block mapping. -/
  | mapStart (line : Nat)
  /-- The end of a block collection. -/
  | blockEnd
  /-- An opening square bracket. -/
  | flowSeqStart (line : Nat)
  /-- A closing square bracket. -/
  | flowSeqEnd
  /-- An opening brace. -/
  | flowMapStart (line : Nat)
  /-- A closing brace. -/
  | flowMapEnd
  /-- The dash of a block entry. -/
  | entry
  /-- The comma of a flow entry. -/
  | flowEntry
  /-- A key follows. -/
  | key
  /-- A value follows. -/
  | value
  /-- A reference to an anchor. -/
  | alias (name : String)
  /-- A name for the node that follows. -/
  | anchor (name : String)
  /-- A tag for the node that follows. -/
  | tag (handle suffix : String)
  /-- A scalar, and whether it was written without quotes. -/
  | scalar (text : String) (plain : Bool) (line : Nat)
  /-- The text is not YAML from here on. -/
  | broken
deriving DecidableEq, Inhabited

/-! ## Characters -/

/-- Line breaks. -/
def isBreak (c : Char) : Bool :=
  c == '\n' || c == '\r' || c == '\x85' || c == '\u2028' || c == '\u2029'

/-- Spaces and tabs. -/
def isBlank (c : Char) : Bool := c == ' ' || c == '\t'

/-- Blanks, breaks. -/
def isSpace (c : Char) : Bool := isBlank c || isBreak c

/-- The characters of names. -/
def isName (c : Char) : Bool := c.isAlphanum || c == '_' || c == '-'

/-- The characters that a YAML text may hold. -/
def isAllowed (c : Char) : Bool :=
  let n := c.toNat
  n == 9 || n == 10 || n == 13 || (0x20 ≤ n && n ≤ 0x7e) || n == 0x85 || (0xa0 ≤ n && n ≤ 0xd7ff) ||
    (0xe000 ≤ n && n ≤ 0xfffd && n != 0xfeff) || 0x10000 ≤ n

/-- Whether a text ends or goes on with white space. -/
def spaceAhead : List Char → Bool
  | [] => true
  | c :: _ => isSpace c

/-! ## Cursors -/

/-- The rest of a text with its position. -/
structure Cursor where
  /-- The characters not read yet. -/
  rest : List Char
  /-- Lines before this one. -/
  line : Nat := 0
  /-- Characters before this one in the line. -/
  column : Nat := 0
  /-- Characters before this one in the text. -/
  index : Nat := 0

namespace Cursor

/-- Some characters further in the same line. -/
def advance (c : Cursor) (n : Nat) : Cursor :=
  { c with rest := c.rest.drop n, column := c.column + n, index := c.index + n }

/-- Past a line break: the text it stands for, and where the next line starts. -/
def takeBreak (c : Cursor) : List Char × Cursor :=
  let next (n : Nat) : Cursor :=
    { rest := c.rest.drop n, line := c.line + 1, column := 0, index := c.index + n }
  match c.rest with
  | '\r' :: '\n' :: _ => (['\n'], next 2)
  | b :: _ =>
    if b == '\u2028' || b == '\u2029' then ([b], next 1)
    else if isBreak b then (['\n'], next 1)
    else ([], c)
  | [] => ([], c)

/-- The number of the line, counted from one. -/
def number (c : Cursor) : Nat := c.line + 1

/-- The next character. -/
def head? (c : Cursor) : Option Char := c.rest.head?

/-- Whether the next character satisfies a test. -/
def ahead (c : Cursor) (p : Char → Bool) : Bool := c.rest.head?.any p

/-- Past all characters of the line that satisfy a test. -/
def skipWhile (c : Cursor) (p : Char → Bool) : Cursor := c.advance (c.rest.takeWhile p).length

/-- Whether a line starts here with three times the given character and white space. -/
def atMark (c : Cursor) (m : Char) : Bool :=
  c.column == 0 && c.rest.take 3 == [m, m, m] && spaceAhead (c.rest.drop 3)

/-- Whether a document starts or ends here. -/
def atDocument (c : Cursor) : Bool := c.atMark '-' || c.atMark '.'

/-- Past a comment and all comments in the lines after it. -/
def skipComments : Nat → Cursor → Cursor
  | 0, c => c
  | fuel + 1, c =>
    if c.head? != some '#' then c
    else
      let c := c.skipWhile (!isBreak ·)
      let gap := c.rest.takeWhile isSpace
      if (c.rest.drop gap.length).head? == some '#' then
        skipComments fuel (gap.foldl (fun c b => if isBreak b then
          (if c.rest.isEmpty then c else { c with
            rest := c.rest.drop 1, line := c.line + 1, column := 0, index := c.index + 1 })
          else c.advance 1) c)
      else c

end Cursor

/-! ## White space inside scalars -/

/-- The white space met since the last word of a scalar. -/
structure Gap where
  /-- Blanks in the line of the word. -/
  blanks : List Char := []
  /-- The first line break. -/
  first : List Char := []
  /-- The line breaks after it. -/
  more : List Char := []
  /-- Whether the line of the word has ended. -/
  ended : Bool := false

namespace Gap

/-- What the white space stands for: a single line break is a space, and of several the first is
dropped. -/
def text (g : Gap) : List Char :=
  if g.ended then
    if g.first == ['\n'] then (if g.more.isEmpty then [' '] else g.more) else g.first ++ g.more
  else g.blanks

/-- Past the white space ahead. A tab in front of the given column of a later line is refused. -/
def extend (tabLimit : Nat) : Nat → Gap → Cursor → Option (Gap × Cursor)
  | 0, g, c => some (g, c)
  | fuel + 1, g, c =>
    match c.rest with
    | [] => some (g, c)
    | b :: _ =>
      if isBlank b then
        if g.ended then
          if b == '\t' && c.column < tabLimit then none else extend tabLimit fuel g (c.advance 1)
        else extend tabLimit fuel { g with blanks := g.blanks ++ [b] } (c.advance 1)
      else if isBreak b then
        let (t, c) := c.takeBreak
        let g := if g.ended then { g with more := g.more ++ t }
          else { g with blanks := [], first := t, ended := true }
        extend tabLimit fuel g c
      else some (g, c)

end Gap

/-! ## Scalars without quotes -/

/-- The characters that end a plain scalar inside brackets or braces. -/
def endsFlowScalar (c : Char) : Bool := ",?[]\x7b\x7d".toList.contains c

/-- The longest stretch of a plain scalar without white space. -/
def plainWord (flow : Bool) : List Char → List Char
  | [] => []
  | c :: rest =>
    if isSpace c || (c == ':' && spaceAhead rest) || (flow && endsFlowScalar c) then []
    else c :: plainWord flow rest

/-- A plain scalar: its text, whether its last line has ended, and what follows. -/
def plainFrom (flow : Bool) (indent : Nat) : Nat → List Char → Gap → Cursor →
    Option (List Char × Bool × Cursor)
  | 0, _, _, _ => none
  | fuel + 1, text, gap, c =>
    if c.atDocument || c.head? == some '#' then some (text, gap.ended, c)
    else
      let word := plainWord flow c.rest
      let c := c.advance word.length
      let (text, gap) := if word.isEmpty then (text, gap) else (text ++ gap.text ++ word, {})
      if c.ahead isSpace then do
        let (gap, c) ← gap.extend indent (c.rest.length + 1) c
        if !flow && c.column < indent then some (text, gap.ended, c)
        else plainFrom flow indent fuel text gap c
      else some (text, gap.ended, c)

/-! ## Quoted scalars -/

/-- The character of a one-letter escape. -/
def escape? : Char → Option Char
  | '0' => some '\x00'
  | 'a' => some '\x07'
  | 'b' => some '\x08'
  | 't' => some '\t'
  | '\t' => some '\t'
  | 'n' => some '\n'
  | 'v' => some '\x0b'
  | 'f' => some '\x0c'
  | 'r' => some '\r'
  | 'e' => some '\x1b'
  | ' ' => some ' '
  | '"' => some '"'
  | '\'' => some '\''
  | '/' => some '/'
  | '\\' => some '\\'
  | 'N' => some '\x85'
  | '_' => some '\xa0'
  | 'L' => some '\u2028'
  | 'P' => some '\u2029'
  | _ => none

/-- The number of digits of a numeric escape. -/
def escapeWidth : Char → Nat
  | 'x' => 2
  | 'u' => 4
  | 'U' => 8
  | _ => 0

/-- The character of a hexadecimal code. -/
def hexChar? (ds : List Char) : Option Char := do
  let n ← ds.foldlM (fun n d => (hexDigit? d).map (n * 16 + ·)) 0
  if h : n.isValidChar then some (Char.ofNatAux n h) else none

/-- The characters of a quoted scalar up to white space or its end: the text read, whether an
escaped line break ended it, and what follows. -/
def quotedWord (double : Bool) : Nat → List Char → Cursor → Option (List Char × Bool × Cursor)
  | 0, _, _ => none
  | fuel + 1, text, c =>
    match c.rest with
    | [] => some (text, false, c)
    | '\'' :: rest =>
      if double then quotedWord double fuel (text ++ ['\'']) (c.advance 1)
      else if rest.head? == some '\'' then quotedWord double fuel (text ++ ['\'']) (c.advance 2)
      else some (text, false, c)
    | '"' :: _ =>
      if double then some (text, false, c)
      else quotedWord double fuel (text ++ ['"']) (c.advance 1)
    | '\\' :: rest =>
      if !double then quotedWord double fuel (text ++ ['\\']) (c.advance 1)
      else
        match rest with
        | [] => none
        | e :: digits =>
          if isBreak e then some (text, true, (c.advance 1).takeBreak.2)
          else
            match escape? e, escapeWidth e with
            | some x, _ => quotedWord double fuel (text ++ [x]) (c.advance 2)
            | none, 0 => none
            | none, n =>
              if digits.length < n then none
              else
                match hexChar? (digits.take n) with
                | some x => quotedWord double fuel (text ++ [x]) (c.advance (n + 2))
                | none => none
    | x :: _ =>
      if isSpace x then some (text, false, c)
      else quotedWord double fuel (text ++ [x]) (c.advance 1)

/-- The rest of a quoted scalar, the opening quote being read. -/
def quotedFrom (double : Bool) : Nat → List Char → Cursor → Option (List Char × Cursor)
  | 0, _, _ => none
  | fuel + 1, text, c => do
    if c.atDocument || c.rest.isEmpty then none
    let (word, escaped, c) ← quotedWord double (c.rest.length + 1) [] c
    let text := text ++ word
    if !escaped && c.head? == some (if double then '"' else '\'') then some (text, c.advance 1)
    else
      let (gap, c) ← Gap.extend 0 (c.rest.length + 1) { ended := escaped } c
      quotedFrom double fuel (text ++ gap.text) c

/-! ## Block scalars -/

/-- What happens to the line breaks at the end of a block scalar. -/
inductive Chomp where
  /-- All are dropped. -/
  | strip
  /-- One is kept. -/
  | clip
  /-- All are kept. -/
  | keep
deriving DecidableEq

/-- The chomping that a sign asks for. -/
def chomp? : Option Char → Option Chomp
  | some '+' => some .keep
  | some '-' => some .strip
  | _ => none

/-- The indentation that a digit asks for; zero is refused. -/
def increment? (c : Cursor) : Option (Nat × Cursor) :=
  match c.head? with
  | some d =>
    if d.isDigit then (if d == '0' then none else some (d.toNat - 48, c.advance 1)) else some (0, c)
  | none => some (0, c)

/-- The header of a block scalar after its indicator: chomping, indentation, and the next line. -/
def blockHeader (c : Cursor) : Option (Chomp × Nat × Cursor) := do
  let (chomp, increment, c) ←
    match chomp? c.head? with
    | some ch => (increment? (c.advance 1)).map fun (n, c) => (ch, n, c)
    | none => (increment? c).map fun (n, c) =>
      match (if n > 0 then chomp? c.head? else none) with
      | some ch => (ch, n, c.advance 1)
      | none => (Chomp.clip, n, c)
  let c := c.skipWhile isBlank
  let c := if c.head? == some '#' then c.skipWhile (!isBreak ·) else c
  if c.ahead (!isBreak ·) then none
  return (chomp, increment, c.takeBreak.2)

/-- Empty lines and indentation inside a block scalar; with no indentation known the spaces of the
widest line count. Gives the line breaks, the widest column and what follows. -/
def blockBreaks (indent : Nat) : Nat → List Char → Nat → Cursor → Option (List Char × Nat × Cursor)
  | 0, _, _, _ => none
  | fuel + 1, breaks, widest, c =>
    let spaces := (c.rest.takeWhile (· == ' ')).length
    let c := c.advance (if indent == 0 then spaces else min spaces (indent - c.column))
    let widest := max widest c.column
    if (indent == 0 || c.column < indent) && c.head? == some '\t' then none
    else if c.ahead isBreak then
      let (t, c) := c.takeBreak
      blockBreaks indent fuel (breaks ++ t) widest c
    else some (breaks, widest, c)

/-- The lines of a block scalar: the text before the last line break, that break, the breaks after
it, and what follows. -/
def blockLines (literal : Bool) (indent : Nat) : Nat → List Char → List Char → List Char → Bool →
    Cursor → Option (List Char × List Char × List Char × Cursor)
  | 0, _, _, _, _, _ => none
  | fuel + 1, text, last, breaks, blank, c =>
    if c.column != indent || c.rest.isEmpty then some (text, last, breaks, c)
    else do
      let blankNow := c.ahead isBlank
      let joint :=
        if !literal && !blank && !blankNow && last == ['\n'] then
          (if breaks.isEmpty then [' '] else [])
        else last
      let line := c.rest.takeWhile (!isBreak ·)
      let (last, c) := (c.advance line.length).takeBreak
      let (more, _, c) ← blockBreaks indent (c.rest.length + 1) [] 0 c
      blockLines literal indent fuel (text ++ joint ++ breaks ++ line) last more blankNow c

/-- A block scalar after its indicator, in a collection of the given indentation. -/
def blockScalar (literal : Bool) (outer : Int) (c : Cursor) : Option (List Char × Cursor) := do
  let (chomp, increment, c) ← blockHeader c
  let given := if increment == 0 then 0 else (max outer 0).toNat + increment
  let (breaks, widest, c) ← blockBreaks given (c.rest.length + 1) [] 0 c
  let indent := if given == 0 then max (max widest (outer + 1).toNat) 1 else given
  let (text, last, breaks, c) ← blockLines literal indent (c.rest.length + 1) [] [] breaks false c
  let tail := match chomp with
    | .strip => []
    | .clip => last
    | .keep => last ++ breaks
  return (text ++ tail, c)

/-! ## Names, tags and directives -/

/-- The name of an anchor or alias after its indicator. -/
def nameAfter (c : Cursor) : Option (String × Cursor) :=
  let name := c.rest.takeWhile isName
  let c := c.advance name.length
  if name.isEmpty || !(spaceAhead c.rest || c.ahead ("?:,]\x7d%@".push (Char.ofNat 96)).toList.contains)
  then none
  else some (String.ofList name, c)

/-- The characters of tags. -/
def isTagChar (c : Char) : Bool := isName c || ";/?:@&=+$.!~*'()%,[]".toList.contains c

/-- The bytes of a tag, with percent escapes resolved. -/
def tagBytes : List Char → Option Bytes
  | [] => some []
  | '%' :: a :: b :: rest => do
    let high ← hexDigit? a
    let low ← hexDigit? b
    return (high * 16 + low).toUInt8 :: (← tagBytes rest)
  | c :: rest => if c == '%' then none else (tagBytes rest).map (utf8 (String.singleton c) ++ ·)

/-- The text of a tag. -/
def tagText (cs : List Char) : Option String := (tagBytes cs).bind Text.Utf8.decode?

/-- A tag: handle and suffix. -/
def tagAt (c : Cursor) : Option (String × String × Cursor) := do
  let (handle, suffix, c) ←
    match c.rest with
    | '!' :: '<' :: rest =>
      let body := rest.takeWhile isTagChar
      let c := c.advance (2 + body.length)
      if body.isEmpty || c.head? != some '>' then none
      else some ("", ← tagText body, c.advance 1)
    | '!' :: rest =>
      let name := rest.takeWhile isName
      if (rest.drop name.length).head? == some '!' then
        let body := (rest.drop (name.length + 1)).takeWhile isTagChar
        if body.isEmpty then none
        else some ("!" ++ String.ofList name ++ "!", ← tagText body,
          c.advance (2 + name.length + body.length))
      else
        let body := rest.takeWhile isTagChar
        let c := c.advance (1 + body.length)
        if body.isEmpty then some ("", "!", c) else some ("!", ← tagText body, c)
    | _ => none
  if spaceAhead c.rest then some (handle, suffix, c) else none

/-- A number of a version. -/
def versionNumber (c : Cursor) : Option (Nat × Cursor) :=
  let ds := c.rest.takeWhile Char.isDigit
  if ds.isEmpty || ds.length > 9 then none
  else some (ds.foldl (fun n d => n * 10 + (d.toNat - 48)) 0, c.advance ds.length)

/-- A directive, from its percent sign to the end of its line. -/
def directive (c : Cursor) : Option (Token × Cursor) := do
  let name := (c.rest.drop 1).takeWhile isName
  let c := c.advance (1 + name.length)
  if name.isEmpty || !spaceAhead c.rest then none
  let c := c.skipWhile isBlank
  let (token, c) ←
    match String.ofList name with
    | "YAML" => do
      let (major, c) ← versionNumber c
      if c.head? != some '.' then none
      let (minor, c) ← versionNumber (c.advance 1)
      some (Token.version major minor, c)
    | "TAG" => do
      if c.head? != some '!' then none
      let body := (c.rest.drop 1).takeWhile isName
      let closed := (c.rest.drop (1 + body.length)).head? == some '!'
      if !closed && !body.isEmpty then none
      let handle := "!" ++ String.ofList body ++ (if closed then "!" else "")
      let c := c.advance handle.length
      if !c.ahead isBlank then none
      let c := c.skipWhile isBlank
      let expansion := c.rest.takeWhile isTagChar
      let c := c.advance expansion.length
      if expansion.isEmpty || !spaceAhead c.rest then none
      some (Token.shorthand handle (← tagText expansion), c)
    | _ => none
  let c := c.skipWhile isBlank
  let c := if c.head? == some '#' then c.skipWhile (!isBreak ·) else c
  if c.ahead (!isBreak ·) then none
  return (token, c.takeBreak.2)

/-! ## The scanner -/

/-- Where a key without indicator may start. -/
structure KeyMark where
  /-- Nothing but a key can stand here. -/
  required : Bool
  /-- How many tokens come before it. -/
  position : Nat
  /-- Where it starts. -/
  start : Cursor

/-- The state of scanning. -/
structure Scanner where
  /-- What is still to be read. -/
  cursor : Cursor
  /-- The tokens so far, the latest first. -/
  output : List Token := []
  /-- How many tokens there are. -/
  count : Nat := 0
  /-- The column of the current block collection, and those around it. -/
  indent : Int := -1
  /-- The columns of the collections around it. -/
  outer : List Int := []
  /-- The possible key at the current nesting of brackets and braces. -/
  pending : Option KeyMark := none
  /-- The possible keys around it, one for each open bracket or brace. -/
  suspended : List (Option KeyMark) := []
  /-- Whether a key may start here. -/
  keyAllowed : Bool := true

namespace Scanner

/-- Whether a bracket or brace is open. -/
def inFlow (s : Scanner) : Bool := !s.suspended.isEmpty

/-- One more token. -/
def emit (s : Scanner) (t : Token) : Scanner :=
  { s with output := t :: s.output, count := s.count + 1 }

/-- One more token, in front of those from a position on. -/
def emitAt (s : Scanner) (position : Nat) (t : Token) : Scanner :=
  let later := s.count - position
  { s with output := s.output.take later ++ t :: s.output.drop later, count := s.count + 1 }

/-- The block collections that are deeper than a column end. -/
def unroll (s : Scanner) (column : Int) : Scanner :=
  if s.inFlow then s else go (s.outer.length + 1) s
where
  /-- One collection after the other. -/
  go : Nat → Scanner → Scanner
    | 0, s => s
    | fuel + 1, s =>
      if s.indent > column then
        match s.outer with
        | [] => { s with indent := -1 }
        | i :: outer => go fuel { s.emit .blockEnd with indent := i, outer }
      else s

/-- A block collection starts at a column, unless one is open there. -/
def roll (s : Scanner) (column : Nat) (position : Nat) (t : Token) : Scanner :=
  if s.inFlow || s.indent ≥ column then s
  else { s.emitAt position t with indent := column, outer := s.indent :: s.outer }

/-- The possible key is given up; a required one may not be. -/
def dropKey (s : Scanner) : Option Scanner :=
  match s.pending with
  | some k => if k.required then none else some { s with pending := none }
  | none => some s

/-- A key may start here, if keys are allowed. -/
def saveKey (s : Scanner) : Option Scanner := do
  if !s.keyAllowed then some s
  else
    let s ← s.dropKey
    some { s with pending := some {
      required := !s.inFlow && s.indent == s.cursor.column, position := s.count
      start := s.cursor } }

/-- The possible key, if it is still in reach: in the same line and not too far back. -/
def liveKey (s : Scanner) : Option (Option KeyMark) :=
  match s.pending with
  | none => some none
  | some k =>
    if k.start.line < s.cursor.line || k.start.index + 1024 < s.cursor.index then
      if k.required then none else some none
    else some (some k)

/-- Past blanks, comments and line breaks to the next token. -/
def skipSpace : Nat → Scanner → Scanner
  | 0, s => s
  | fuel + 1, s =>
    let c := s.cursor.skipWhile fun b => b == ' ' || (b == '\t' && (s.inFlow || !s.keyAllowed))
    let c := c.skipComments (c.rest.length + 1)
    if c.ahead isBreak then
      skipSpace fuel { s with cursor := c.takeBreak.2, keyAllowed := s.keyAllowed || !s.inFlow }
    else { s with cursor := c }

/-- An indicator of one character. -/
def indicator (s : Scanner) (t : Token) : Scanner :=
  { s.emit t with cursor := s.cursor.advance 1 }

/-- A document marker or directive starts: nothing of the current document goes on. -/
def closeAll (s : Scanner) : Option Scanner := do
  let s ← (s.unroll (-1)).dropKey
  return { s with keyAllowed := false }

/-- The indicator of a value. -/
def valueIndicator (s : Scanner) : Option Scanner := do
  match ← s.liveKey with
  | some k =>
    let s := (s.emitAt k.position .key).roll k.start.column k.position (.mapStart k.start.number)
    return { s with pending := none, keyAllowed := false }.indicator .value
  | none =>
    let s := { s with pending := none }
    if s.inFlow then return { s with keyAllowed := false }.indicator .value
    else if !s.keyAllowed then none
    else return (s.roll s.cursor.column s.count (.mapStart s.cursor.number)).indicator .value

/-- A scalar that may be a key. -/
def scalarToken (s : Scanner) (text : List Char) (plain : Bool) (c : Cursor) : Scanner :=
  { s.emit (.scalar (String.ofList text) plain s.cursor.number) with
    cursor := c, keyAllowed := false }

/-- The characters that cannot start a plain scalar. -/
def isIndicator (c : Char) : Bool :=
  ("-?:,[]\x7b\x7d#&*!|>'\"%@".push (Char.ofNat 96)).toList.contains c

/-- Whether a plain scalar starts here. -/
def plainAhead (s : Scanner) : Bool :=
  match s.cursor.rest with
  | [] => false
  | c :: rest =>
    !(isSpace c || isIndicator c) || (c == '-' && !(rest.head?.any isBlank)) ||
      (!s.inFlow && (c == '?' || c == ':') && !spaceAhead rest)

/-- The next token, or tokens, of a text that has not ended; `none` if there can be none. -/
def next (s : Scanner) : Option Scanner :=
  let c := s.cursor
  let after := spaceAhead (c.rest.drop 1)
  match c.rest with
  | [] => none
  | h :: _ =>
    if c.column == 0 && h == '%' then do
      let s ← s.closeAll
      let (t, c) ← directive s.cursor
      some { s.emit t with cursor := c }
    else if c.atDocument then do
      let s ← s.closeAll
      some { s.emit (if h == '-' then .docStart else .docEnd) with cursor := c.advance 3 }
    else if h == '[' || h == '{' then do
      let s ← s.saveKey
      some ({ s with suspended := s.pending :: s.suspended, pending := none, keyAllowed := true
        }.indicator (if h == '[' then .flowSeqStart c.number else .flowMapStart c.number))
    else if h == ']' || h == '}' then do
      let s ← s.dropKey
      let s := match s.suspended with
        | [] => s
        | k :: outer => { s with pending := k, suspended := outer }
      some ({ s with keyAllowed := false }.indicator
        (if h == ']' then .flowSeqEnd else .flowMapEnd))
    else if h == ',' then do
      let s ← s.dropKey
      some ({ s with keyAllowed := true }.indicator .flowEntry)
    else if h == '-' && after then do
      if !s.inFlow && !s.keyAllowed then none
      let s ← (s.roll c.column s.count (.seqStart c.number)).dropKey
      some ({ s with keyAllowed := true }.indicator .entry)
    else if h == '?' && (s.inFlow || after) then do
      if !s.inFlow && !s.keyAllowed then none
      let s ← (s.roll c.column s.count (.mapStart c.number)).dropKey
      some ({ s with keyAllowed := !s.inFlow }.indicator .key)
    else if h == ':' && (s.inFlow || after) then s.valueIndicator
    else if h == '*' || h == '&' then do
      let s ← s.saveKey
      let (name, c) ← nameAfter (c.advance 1)
      some { s.emit (if h == '*' then .alias name else .anchor name) with
        cursor := c, keyAllowed := false }
    else if h == '!' then do
      let s ← s.saveKey
      let (handle, suffix, c) ← tagAt c
      some { s.emit (.tag handle suffix) with cursor := c, keyAllowed := false }
    else if (h == '|' || h == '>') && !s.inFlow then do
      let s ← s.dropKey
      let (text, c) ← blockScalar (h == '|') s.indent (c.advance 1)
      some { s.scalarToken text false c with keyAllowed := true }
    else if h == '\'' || h == '"' then do
      let s ← s.saveKey
      let (text, c) ← quotedFrom (h == '"') (c.rest.length + 1) [] (c.advance 1)
      some (s.scalarToken text false c)
    else if s.plainAhead then do
      let s ← s.saveKey
      let (text, ended, c) ← plainFrom s.inFlow (s.indent + 1).toNat (c.rest.length + 1) [] {} c
      some { s.scalarToken text true c with keyAllowed := ended }
    else none

/-- The end of the text. -/
def finish (s : Scanner) : Option Scanner := do
  let s ← (s.unroll (-1)).dropKey
  return s.emit .streamEnd

/-- All tokens, the latest first. -/
def run : Nat → Scanner → List Token
  | 0, s => .broken :: s.output
  | fuel + 1, s =>
    let ready := s.skipSpace (s.cursor.rest.length + 1)
    let ready := ready.unroll ready.cursor.column
    if ready.cursor.rest.isEmpty then
      match ready.finish with
      | some done => done.output
      | none => .broken :: s.output
    else
      match ready.next with
      | some more => run fuel more
      | none => .broken :: s.output

end Scanner

/-- The tokens of a text. -/
def tokens (text : Bytes) : List Token :=
  match Text.Utf8.characters? text with
  | none => [.broken]
  | some cs =>
    let cs := match cs with
      | '\ufeff' :: rest => rest
      | cs => cs
    if cs.all isAllowed then
      (Scanner.run (cs.length + 2) { cursor := { rest := cs } }).reverse
    else [.broken]

end SceneForge.Yaml
