set_option autoImplicit false

/-!
# Slash-separated paths

A path is text whose elements are separated by slashes. The rules here are about spelling only:
what is the last element, what is the directory, what is the shortest equivalent spelling. They are
stated on lists of characters, where elements are found by recursion; functions on `String` wrap
them.

## Main definitions

* `SceneForge.Path.split`, `SceneForge.Path.join` — the elements of a path and back.
* `SceneForge.Path.push`, `SceneForge.Path.clean` — the shortest equivalent spelling: empty and `.`
  elements dropped, `..` cancelled against the element before it.
* `SceneForge.Path.base`, `SceneForge.Path.dir`, `SceneForge.Path.ext` — last element, directory,
  extension.
* `SceneForge.Path.norm` — the spelling used inside a depot: slashes only, clean, not rooted.
-/

namespace SceneForge.Path

/-- An element of a path. -/
abbrev Part := List Char

/-- The element that names the directory itself. -/
def dot : Part := ['.']

/-- The element that names the parent directory. -/
def dotDot : Part := ['.', '.']

/-! ## Elements -/

/-- Every backslash replaced by a slash. -/
def slashed (cs : List Char) : List Char := cs.map fun c => if c = '\\' then '/' else c

/-- The elements between slashes, empty ones included. -/
def split : List Char → List Part
  | [] => [[]]
  | c :: cs =>
    if c = '/' then [] :: split cs
    else
      match split cs with
      | [] => [[c]]
      | p :: ps => (c :: p) :: ps

/-- Elements joined by single slashes. -/
def join : List Part → List Char
  | [] => []
  | [p] => p
  | p :: q :: ps => p ++ '/' :: join (q :: ps)

/-! ## Shortest spelling -/

/-- One element joins a reversed list of clean elements. Above the root there is only the root. -/
def push (rooted : Bool) (stack : List Part) (p : Part) : List Part :=
  if p = [] ∨ p = dot then stack
  else if p = dotDot then
    match stack with
    | [] => if rooted then [] else [dotDot]
    | top :: rest => if top = dotDot then dotDot :: top :: rest else rest
  else p :: stack

/-- Whether a path starts at the root. -/
def isRooted : List Char → Bool
  | '/' :: _ => true
  | _ => false

/-- The elements of the shortest spelling. -/
def cleanParts (cs : List Char) : List Part :=
  ((split cs).foldl (push (isRooted cs)) []).reverse

/-- The shortest spelling of a path. -/
def cleanChars (cs : List Char) : List Char :=
  let out := join (cleanParts cs)
  if isRooted cs then '/' :: out else if out = [] then dot else out

/-- The shortest spelling of a path. -/
def clean (p : String) : String := String.ofList (cleanChars p.toList)

/-- Paths joined and cleaned; empty ones are left out, and nothing at all gives the empty text. -/
def joinAll (ps : List String) : String :=
  match ps.filter (· ≠ "") with
  | [] => ""
  | qs => String.ofList (cleanChars (join (qs.map String.toList)))

/-! ## Last element, directory, extension -/

/-- What follows the last slash. -/
def afterSlash (cs : List Char) : List Char :=
  (cs.reverse.takeWhile (· ≠ '/')).reverse

/-- Everything up to the last slash, the slash included. -/
def uptoSlash (cs : List Char) : List Char :=
  (cs.reverse.dropWhile (· ≠ '/')).reverse

/-- The last element, trailing slashes ignored. -/
def baseChars (cs : List Char) : List Char :=
  if cs = [] then dot
  else
    let trimmed := (cs.reverse.dropWhile (· = '/')).reverse
    if trimmed = [] then ['/'] else afterSlash trimmed

/-- The clean directory of a path. -/
def dirChars (cs : List Char) : List Char := cleanChars (uptoSlash cs)

/-- The extension: from the last dot of the last element on, or nothing. -/
def extChars (cs : List Char) : List Char :=
  let name := afterSlash cs
  if '.' ∈ name then '.' :: (name.reverse.takeWhile (· ≠ '.')).reverse else []

/-- The last element of a path, trailing slashes ignored. -/
def base (p : String) : String := String.ofList (baseChars p.toList)

/-- The clean directory of a path. -/
def dir (p : String) : String := String.ofList (dirChars p.toList)

/-- The extension of a path, with its dot. -/
def ext (p : String) : String := String.ofList (extChars p.toList)

/-- A text without an ending that it may have. -/
def dropEnding (s ending : List Char) : List Char :=
  if ending.isSuffixOf s then s.take (s.length - ending.length) else s

/-! ## Spelling inside a depot -/

/-- Slashes only, clean, and without the leading slash. -/
def normChars (cs : List Char) : List Char :=
  let p := cleanChars (slashed cs)
  let p := if isRooted p then p.drop 1 else p
  if p = [] then dot else p

/-- Slashes only, clean, and without the leading slash. -/
def norm (p : String) : String := String.ofList (normChars p.toList)

/-- The part before the first colon and the part after it. -/
def cutColon (cs : List Char) : Option (List Char × List Char) :=
  if ':' ∈ cs then some (cs.takeWhile (· ≠ ':'), (cs.dropWhile (· ≠ ':')).drop 1) else none

end SceneForge.Path
