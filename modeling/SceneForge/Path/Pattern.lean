import SceneForge.Text.Utf8

set_option autoImplicit false

/-!
# File name patterns

A pattern is text in which `*` stands for any run of bytes without a slash, `?` for one character
other than a slash, `[...]` for one character of a class, and a backslash makes the next byte stand
for itself. The stars cut a pattern into chunks. A chunk behind a star is put at the leftmost place
where it fits, and stays there: whatever comes behind it fits or not, no other place is tried.

## Main definitions

* `SceneForge.Pattern.Token`, `SceneForge.Pattern.Chunk` — one position of a pattern, and the
  positions between two stars.
* `SceneForge.Pattern.parse` — the chunks of a pattern; `none` if it is malformed.
* `SceneForge.Pattern.matchesName` — whether the chunks match a whole name.
-/

namespace SceneForge.Pattern

open Text

/-- One position of a pattern. -/
inductive Token where
  /-- One character other than a slash. -/
  | any
  /-- One byte. -/
  | byte (b : UInt8)
  /-- One character of a class, or outside it. -/
  | oneOf (negated : Bool) (ranges : List (Nat × Nat))

/-- The positions between two stars. -/
structure Chunk where
  /-- Whether a star is in front of them. -/
  floats : Bool
  /-- The positions. Only the last chunk can be without any, behind a star at the end. -/
  tokens : List Token

namespace Chunk

/-- Chunks with one more position in front. -/
def prepend (t : Token) : List Chunk → List Chunk
  | ⟨false, ts⟩ :: cs => ⟨false, t :: ts⟩ :: cs
  | cs => ⟨false, [t]⟩ :: cs

/-- Chunks with a star in front; more stars in a row are one. -/
def float : List Chunk → List Chunk
  | [] => [⟨true, []⟩]
  | c :: cs => { c with floats := true } :: cs

end Chunk

/-- The first character of a byte list and what follows; a stray byte reads as U+FFFD. -/
def firstChar : Bytes → Option (Nat × Bytes)
  | [] => none
  | b :: rest =>
    match Utf8.next (b :: rest) with
    | some (c, n) => some (c.toNat, (b :: rest).drop n)
    | none => some (0xfffd, rest)

/-- A bound of a class range: a character, or the one after a backslash. More has to follow, since
the class is still open. -/
def bound (chunk : Bytes) : Option (Nat × Bytes) :=
  let chunk? := match chunk with
    | [] => none
    | b :: rest =>
      if b == 0x2d || b == 0x5d then none
      else if b == 0x5c then (if rest.isEmpty then none else some rest)
      else some (b :: rest)
  chunk?.bind fun cs =>
    match Utf8.next cs with
    | none => none
    | some (c, n) =>
      let rest := cs.drop n
      if rest.isEmpty then none else some (c.toNat, rest)

/-- The ranges of a class up to its closing bracket. -/
def ranges : Nat → List (Nat × Nat) → Bytes → Option (List (Nat × Nat) × Bytes)
  | 0, _, _ => none
  | fuel + 1, acc, chunk =>
    match chunk, acc with
    | 0x5d :: rest, _ :: _ => some (acc.reverse, rest)
    | _, _ =>
      (bound chunk).bind fun (lo, rest) =>
        match rest with
        | 0x2d :: rest => (bound rest).bind fun (hi, rest) => ranges fuel ((lo, hi) :: acc) rest
        | _ => ranges fuel ((lo, lo) :: acc) rest

/-- The chunks of a pattern, given fuel for its length. -/
def parseFrom : Nat → Bytes → Option (List Chunk)
  | _, [] => some []
  | 0, _ => none
  | fuel + 1, b :: rest =>
    if b == 0x2a then (parseFrom fuel rest).map Chunk.float
    else if b == 0x3f then (parseFrom fuel rest).map (Chunk.prepend .any)
    else if b == 0x5c then
      match rest with
      | [] => none
      | c :: rest => (parseFrom fuel rest).map (Chunk.prepend (.byte c))
    else if b == 0x5b then
      let (negated, rest) := match rest with
        | 0x5e :: rest => (true, rest)
        | _ => (false, rest)
      (ranges (rest.length + 1) [] rest).bind fun (rs, rest) =>
        (parseFrom fuel rest).map (Chunk.prepend (.oneOf negated rs))
    else (parseFrom fuel rest).map (Chunk.prepend (.byte b))

/-- The chunks of a pattern; `none` if a class or an escape is left open or malformed. -/
def parse (pattern : String) : Option (List Chunk) :=
  let bs := utf8 pattern
  parseFrom bs.length bs

/-- What is left of a byte list behind one position; `none` if the position does not fit. -/
def Token.take : Token → Bytes → Option Bytes
  | .any, s => (firstChar s).bind fun (c, rest) => if c == 0x2f then none else some rest
  | .byte b, s =>
    match s with
    | [] => none
    | c :: rest => if b == c then some rest else none
  | .oneOf negated rs, s => (firstChar s).bind fun (c, rest) =>
    if (rs.any fun r => r.1 ≤ c && c ≤ r.2) != negated then some rest else none

/-- What is left of a byte list behind some positions. The last ones of a pattern leave nothing. -/
def fits (last : Bool) (ts : List Token) (s : Bytes) : Option Bytes :=
  (ts.foldlM (fun s (t : Token) => t.take s) s).filter fun rest => !last || rest.isEmpty

/-- What is left behind the leftmost place where some positions fit, with no slash skipped. -/
def seek (last : Bool) (ts : List Token) : Bytes → Option Bytes
  | [] => fits last ts []
  | b :: s => (fits last ts (b :: s)).or (if b == 0x2f then none else seek last ts s)

/-- Whether the chunks match a whole byte list. -/
def matchesFrom : List Chunk → Bytes → Bool
  | [], s => s.isEmpty
  | c :: cs, s =>
    match if c.floats then seek cs.isEmpty c.tokens s else fits cs.isEmpty c.tokens s with
    | none => false
    | some rest => matchesFrom cs rest

/-- Whether the chunks match a whole name. -/
def matchesName (cs : List Chunk) (name : String) : Bool := matchesFrom cs (utf8 name)

end SceneForge.Pattern
