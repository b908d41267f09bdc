import Std.Data.HashMap
import SceneForge.Text.NormalTable

set_option autoImplicit false

/-!
# Composed normal form

Canonically equivalent texts have one composed form: characters are decomposed, marks are put into
the order of their combining classes, and what composes is composed again. A run of more than
thirty marks is broken by a combining grapheme joiner.

## Main definitions

* `SceneForge.Text.normalize` — the composed normal form of a text.
-/

namespace SceneForge.Text

namespace Normal

/-- The number written in hexadecimal digits. -/
def ofHex (cs : List Char) : Nat :=
  cs.foldl (fun n c => 16 * n + (if c.isDigit then c.toNat - 48 else c.toNat - 87)) 0

/-- The blank-separated entries of a table. -/
def entries (table : String) : List (List Char) :=
  (table.split fun c => c == ' ' || c == '\n').toList.filterMap fun w =>
    let cs := w.copy.toList
    if cs.isEmpty then none else some cs

/-- One line of the decomposition table: the character, whether the pair composes back, and what
the character decomposes into. -/
def mapping (entry : List Char) : Nat × Bool × List Nat :=
  let head := entry.takeWhile fun c => c != '=' && c != ':'
  let rest := entry.drop head.length
  let parts := (rest.drop 1).splitOnP (· == '+')
  (ofHex head, rest.head? == some '=', parts.map ofHex)

/-- Every line of the decomposition table. -/
def mappings : List (Nat × Bool × List Nat) :=
  (entries NormalTable.decompositions).map mapping

/-- What a character decomposes into in one step. -/
def parts : Std.HashMap Nat (List Nat) :=
  mappings.foldl (fun m e => m.insert e.1 e.2.2) {}

/-- The character that a pair composes into. -/
def composites : Std.HashMap (Nat × Nat) Nat :=
  mappings.foldl (fun m e =>
    match e with
    | (c, true, [a, b]) => m.insert (a, b) c
    | _ => m) {}

/-- The combining classes other than zero, by run. -/
def classes : Array (Nat × Nat × Nat) :=
  ((entries NormalTable.combiningClasses).map fun e =>
    let first := e.takeWhile (· != '-')
    let rest := e.drop (first.length + 1)
    let last := rest.takeWhile (· != '=')
    (ofHex first, ofHex last, ofHex (rest.drop (last.length + 1)))).toArray

/-- The combining class of a character; zero for a starter. -/
def combiningClass (n : Nat) : Nat :=
  if n < 0x300 then 0
  else
    match classes.find? fun r => r.1 ≤ n && n ≤ r.2.1 with
    | some r => r.2.2
    | none => 0

/-- The Hangul syllables start here. -/
def hangulBase : Nat := 0xac00

/-- The full decomposition of a character; no chain of steps is longer than the fuel given. -/
def decomposeChar : Nat → Nat → List Nat
  | 0, n => [n]
  | fuel + 1, n =>
    if n < 0xc0 then [n]
    else if hangulBase ≤ n && n < hangulBase + 11172 then
      let s := n - hangulBase
      let lead := 0x1100 + s / 588
      let vowel := 0x1161 + s % 588 / 28
      if s % 28 == 0 then [lead, vowel] else [lead, vowel, 0x11a7 + s % 28]
    else
      match parts.get? n with
      | some ps => ps.flatMap (decomposeChar fuel)
      | none => [n]

/-- The character that two characters compose into. -/
def composePair (a b : Nat) : Option Nat :=
  if 0x1100 ≤ a && a < 0x1113 && 0x1161 ≤ b && b < 0x1176 then
    some (hangulBase + ((a - 0x1100) * 21 + (b - 0x1161)) * 28)
  else if hangulBase ≤ a && a < hangulBase + 11172 && (a - hangulBase) % 28 == 0
      && 0x11a8 ≤ b && b < 0x11c3 then
    some (a + (b - 0x11a7))
  else composites.get? (a, b)

/-- The longest run of marks that is kept together. -/
def maxMarks : Nat := 30

/-- Characters with their classes, a joiner put in front of every mark that would make a run of
marks longer than `maxMarks`. The first argument is the length of the current run. -/
def breakRuns : Nat → List Nat → List (Nat × Nat)
  | _, [] => []
  | run, n :: rest =>
    let k := combiningClass n
    if k == 0 then (n, 0) :: breakRuns 0 rest
    else if run ≥ maxMarks then (0x34f, 0) :: (n, k) :: breakRuns 1 rest
    else (n, k) :: breakRuns (run + 1) rest

/-- A mark moved in front of the marks of higher class at the end of a reversed list. -/
def sift (m : Nat × Nat) : List (Nat × Nat) → List (Nat × Nat)
  | [] => [m]
  | p :: rest => if m.2 != 0 && p.2 > m.2 then p :: sift m rest else m :: p :: rest

/-- Marks put into the order of their classes. -/
def reorder (cs : List (Nat × Nat)) : List (Nat × Nat) :=
  (cs.foldl (fun acc m => sift m acc) []).reverse

/-- The state of composition: what is finished, reversed; the starter that still composes; the
marks after it, reversed. -/
structure Composing where
  /-- Finished characters, last first. -/
  done : List Nat
  /-- The starter that still composes. -/
  starter : Option Nat
  /-- Marks kept after the starter, last first. -/
  marks : List (Nat × Nat)

/-- Everything seen so far, last first. -/
def Composing.flush (s : Composing) : List Nat :=
  s.marks.map (·.1) ++ s.starter.toList ++ s.done

/-- One character joins the composition. -/
def Composing.push (s : Composing) (m : Nat × Nat) : Composing :=
  let open? := match s.marks with
    | [] => true
    | last :: _ => last.2 < m.2
  match s.starter.bind fun a => if open? then composePair a m.1 else none with
  | some c => { s with starter := some c }
  | none =>
    if m.2 == 0 then ⟨s.flush, some m.1, []⟩
    else { s with marks := m :: s.marks }

end Normal

/-- The composed normal form of a text. -/
def normalize (s : String) : String :=
  if s.toList.all fun c => c.toNat < 0x300 then s
  else
    let cs := s.toList.flatMap fun c => Normal.decomposeChar 8 c.toNat
    let cs := Normal.reorder (Normal.breakRuns 0 cs)
    let out := (cs.foldl Normal.Composing.push ⟨[], none, []⟩).flush.reverse
    String.ofList (out.map Char.ofNat)

end SceneForge.Text
