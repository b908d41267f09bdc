import SceneForge.Text.Utf8

set_option autoImplicit false

/-!
# File trees

A tree maps locations to files and directories. A location is the list of the elements of its path,
so that "below" is being a list prefix. The empty location is the top directory, which always
exists.

## Main definitions

* `SceneForge.Location`, `SceneForge.Entry`, `SceneForge.Tree`.
* `SceneForge.Tree.find?`, `SceneForge.Tree.insert`, `SceneForge.Tree.erase` — look-up, replacement,
  removal of a location with everything below it.
* `SceneForge.Tree.children` — the entries directly below a location, sorted by name.
* `SceneForge.Tree.obstacle?`, `SceneForge.Tree.makeDirs` — a directory with all its ancestors.
-/

namespace SceneForge

/-- The elements of a path, outermost first. -/
abbrev Location := List String

/-- The path of a location. -/
def Location.path (loc : Location) : String := if loc.isEmpty then "." else "/".intercalate loc

/-- What a location holds. -/
inductive Entry where
  /-- A file with its contents and modification time in nanoseconds. -/
  | file (data : Bytes) (time : Int)
  /-- A directory with its modification time in nanoseconds. -/
  | dir (time : Int)
deriving DecidableEq, Inhabited

namespace Entry

/-- Whether the entry is a directory. -/
def isDir : Entry → Bool
  | dir _ => true
  | file _ _ => false

/-- The modification time. -/
def time : Entry → Int
  | file _ t => t
  | dir t => t

/-- The same entry with another modification time. -/
def setTime (t : Int) : Entry → Entry
  | file d _ => file d t
  | dir _ => dir t

end Entry

/-- Files and directories by location; the top directory is not listed. -/
structure Tree where
  /-- The entries, each location at most once. -/
  entries : List (Location × Entry) := []
deriving DecidableEq, Inhabited

namespace Tree

/-- What a location holds; the top directory is always there. -/
def find? (t : Tree) (loc : Location) : Option Entry :=
  if loc = [] then some (.dir 0) else (t.entries.find? fun e => e.1 = loc).map (·.2)

/-- The tree with a location holding a given entry. -/
def insert (t : Tree) (loc : Location) (e : Entry) : Tree :=
  if t.entries.any fun x => x.1 = loc then
    ⟨t.entries.map fun x => if x.1 = loc then (loc, e) else x⟩
  else ⟨t.entries ++ [(loc, e)]⟩

/-- The tree without a location and everything below it. -/
def erase (t : Tree) (loc : Location) : Tree :=
  ⟨t.entries.filter fun x => !loc.isPrefixOf x.1⟩

/-- Sorting by name. -/
def byName (es : List (String × Entry)) : List (String × Entry) :=
  es.mergeSort fun a b => decide (a.1 ≤ b.1)

/-- The entries directly below a location, sorted by name. -/
def children (t : Tree) (loc : Location) : List (String × Entry) :=
  byName (t.entries.filterMap fun x =>
    if loc.isPrefixOf x.1 then
      match x.1.drop loc.length with
      | [name] => some (name, x.2)
      | _ => none
    else none)

/-- The locations on the way from the top to a location, itself included, outermost first. -/
def ancestry (loc : Location) : List Location :=
  (List.range loc.length).map fun i => loc.take (i + 1)

/-- The outermost file on the way to a location. -/
def obstacle? (t : Tree) (loc : Location) : Option Location :=
  (ancestry loc).find? fun l => match t.find? l with
    | some (.file _ _) => true
    | _ => false

/-- The tree with every missing directory on the way to a location added. -/
def makeDirs (t : Tree) (loc : Location) (time : Int) : Tree :=
  (ancestry loc).foldl (fun t l => if (t.find? l).isSome then t else t.insert l (.dir time)) t

end Tree

end SceneForge
