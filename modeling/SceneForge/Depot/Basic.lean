import SceneForge.Asset.Id
import SceneForge.Depot.Tree
import SceneForge.Failure
import SceneForge.Metrics
import SceneForge.Text.Quoted

set_option autoImplicit false

/-!
# The depot

A depot is everything an export acts on, as one value: the file tree, the assignment of areas to
directories, the journal of mutating calls, the notices that were logged, what was counted, and the
outside world that decides which calls fail and what time it is. An action on it is a function from
depots to a result and a depot; a failed action keeps what it did before failing.

## Main definitions

* `SceneForge.Assigns` — the directories that areas are assigned to.
* `SceneForge.World` — clock, refusals and scratch names.
* `SceneForge.Depot`, `SceneForge.Job` — the state and the actions on it.
* `SceneForge.Assigns.resolve` — from a location text such as `msh:props/chair.mesh` to a path.
-/

namespace SceneForge

/-! ## Assigned directories -/

/-- Directories by tag, in depot spelling; the latest assignment comes first. -/
structure Assigns where
  /-- Tag and directory. -/
  bindings : List (String × String) := []
deriving DecidableEq, Inhabited

namespace Assigns

/-- The directory of a tag. -/
def find? (a : Assigns) (tag : String) : Option String :=
  (a.bindings.find? fun b => b.1 = tag).map (·.2)

/-- A tag bound to a directory, replacing any previous binding. -/
def bind (a : Assigns) (tag dir : String) : Assigns :=
  ⟨(tag, Path.norm dir) :: a.bindings.filter fun b => b.1 ≠ tag⟩

/-- Every tag of a list bound in order. -/
def ofList (bs : List (String × String)) : Assigns :=
  bs.foldl (fun a b => a.bind b.1 b.2) {}

/-- The directories of all areas below a project root. -/
def layout (root : String) : List (String × String) :=
  Area.all.map fun area => (area.tag, Path.joinAll (root :: area.place))

/-- All areas below a project root. -/
def below (root : String) : Assigns := ofList (layout root)

/-- The path of a location text. Without a tag, or with a slash in front of the first colon, the
text is itself a path. -/
def resolve (a : Assigns) (uri : String) : Except Failure String :=
  match Path.cutColon uri.toList with
  | none => .ok (Path.norm uri)
  | some (tag, rest) =>
    if '/' ∈ tag then .ok (Path.norm uri)
    else
      match a.find? (String.ofList tag) with
      | none =>
        .error ⟨.unknownAssign, [Text.quote (String.ofList tag) ++ " in " ++ uri]⟩
      | some dir => .ok (Path.norm (Path.joinAll [dir, String.ofList rest]))

end Assigns

/-! ## Calls, refusals and notices -/

/-- The calls that a depot answers. -/
inductive Operation where
  /-- Making a directory. -/
  | createDirectory
  /-- Removing a directory. -/
  | deleteDirectory
  /-- Listing files. -/
  | listFiles
  /-- Listing directories. -/
  | listDirectories
  /-- Opening a file for writing. -/
  | createStream
  /-- Opening a file for reading. -/
  | openStream
  /-- Writing to an open file. -/
  | write
  /-- Closing a written file. -/
  | close
  /-- Reading from an open file. -/
  | read
deriving DecidableEq, Inhabited

/-- A mutating call. -/
inductive Event where
  /-- A directory was to be made. -/
  | mkdir (uri : String)
  /-- A directory was to be removed. -/
  | rmdir (uri : String)
  /-- A file was to be written. -/
  | create (uri : String)
deriving DecidableEq, Inhabited

/-- How serious a notice is. -/
inductive Severity where
  /-- For developers. -/
  | debug
  /-- Progress. -/
  | info
  /-- Something was skipped or left behind. -/
  | warn
  /-- Something failed. -/
  | error
deriving DecidableEq, Inhabited

/-- The value of a detail of a notice. -/
inductive Detail where
  /-- A text. -/
  | text (s : String)
  /-- An integer. -/
  | int (n : Int)
deriving DecidableEq, Inhabited

/-- A logged message. -/
structure Notice where
  /-- How serious it is. -/
  severity : Severity
  /-- Its text. -/
  text : String
  /-- The part of the program it comes from, if it says so. -/
  origin : String := ""
  /-- Its details by name, in order; a name may occur more than once. -/
  details : List (String × Detail) := []
deriving DecidableEq, Inhabited

/-- Whether the files live in memory or on the host; the two word their errors differently. -/
inductive Backend where
  /-- Files in memory. -/
  | memory
  /-- Files of the host system. -/
  | host
deriving DecidableEq, Inhabited

/-- What the depot does not decide itself. Clock and refusals may depend on how many mutating calls
were made before. -/
structure World where
  /-- The time at which a mutating call takes place, in nanoseconds. -/
  clock : Nat → Int
  /-- Whether a call on a location fails. -/
  refuses : Nat → Operation → String → Bool
  /-- The name of each scratch directory, in order of use. -/
  scratch : Nat → String
  /-- Where the files live. -/
  backend : Backend := .memory

/-- The state that an export acts on. -/
structure Depot where
  /-- The files. -/
  tree : Tree
  /-- The assigned directories. -/
  assigns : Assigns
  /-- The outside world. -/
  world : World
  /-- The mutating calls so far, failed ones included. -/
  journal : List Event := []
  /-- The notices so far. -/
  notices : List Notice := []
  /-- What was counted so far. -/
  measures : Measures := {}
  /-- How many scratch names were used. -/
  scratchUsed : Nat := 0

/-- An action on a depot. -/
abbrev Job (α : Type) := ExceptT Failure (StateM Depot) α

namespace Depot

/-- The current time. -/
def now (d : Depot) : Int := d.world.clock d.journal.length

/-- Whether the world lets a call on a location fail now. -/
def refuses (d : Depot) (op : Operation) (uri : String) : Bool :=
  d.world.refuses d.journal.length op uri

/-- The depot with one more journal entry. -/
def record (d : Depot) (e : Event) : Depot := { d with journal := d.journal ++ [e] }

/-- The location of a path, unless it leaves the tree. -/
def locate (path : String) : Option Location :=
  let parts := (Path.split path.toList).map String.ofList
  if path = "." then some []
  else if parts.any fun p => p = ".." ∨ p = "." ∨ p = "" then none
  else some parts

/-- What a location text stands for, if anything is there. -/
def stat? (d : Depot) (uri : String) : Option Entry :=
  match d.assigns.resolve uri with
  | .error _ => none
  | .ok path => (locate path).bind d.tree.find?

/-- Whether a directory is there. -/
def directoryExists (d : Depot) (uri : String) : Bool :=
  match d.stat? uri with
  | some e => e.isDir
  | none => false

/-- Whether a file is there. -/
def fileExists (d : Depot) (uri : String) : Bool :=
  match d.stat? uri with
  | some e => !e.isDir
  | none => false

/-- The modification time of what is there. -/
def modTime? (d : Depot) (uri : String) : Option Int := (d.stat? uri).map (·.time)

end Depot

namespace Job

/-- The result of an action and the depot it leaves. -/
def runOn {α : Type} (job : Job α) (d : Depot) : Except Failure α × Depot :=
  let (r, d) := job.run.run d
  (r, d)

/-- An action that only looks. -/
def look {α : Type} (f : Depot → α) : Job α := fun d => (.ok (f d), d)

/-- An action that fails or gives a value, without touching the depot. -/
def ofExcept {α : Type} (r : Except Failure α) : Job α := fun d => (r, d)

/-- A failing action. -/
def fail {α : Type} (f : Failure) : Job α := ofExcept (.error f)

/-- An action seen from one context further out. -/
def within {α : Type} (context : String) (job : Job α) : Job α := fun d =>
  let (r, d) := job.run d
  (inContext context r, d)

/-- An action whose failure is replaced. -/
def mapFailure {α : Type} (f : Failure → Failure) (job : Job α) : Job α := fun d =>
  let (r, d) := job.run d
  (r.mapError f, d)

/-- The outcome of an action as a value. -/
def attempt {α : Type} (job : Job α) : Job (Except Failure α) := fun d =>
  let (r, d) := job.run d
  (.ok r, d)

/-- An action followed by another, whether it failed or not. -/
def thenAlways {α : Type} (job : Job α) (last : Job Unit) : Job α := fun d =>
  let (r, d) := job.run d
  (r, (last.run d).2)

/-- A notice is logged. -/
def notice (severity : Severity) (text : String) : Job Unit := fun d =>
  (.ok (), { d with notices := d.notices ++ [{ severity, text }] })

/-- An action whose failure is only worth a warning. -/
def orWarn (text : String) (job : Job Unit) : Job Unit := do
  if let .error _ ← attempt job then notice .warn text

/-- Something is counted. -/
def measure (f : Measures → Measures) : Job Unit := fun d =>
  (.ok (), { d with measures := f d.measures })

/-- The next scratch name. -/
def nextScratch : Job String := fun d =>
  (.ok (d.world.scratch d.scratchUsed), { d with scratchUsed := d.scratchUsed + 1 })

end Job

end SceneForge
