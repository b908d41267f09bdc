import SceneForge.Depot.Files
import SceneForge.Host.Basic

set_option autoImplicit false

/-!
# Files of the host

Some files are named by paths of the host rather than by areas: the configuration, the log, the
metrics. Such a path is followed element by element, and failures name it as it was given.

## Main definitions

* `SceneForge.Tree.walk` — where a list of path elements leads.
* `SceneForge.Host.find` — what a path stands for.
* `SceneForge.Host.read`, `SceneForge.Host.write`, `SceneForge.Host.makeDirs`,
  `SceneForge.Host.rename`, `SceneForge.Host.remove` — actions on paths.
* `SceneForge.Host.replace` — a file is written anew by way of a temporary one.
-/

namespace SceneForge

/-- Where path elements lead from a location. Every element but the last has to be a directory. -/
def Tree.walk (t : Tree) : Location → List String → Except String Location
  | loc, [] => .ok loc
  | loc, p :: rest =>
    match t.find? loc with
    | none => .error Backend.host.missing
    | some (.file _ _) => .error "not a directory"
    | some (.dir _) =>
      if p = "" ∨ p = "." then t.walk loc rest
      else if p = ".." then t.walk loc.dropLast rest
      else t.walk (loc ++ [p]) rest

namespace Host

/-- The elements of a path. -/
def elements (path : String) : List String := (Path.split path.toList).map String.ofList

/-- The location of the shortest spelling of a path. -/
def location (h : Host) (path : String) : Location :=
  (elements (h.absolute path)).filter (· ≠ "")

/-- Where a path leads. -/
def reach (h : Host) (t : Tree) (path : String) : Except String Location :=
  if path = "" then .error Backend.host.missing
  else if Path.isRooted path.toList then t.walk [] (elements path)
  else t.walk (h.location ".") (elements path)

/-- What a path stands for, or why it stands for nothing. -/
def find (h : Host) (t : Tree) (path : String) : Except String Entry := do
  let loc ← h.reach t path
  match t.find? loc with
  | some e => return e
  | none => throw Backend.host.missing

/-- Whether a path stands for anything. -/
def isThere (h : Host) (t : Tree) (path : String) : Bool := (h.find t path).isOk

/-- Whether a path stands for a file. -/
def isFile (h : Host) (t : Tree) (path : String) : Bool :=
  match h.find t path with
  | .ok e => !e.isDir
  | .error _ => false

/-- The contents of the file at a path. -/
def contents (h : Host) (t : Tree) (path : String) : Except Failure Bytes :=
  match h.find t path with
  | .error reason => .error (.onPath "open" path reason)
  | .ok (.dir _) => .error (.onPath "read" path "is a directory")
  | .ok (.file data _) => .ok data

/-- The file at a path is written, in a directory that exists. -/
def write (h : Host) (path : String) (data : Bytes) : Job Unit := fun d =>
  match h.reach d.tree path with
  | .error reason => (.error (.onPath "open" path reason), d)
  | .ok loc =>
    match d.tree.find? loc with
    | some (.dir _) => (.error (.onPath "open" path "is a directory"), d)
    | _ => (.ok (), { d with tree := d.tree.insert loc (.file data d.now) })

/-- A directory is made, with all its ancestors. -/
def makeDirs (h : Host) (dir : String) : Job Unit := fun d =>
  let loc := h.location dir
  match d.tree.obstacle? loc with
  | none => (.ok (), { d with tree := d.tree.makeDirs loc d.now })
  | some file =>
    if file = loc then (.error (.onPath "mkdir" dir "not a directory"), d)
    else
      let above := (List.range (loc.length - file.length)).foldl (fun p _ => Path.dir p) dir
      (.error (.onPath "mkdir" (above ++ "/") "file exists"), d)

/-- What a path stands for moves to another path, replacing a file but not a directory. -/
def rename (h : Host) (source target : String) : Job Unit := fun d =>
  let report (reason : String) : Failure :=
    .plain ("rename " ++ source ++ " " ++ target ++ ": " ++ reason)
  match h.reach d.tree source, h.find d.tree source, h.reach d.tree target with
  | .ok old, .ok e, .ok new =>
    match d.tree.find? new with
    | some (.dir _) => (.error (report "file exists"), d)
    | _ => (.ok (), { d with tree := (d.tree.erase old).insert new e })
  | .error reason, _, _ => (.error (report reason), d)
  | _, .error reason, _ => (.error (report reason), d)
  | _, _, .error reason => (.error (report reason), d)

/-- What a path stands for is removed, if it stands for anything. -/
def remove (h : Host) (path : String) : Job Unit := fun d =>
  match h.reach d.tree path with
  | .error _ => (.ok (), d)
  | .ok loc => (.ok (), { d with tree := d.tree.erase loc })

/-- The file at a path is replaced at once: it is written elsewhere and then moved there. -/
def replace (h : Host) (path temporary : String) (data : Bytes) : Job Unit := do
  h.write temporary data
  h.rename temporary path

end Host

end SceneForge
