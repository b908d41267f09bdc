import SceneForge.Depot.Basic
import SceneForge.Path.Pattern

set_option autoImplicit false

/-!
# Reading, writing and listing

The calls that an export makes on its depot. A call that the world refuses fails with an injected
failure; opening a file then still leaves the mark it would leave: a file refused while writing or
closing exists.

## Main definitions

* `SceneForge.Job.readAll`, `SceneForge.Job.writeAll` — whole files.
* `SceneForge.Job.createDirectory`, `SceneForge.Job.deleteDirectory` — directories with everything
  above or below them.
* `SceneForge.Job.purgeDirectory` — a directory is not there afterwards, if the depot lets it go.
* `SceneForge.Job.listFiles`, `SceneForge.Job.listDirectories` — sorted names.
-/

namespace SceneForge

/-- The failure of a call that the world refuses. -/
def Failure.injected : Failure := .plain "injected failure"

namespace Backend

/-- The text for a file that is not there. -/
def missing : Backend → String
  | .memory => "file does not exist"
  | .host => "no such file or directory"

end Backend

/-- The failure of one step on a path. -/
def Failure.onPath (op path reason : String) : Failure :=
  .plain (op ++ " " ++ path ++ ": " ++ reason)

/-- The failure of making a directory where a file is on the way. The host finds a file above the
directory only when it tries to make it anew. -/
def Backend.blocked (b : Backend) (dir file : Location) : Failure :=
  match b with
  | .host =>
    if file = dir then .onPath "mkdir" file.path "not a directory"
    else .onPath "mkdir" (file.path ++ "/") "file exists"
  | .memory => .onPath "mkdir" file.path "not a directory"

namespace Depot

/-- Why a path that holds nothing cannot be opened: it leads through a file, which the host says, or
it is just not there. -/
def missingReason (d : Depot) (loc : Location) : String :=
  match d.world.backend, d.tree.obstacle? loc.dropLast with
  | .host, some _ => "not a directory"
  | b, _ => b.missing

/-- A directory is made, with all its ancestors. -/
def makeDirs (d : Depot) (path : String) : Except Failure Depot :=
  match locate path with
  | none => .error (.plain "invalid argument")
  | some loc =>
    match d.tree.obstacle? loc with
    | some file => .error (d.world.backend.blocked loc file)
    | none => .ok { d with tree := d.tree.makeDirs loc d.now }

/-- A file is opened for writing in a directory that exists: it is there afterwards and empty. -/
def truncate (d : Depot) (path : String) : Except Failure (Depot × Location) :=
  match locate path with
  | none => .error (.onPath "open" path "invalid argument")
  | some loc =>
    match d.tree.find? loc with
    | some (.dir _) => .error (.onPath "open" path "is a directory")
    | _ => .ok ({ d with tree := d.tree.insert loc (.file [] d.now) }, loc)

/-- The contents of a file. A directory reads as empty in memory and cannot be read on the host. -/
def contents (d : Depot) (path : String) : Except Failure (Except Failure Bytes) :=
  match locate path with
  | none => .error (.onPath "open" path "invalid argument")
  | some loc =>
    match d.tree.find? loc with
    | none => .error (.onPath "open" path (d.missingReason loc))
    | some (.dir _) =>
      match d.world.backend with
      | .memory => .ok (.ok [])
      | .host => .ok (.error (.onPath "read" path "is a directory"))
    | some (.file data _) => .ok (.ok data)

/-- The entries of a directory. -/
def list (d : Depot) (path : String) : Except Failure (List (String × Entry)) :=
  match locate path with
  | none => .error (.onPath "open" path "invalid argument")
  | some loc =>
    match d.tree.find? loc with
    | none => .error (.onPath "open" path (d.missingReason loc))
    | some (.file _ _) =>
      .error (.onPath (match d.world.backend with
        | .memory => "readdir"
        | .host => "open") path "not a directory")
    | some (.dir _) => .ok (d.tree.children loc)

end Depot

namespace Job

/-- A failure of opening a location. -/
def streamFailure (uri : String) (f : Failure) : Failure := ⟨.streamOpen, [uri, f.message]⟩

/-- The whole file at a location. -/
def readAll (uri : String) : Job Bytes := fun d =>
  if d.refuses .openStream uri then (.error (streamFailure uri .injected), d)
  else
    match d.assigns.resolve uri with
    | .error f => (.error ⟨.streamOpen, [f.message]⟩, d)
    | .ok path =>
      match d.contents path with
      | .error f => (.error (streamFailure uri f), d)
      | .ok r =>
        if d.refuses .read uri then (.error (.within ("reading " ++ uri) .injected), d)
        else (inContext ("reading " ++ uri) r, d)

/-- The file at a location is replaced. -/
def writeAll (uri : String) (data : Bytes) : Job Unit := fun d =>
  let start := d.record (.create uri)
  if d.refuses .createStream uri then (.error (streamFailure uri .injected), start)
  else
    match d.assigns.resolve uri with
    | .error f => (.error ⟨.streamOpen, [f.message]⟩, start)
    | .ok path =>
      match start.makeDirs (Path.dir path) with
      | .error f => (.error (streamFailure uri f), start)
      | .ok made =>
        match made.truncate path with
        | .error f => (.error (streamFailure uri f), made)
        | .ok (opened, loc) =>
          if d.refuses .write uri then (.error (.within ("writing " ++ uri) .injected), opened)
          else
            let written := { opened with tree := opened.tree.insert loc (.file data opened.now) }
            if d.refuses .close uri then (.error (.within ("closing " ++ uri) .injected), written)
            else (.ok (), written)

/-- A directory is made, with all its ancestors. -/
def createDirectory (uri : String) : Job Unit := fun d =>
  let start := d.record (.mkdir uri)
  if d.refuses .createDirectory uri then (.error .injected, start)
  else
    match d.assigns.resolve uri with
    | .error f => (.error f, start)
    | .ok path =>
      match start.makeDirs path with
      | .error f => (.error (f.within ("creating " ++ uri)), start)
      | .ok made => (.ok (), made)

/-- A directory is removed with everything below it; one that is not there is left alone. -/
def deleteDirectory (uri : String) : Job Unit := fun d =>
  let start := d.record (.rmdir uri)
  if d.refuses .deleteDirectory uri then (.error .injected, start)
  else
    match d.assigns.resolve uri with
    | .error f => (.error f, start)
    | .ok path =>
      match Depot.locate path with
      | none => (.error ((Failure.onPath "removeall" path "invalid argument").within
          ("deleting " ++ uri)), start)
      | some loc => (.ok (), { start with tree := start.tree.erase loc })

/-- A directory is removed if it is there; that this fails is only worth a warning. -/
def purgeDirectory (dir warning : String) : Job Unit := do
  if ← look (·.directoryExists dir) then orWarn warning (deleteDirectory dir)

/-- The entries of a directory. -/
def readDir (dir : String) : Job (List (String × Entry)) := fun d =>
  match d.assigns.resolve dir with
  | .error f => (.error f, d)
  | .ok path => (inContext ("listing " ++ dir) (d.list path), d)

/-- The sorted names of the files of a directory that match a pattern. -/
def listFiles (dir pattern : String) : Job (List String) := do
  if ← look (·.refuses .listFiles dir) then fail .injected
  let files := (← readDir dir).filter fun e => !e.2.isDir
  match Pattern.parse pattern with
  | some chunks => return (files.map (·.1)).filter (Pattern.matchesName chunks)
  | none =>
    if files.isEmpty then return []
    else fail (.within ("bad pattern " ++ Text.quote pattern) (.plain "syntax error in pattern"))

/-- The sorted names of the directories of a directory. -/
def listDirectories (dir : String) : Job (List String) := do
  if ← look (·.refuses .listDirectories dir) then fail .injected
  return ((← readDir dir).filter (·.2.isDir)).map (·.1)

/-- The modification time of what is at a location is set. -/
def touch (uri : String) (time : Int) : Job Unit := fun d =>
  match d.assigns.resolve uri with
  | .error f => (.error f, d)
  | .ok path =>
    let report (reason : String) : Failure :=
      (Failure.onPath "chtimes" path reason).within ("touching " ++ uri)
    match Depot.locate path with
    | none => (.error (report "invalid argument"), d)
    | some loc =>
      match d.tree.find? loc with
      | none => (.error (report (d.missingReason loc)), d)
      | some e => (.ok (), { d with tree := d.tree.insert loc (e.setTime time) })

end Job

end SceneForge
