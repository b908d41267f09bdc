import SceneForge.Cli.Footprint

set_option autoImplicit false

/-!
# The command line program

The files that matter are read, the program runs on them as a pure function, and what it changed is
written back.
-/

namespace SceneForge.Cli

/-- The path of a location on the host. -/
def hostPath (loc : Location) : String := "/" ++ "/".intercalate loc

/-- A location as the host knows it. -/
def hostEntry (loc : Location) : IO.FS.DirEntry :=
  { root := hostPath loc.dropLast, fileName := loc.getLastD "" }

/-- What the host has at a location: nothing, or whether it is a directory, and its time. -/
def probe (loc : Location) : IO (Option (Bool × Int)) := do
  try
    let m ← (hostEntry loc).path.metadata
    return some (m.type == .dir, m.modified.sec * 1000000000 + m.modified.nsec.toNat)
  catch _ => return none

/-- The entries of the host at a location and below it. -/
partial def gather (loc : Location) (t : Tree) : IO Tree := do
  match ← probe loc with
  | none => return t
  | some (false, time) =>
    let data ← IO.FS.readBinFile (hostPath loc)
    return t.insert loc (.file data.toList time)
  | some (true, time) =>
    let mut t := t.insert loc (.dir time)
    for e in ← (hostEntry loc).path.readDir do
      t ← gather (loc ++ [e.fileName]) t
    return t

/-- The directories of the host on the way to a location, itself included. -/
def approach (loc : Location) (t : Tree) : IO Tree := do
  let mut t := t
  for above in Tree.ancestry loc do
    if let some (true, time) ← probe above then t := t.insert above (.dir time)
  return t

/-- The entries of the host on the way to some paths, at them and below them. -/
def snapshot (h : Host) (t : Tree) (paths : List String) : IO Tree := do
  let mut t := t
  for path in paths do
    t ← gather (h.location path) (← approach (h.location path).dropLast t)
  return t

/-- What a run changed is changed on the host. -/
def writeBack (old new : Tree) : IO Unit := do
  for loc in old.removedIn new do
    match ← probe loc with
    | some (true, _) => IO.FS.removeDirAll (hostPath loc)
    | some (false, _) => IO.FS.removeFile (hostPath loc)
    | none => pure ()
  for (loc, e) in old.changedIn new do
    match e with
    | .dir _ => IO.FS.createDirAll (hostPath loc)
    | .file data _ => IO.FS.writeBinFile (hostPath loc) (ByteArray.mk data.toArray)

/-- The surroundings of the program. -/
def surroundings : IO Host := do
  let names := ["HOME", "XDG_CONFIG_HOME", "TMPDIR", Config.variableName]
  let values ← names.mapM fun n => return (n, (← IO.getEnv n).getD "")
  return { directory := (← IO.currentDir).toString, environment := values }

/-- The depot of files that were read. What is written is as new as the newest of them. -/
def depotOf (seed : Nat) (t : Tree) : Depot :=
  let latest := t.entries.foldl (fun m e => max m e.2.time) 0
  { tree := t, assigns := {}
    world := {
      clock := fun _ => latest
      refuses := fun _ _ _ => false
      scratch := fun i => toString seed ++ "-" ++ toString i
      backend := .host } }

end SceneForge.Cli

open SceneForge SceneForge.Cli in
/-- The program. -/
def main (args : List String) : IO UInt32 := do
  let h ← surroundings
  let seed ← IO.monoNanosNow
  let t ← approach (h.location ".") {}
  let t ← snapshot h t (configPaths h args (depotOf seed t))
  let t ← snapshot h t (workPaths h args (depotOf seed t))
  let (r, d) := run h args (depotOf seed t)
  writeBack t d.tree
  (← IO.getStdout).write (ByteArray.mk r.out.toArray)
  for n in r.log do IO.eprintln n.line
  (← IO.getStderr).write (ByteArray.mk r.err.toArray)
  return r.code.toUInt32
