import SceneForge.Cli.Command
import SceneForge.Mesh.Codec

set_option autoImplicit false

/-!
# Carrying out commands

## Main definitions

* `SceneForge.Cli.carryOut` — one command.
* `SceneForge.Cli.run` — the program: from arguments and a depot to what it writes, its exit code,
  and the depot it leaves.
-/

namespace SceneForge.Cli

/-! ## Beginning and end -/

/-- The configuration is loaded, and areas are assigned to directories. -/
def setup (h : Host) (o : Overrides) : Action Config := do
  let c ← orFail (Config.load h o (← get).depot.tree)
  let assigns := Assigns.ofList (c.bindings.map fun b => (b.1, h.absolute b.2))
  modify fun s => { s with depot := { s.depot with assigns }, config := some c }
  return c

/-- The metrics are written to a file, by way of a temporary one that never stays behind. -/
def saveMetrics (h : Host) (path : String) : Job Unit :=
  Job.within ("writing metrics to " ++ path) do
    let suffix ← Job.nextScratch
    let temporary := Path.joinAll [Path.dir path, Path.base path ++ suffix]
    let text ← Job.look (·.measures.render)
    Job.thenAlways (h.replace path temporary (utf8 text)) (h.remove temporary)

/-- The end of a command that was set up: the metrics are written if there is a file for them. -/
def finish (h : Host) (c : Config) : Action Unit := do
  if c.metricsFile ≠ "" then
    if let .error f ← perform (saveMetrics h c.metricsFile) then
      complain ("Error: " ++ f.message ++ "\n")

/-- The notices that are serious enough go to the end of the log file, if there is one. A log that
cannot be written is given up. -/
def saveLog (h : Host) (c : Config) (shown : List Notice) : Job Unit := do
  if c.logFile ≠ "" ∧ shown ≠ [] then
    let before := match h.contents (← Job.look (·.tree)) c.logFile with
      | .ok data => data
      | .error _ => []
    let lines := String.join (shown.map fun n => n.line ++ "\n")
    h.makeDirs (Path.dir c.logFile)
    h.write c.logFile (before ++ utf8 lines)

/-! ## Exporting -/

/-- A location: in an area if it says so, and in the given one if not. -/
def locate (area : Area) (arg : String) : String :=
  if arg.toList.contains ':' then arg else area.tag ++ ":" ++ arg

/-- A result in one line. -/
def resultLine (r : ExportResult) : String :=
  padRight 9 r.status.name ++ " " ++ padRight 40 r.id.text ++ " " ++
    padLeft 6 (toString r.elapsed) ++ "ms" ++
    (match r.failure with
      | some f => "  [" ++ r.kind.name ++ "] " ++ f.message
      | none => "") ++ "\n"

/-- Results are shown; a failed one decides the exit code. -/
def report (rs : List ExportResult) : Action Unit := do
  rs.forM fun r => say (resultLine r)
  let sum := Summary.ofResults rs
  complain ("\n(" ++ toString sum.exported ++ " exported, " ++ toString sum.skipped ++
    " skipped, " ++ toString sum.failed ++ " failed)\n")
  if sum.failed > 0 then exit 1

/-- An export in a session of its own. -/
def exporting (h : Host) (o : Overrides)
    (work : Batch → Session → Job (Except Failure (List ExportResult) × Session)) :
    Action Unit := do
  let c ← setup h o
  let platform ← orFail c.target
  let defaults ← orFail c.settings
  let (opened, session) := ({ platform, force := c.force : Session }).acquire
  orFail opened
  let batch : Batch :=
    { workshop := Workshop.standard { limits := c.limits }, defaults, patterns := c.patterns }
  let r ← perform (work batch session)
  finish h c
  report (← orFail (← orFail r).1)

/-! ## Showing -/

/-- The checks of an asset are shown. -/
def showChecks (asset : String) : Action Unit := do
  let id := AssetId.ofPath (locate .source asset)
  let checks := (← get).depot.checks id
  say ("Asset: " ++ id.text ++ "\n")
  checks.forM fun c =>
    say ("  " ++ padRight 20 c.name ++ " " ++ padRight 5 (if c.stale then "STALE" else "fresh") ++
      "  " ++ c.driver ++ " -> " ++ c.derived ++ "\n")
  say ("Needs export: " ++ (if checks.any (·.stale) then "yes" else "no") ++ "\n")

/-- The locations of an asset, by what they hold. -/
def locations (id : AssetId) : List (String × String) := [
  ("source", id.source), ("model", id.model), ("physics model", id.physicsModel),
  ("mesh", id.mesh), ("physics mesh", id.physicsMesh), ("animation", id.animation),
  ("constants", id.constants), ("attributes", id.attributes), ("physics", id.physics),
  ("textures", id.textureDir), ("surfaces", id.surfaceDir)]

/-- The locations of an asset are shown, with the paths they stand for. -/
def showPaths (asset : String) : Action Unit := do
  let assigns := (← get).depot.assigns
  (locations (AssetId.ofPath (locate .source asset))).forM fun (name, uri) => do
    let path := match assigns.resolve uri with
      | .ok path => path
      | .error f => f.message
    say (padRight 14 name ++ " " ++ padRight 40 uri ++ " /" ++ path ++ "\n")

/-- A point as it is shown. -/
def pointText (p : Vec3 Single) : String :=
  "[" ++ " ".intercalate (p.toList.map Single.text) ++ "]"

/-- A group is shown; its name is filled up by characters. -/
def showGroup (i : Nat) (g : Group) : Action Unit := do
  say ("  " ++ padLeft 3 (toString i) ++ " ")
  put (g.name ++ utf8 (filler 24 (Text.Utf8.decodeLossy g.name).length))
  say (" material " ++ padRight 5 (Ref.text g.material) ++ " indices " ++ toString g.firstIndex ++
    "+" ++ toString g.indexCount ++ "\n")

/-- A mesh file is shown. -/
def showMesh (groups : Bool) (mesh : String) : Action Unit := do
  let uri := locate .mesh mesh
  let f ← orFail (← perform (MeshFile.load uri))
  let m := f.mesh
  say ("Mesh:      " ++ uri ++ "\n" ++
    "Platform:  " ++ f.platform.name ++ " (v" ++ toString f.version.toNat ++ ")\n" ++
    "Skinned:   " ++ (if m.skinned then "true" else "false") ++ "\n" ++
    "Vertices:  " ++ toString m.vertices.length ++ "\n" ++
    "Triangles: " ++ toString m.triangleCount ++ "\n" ++
    "Bounds:    " ++ pointText m.bounds.min ++ " - " ++ pointText m.bounds.max ++ "\n")
  if groups then
    say "\nGroups:\n"
    m.groups.zipIdx.forM fun (g, i) => showGroup i g

/-! ## Converting and configuring -/

/-- A picture is converted, by way of a workspace that is removed on success. -/
def convert (h : Host) (c : Config) (maxSize : Int) (image outDir : String) : Action Unit := do
  let source := h.absolute image
  let target := h.absolute outDir
  let work := Path.joinAll [h.tempDir, "assetexport-texture" ++ (← orFail (← perform Job.nextScratch))]
  orFailAt "Error creating workspace" (← perform (h.makeDirs work))
  let limits := if maxSize > 0 then { c.limits with maxSize } else c.limits
  orFailAt "Error creating directory" (← perform (Job.createDirectory target))
  orFail (← perform (Texture.convert { limits } source work target))
  orFail (← perform (Job.notice .debug "texture converted"))
  say ("Converted: " ++ source ++ " -> " ++ target ++ "\n")
  finish h c
  orFail (← perform (h.remove work))

/-- The configuration is written. -/
def writeConfig (h : Host) (o : Overrides) (forUser overwrite : Bool) : Action Unit := do
  let tree := (← get).depot.tree
  let c ← orFail (Config.load h o tree)
  let path := if forUser then Config.userFile h else Config.fileName
  if h.isThere tree path ∧ !overwrite then
    complain ("Error: " ++ path ++ " already exists (use -f to overwrite)\n")
    exit 1
  orFail (← perform (c.save h path))
  say ("Wrote " ++ path ++ "\n")

/-! ## The program -/

/-- A command is carried out once the program is set up. -/
def prepared (h : Host) (o : Overrides) (work : Action Unit) : Action Unit := do
  let c ← setup h o
  work
  finish h c

/-- A command is carried out. -/
def carryOut (h : Host) (r : Request) : Action Unit :=
  let o := r.overrides
  match r.command with
  | .file asset => exporting h o fun b s => do
    let (result, s) ← b.exportFile s (locate .source asset)
    return (.ok [result], s)
  | .dir category => exporting h o fun b s => b.exportCategory s category
  | .all => exporting h o fun b s => b.exportAll s
  | .check asset => prepared h o (showChecks asset)
  | .paths asset => prepared h o (showPaths asset)
  | .inspect groups mesh => prepared h o (showMesh groups mesh)
  | .texture maxSize image outDir => do
    let c ← setup h o
    convert h c maxSize image outDir
  | .init forUser overwrite => writeConfig h o forUser overwrite
  | .help => say usage

/-- What a run of the program shows. -/
structure Outcome where
  /-- The exit code. -/
  code : Nat
  /-- What was written to the output stream. -/
  out : Bytes
  /-- What was written to the error stream, log lines apart. -/
  err : Bytes
  /-- The notices that are serious enough to be shown. -/
  log : List Notice
deriving DecidableEq

/-- The program: what it shows and the depot it leaves. -/
def run (h : Host) (args : List String) (d : Depot) : Outcome × Depot :=
  let start : Console := { depot := { d with journal := [], notices := [], measures := {} } }
  let (r, s) := (do carryOut h (← request args) : Action Unit).run.run start
  let code := match r with
    | .ok _ => 0
    | .error code => code
  match s.config with
  | none => ({ code, out := s.out, err := s.err, log := [] }, s.depot)
  | some c =>
    let shown := s.depot.notices.filter (Notice.isShown (Severity.ofName c.level))
    ({ code, out := s.out, err := s.err, log := shown }, ((saveLog h c shown).runOn s.depot).2)

end SceneForge.Cli
