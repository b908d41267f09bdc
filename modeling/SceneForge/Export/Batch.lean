import SceneForge.Attributes
import SceneForge.Export.Outcome
import SceneForge.Export.Session

set_option autoImplicit false

/-!
# Batches

A batch runs a session over one asset, a category, or everything there is. An asset that fails never
stops a batch.

## Main definitions

* `SceneForge.Batch` — how assets are found and exported.
* `SceneForge.Batch.sources` — the source documents of a category.
* `SceneForge.Batch.exportFile`, `SceneForge.Batch.exportCategory`, `SceneForge.Batch.exportAll`.
-/

namespace SceneForge

/-- How assets are found and exported. -/
structure Batch where
  /-- The parts that do the work. -/
  workshop : Workshop
  /-- The settings of assets that have none of their own. -/
  defaults : Settings
  /-- The patterns of source documents; without any, the usual ones. -/
  patterns : List String := []
  /-- The settings of an asset. -/
  settings : AssetId → Job Settings := Job.settingsFor defaults

namespace Batch

/-- The usual patterns of source documents. -/
def usualPatterns : List String := ["*.gltf", "*.glb"]

/-- The patterns that count. -/
def effectivePatterns (b : Batch) : List String :=
  if b.patterns.isEmpty then usualPatterns else b.patterns

/-- Both phases of an export, with the settings of the asset. -/
def exportAsset (b : Batch) (s : Session) (path : String) (id : AssetId) :
    Job (Except Failure Unit × Session) := do
  match ← Job.attempt (b.settings id) with
  | .error f => return (.error f, s)
  | .ok settings =>
    match ← s.start b.workshop path settings with
    | (.error f, s) => return (.error f, s)
    | (.ok p, s) => s.finish b.workshop (some p)

/-- A result is counted and logged. -/
def report (r : ExportResult) : Job Unit := do
  match r.status with
  | .exported => Job.notice .info "export finished"
  | .skipped => Job.notice .debug "asset is up to date"
  | .failed =>
    Job.measure (·.error r.kind.name)
    Job.notice .error "export failed"
  Job.measure (·.asset r.id.category r.status.name r.elapsed)

/-- One asset is exported. -/
def exportFile (b : Batch) (s : Session) (path : String) : Job (ExportResult × Session) := do
  let began ← Job.look (·.now)
  let id := AssetId.ofPath path
  let (r, s) ← b.exportAsset s path id
  let elapsed := ((← Job.look (·.now)) - began).tdiv 1000000
  let result := ExportResult.ofOutcome id elapsed r
  report result
  return (result, s)

/-- The source documents of a category, sorted by name. A document that several patterns match is
listed once. -/
def sources (b : Batch) (category : String) : Job (List String) := do
  let dir := Area.source.tag ++ ":" ++ category
  let found ← b.effectivePatterns.mapM fun p => Job.within ("listing " ++ dir) (Job.listFiles dir p)
  let names := found.flatten.eraseDups.mergeSort fun a b => !(b < a)
  return names.map fun n => dir ++ "/" ++ Path.base n

/-- Assets are exported one after the other. -/
def exportFiles (b : Batch) (s : Session) : List String → Job (List ExportResult × Session)
  | [] => return ([], s)
  | path :: rest => do
    let (r, s) ← b.exportFile s path
    let (rs, s) ← exportFiles b s rest
    return (r :: rs, s)

/-- The assets of a category are exported. -/
def exportCategory (b : Batch) (s : Session) (category : String) :
    Job (Except Failure (List ExportResult) × Session) := do
  match ← Job.attempt (b.sources category) with
  | .error f => return (.error f, s)
  | .ok paths =>
    let (rs, s) ← b.exportFiles s paths
    Job.notice .info "category exported"
    return (.ok rs, s)

/-- The assets of several categories are exported; one that cannot be listed is passed over. -/
def exportCategories (b : Batch) (s : Session) : List String → Job (List ExportResult × Session)
  | [] => return ([], s)
  | category :: rest => do
    let (r, s) ← b.exportCategory s category
    let here ← match r with
      | .ok rs => pure rs
      | .error _ => do
        Job.notice .warn "cannot list category"
        pure []
    let (rs, s) ← exportCategories b s rest
    return (here ++ rs, s)

/-- The assets of all categories are exported. -/
def exportAll (b : Batch) (s : Session) : Job (Except Failure (List ExportResult) × Session) := do
  match ← Job.attempt (Job.listDirectories (Area.source.tag ++ ":")) with
  | .error f => return (.error (f.within "listing categories"), s)
  | .ok categories =>
    let (rs, s) ← b.exportCategories s categories
    return (.ok rs, s)

end Batch

end SceneForge
