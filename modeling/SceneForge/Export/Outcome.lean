import SceneForge.Asset.Id
import SceneForge.Failure

set_option autoImplicit false

/-!
# Outcomes of exports

## Main definitions

* `SceneForge.Kind`, `SceneForge.Failure.kind` — what a failure is counted as.
* `SceneForge.Status`, `SceneForge.ExportResult` — how the export of one asset ended.
* `SceneForge.Summary` — how many assets ended in which way.
-/

namespace SceneForge

/-- What an outcome is counted as. -/
inductive Kind where
  /-- Nothing went wrong. -/
  | none
  /-- There was nothing to do. -/
  | skipped
  /-- The source, or a file next to it, is not acceptable. -/
  | parse
  /-- A picture cannot be converted. -/
  | conversion
  /-- A texture is not part of the document. -/
  | unresolvedReference
  /-- A file cannot be opened. -/
  | streamOpen
  /-- Any other trouble with files. -/
  | io
  /-- The program was used in the wrong way. -/
  | internal
deriving DecidableEq, Inhabited

namespace Kind

/-- Every kind, in a fixed order. -/
def all : List Kind :=
  [none, skipped, parse, conversion, unresolvedReference, streamOpen, io, internal]

/-- The name of a kind. -/
def name : Kind → String
  | none => "none"
  | skipped => "skipped"
  | parse => "parse"
  | conversion => "conversion"
  | unresolvedReference => "unresolved_reference"
  | streamOpen => "stream_open"
  | io => "io"
  | internal => "internal"

end Kind

/-- The kind of a cause. -/
def Cause.kind : Cause → Kind
  | upToDate => .skipped
  | invalidState | notSetUp | alreadyFlattened | noMesh | basePath | meshPlatform
  | unknownAssign => .internal
  | sourceParse | documentParse | invalidSettings | invalidScale | invalidPhysics
  | duplicateMaterial => .parse
  | conversion => .conversion
  | unresolvedReference | externalImage => .unresolvedReference
  | streamOpen => .streamOpen
  | invalidReference | targa | meshMagic | meshVersion | meshTruncated | meshTooLarge
  | plain _ => .io

/-- The kind of a failure. -/
def Failure.kind (f : Failure) : Kind := f.cause.kind

/-- How the export of an asset ended. -/
inductive Status where
  /-- Everything was written. -/
  | exported
  /-- There was nothing to do. -/
  | skipped
  /-- Something went wrong. -/
  | failed
deriving DecidableEq, Inhabited

namespace Status

/-- Every status, in a fixed order. -/
def all : List Status := [exported, skipped, failed]

/-- The name of a status. -/
def name : Status → String
  | exported => "exported"
  | skipped => "skipped"
  | failed => "failed"

end Status

/-- The outcome of one asset. -/
structure ExportResult where
  /-- The asset. -/
  id : AssetId
  /-- How its export ended. -/
  status : Status
  /-- What went wrong, if it failed. -/
  failure : Option Failure := none
  /-- How long it took, in milliseconds. -/
  elapsed : Int := 0
deriving DecidableEq, Inhabited

/-- What a result is counted as. -/
def ExportResult.kind (r : ExportResult) : Kind :=
  if r.status = .skipped then .skipped else (r.failure.map Failure.kind).getD .none

/-- The result of an attempt to export an asset. -/
def ExportResult.ofOutcome (id : AssetId) (elapsed : Int) : Except Failure Unit → ExportResult
  | .ok _ => { id, status := .exported, elapsed }
  | .error f =>
    if f.cause = .upToDate then { id, status := .skipped, elapsed }
    else { id, status := .failed, failure := some f, elapsed }

/-- How many assets ended in which way. -/
structure Summary where
  /-- Assets that were written. -/
  exported : Nat := 0
  /-- Assets with nothing to do. -/
  skipped : Nat := 0
  /-- Assets that failed. -/
  failed : Nat := 0
deriving DecidableEq, Inhabited

/-- The summary of results. -/
def Summary.ofResults (rs : List ExportResult) : Summary :=
  let count (s : Status) : Nat := (rs.filter (·.status = s)).length
  ⟨count .exported, count .skipped, count .failed⟩

end SceneForge
