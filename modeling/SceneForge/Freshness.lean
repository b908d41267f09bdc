import SceneForge.Depot.Basic

set_option autoImplicit false

/-!
# Freshness

Whether the artifacts of an asset are older than what they are made from.

## Main definitions

* `SceneForge.Depot.isStale` — one driver against one derived file.
* `SceneForge.Check`, `SceneForge.Depot.checks` — the six comparisons of an asset.
* `SceneForge.Depot.needsExport` — whether any of them is stale.
-/

namespace SceneForge

/-- A derived file is stale if it is missing, or if its driver is there and strictly newer. -/
def Depot.isStale (d : Depot) (driver derived : String) : Bool :=
  match d.modTime? derived with
  | none => true
  | some made =>
    match d.modTime? driver with
    | none => false
    | some changed => made < changed

/-- One comparison of a driver with a derived file. -/
structure Check where
  /-- What is compared. -/
  name : String
  /-- The file that drives. -/
  driver : String
  /-- The file that is derived. -/
  derived : String
  /-- Whether the derived file has to be made again. -/
  stale : Bool
deriving DecidableEq, Inhabited

/-- The drivers and derived files of an asset, by the name of their comparison. -/
def AssetId.dependencies (id : AssetId) : List (String × String × String) :=
  [("source/model", id.source, id.model),
    ("constants/model", id.constants, id.model),
    ("attributes/model", id.attributes, id.model),
    ("physics/physmodel", id.physics, id.physicsModel),
    ("source/mesh", id.source, id.mesh),
    ("physics/mesh", id.physics, id.mesh)]

/-- The comparisons of an asset. -/
def Depot.checks (d : Depot) (id : AssetId) : List Check :=
  id.dependencies.map fun (name, driver, derived) =>
    ⟨name, driver, derived, d.isStale driver derived⟩

/-- Whether an asset has to be exported. -/
def Depot.needsExport (d : Depot) (path : String) : Bool :=
  (d.checks (AssetId.ofPath path)).any (·.stale)

end SceneForge
