import SceneForge.Document.Basic
import SceneForge.Mesh.Basic
import SceneForge.Settings

set_option autoImplicit false

/-!
# Scenes

A scene is a document made ready for export: nodes with their world transforms and parents, and in
character mode a skeleton. Look-ups by index are optional throughout; on a valid document none of
them fails.

## Main definitions

* `SceneForge.Scene` — the scene of one asset.
* `SceneForge.Scene.place` — world transforms, from a node downwards.
* `SceneForge.Scene.skeletonOf` — the joints of all skins, in order.
* `SceneForge.Scene.setup` — the scene of a document.
-/

namespace SceneForge

namespace Scene

/-- A node of a scene. -/
structure Node where
  /-- Name. -/
  name : String
  /-- The node that lists this one as a child; the last one if there are several. -/
  parent : Ref
  /-- Child nodes. -/
  children : List Int
  /-- World transform. -/
  world : Mat4 Single
  /-- The mesh shown at the node. -/
  mesh : Ref
  /-- The skin that deforms the mesh. -/
  skin : Ref
deriving DecidableEq, Inhabited

/-- A joint of a skeleton. -/
structure Joint where
  /-- Name of the node. -/
  name : String
  /-- The node. -/
  node : Int
  /-- The parent joint, as a position in the skeleton. -/
  parent : Ref
deriving DecidableEq, Inhabited

end Scene

/-- The scene of one asset. -/
structure Scene where
  /-- Name of the asset. -/
  name : String := ""
  /-- Category of the asset. -/
  category : String := ""
  /-- Nodes. -/
  nodes : List Scene.Node := []
  /-- Root nodes. -/
  roots : List Int := []
  /-- Joints of all skins. -/
  skeleton : List Scene.Joint := []
  /-- How vertex data is copied. -/
  flags : Flags := {}
  /-- What kind of asset is exported. -/
  mode : Mode := .static
  /-- The factor applied to the whole scene. -/
  scale : Single := 0
  /-- The document. -/
  doc : Option Document := none
  /-- The merged mesh, once there is one. -/
  mesh : Option Mesh := none
  /-- Whether the scene has been flattened. -/
  flattened : Bool := false
deriving DecidableEq, Inhabited

namespace Scene

/-- The last node that lists a node among its children. -/
def parentOf (nodes : List Document.Node) (i : Int) : Ref :=
  (nodes.zipIdx.foldl (fun last p => if p.1.children.contains i then some (p.2 : Int) else last)
    none)

/-- The world transforms with those of a node and everything below it set, the parent's transform
being given. A node that is reached twice keeps the later transform. The fuel bounds the depth. -/
def place (nodes : List Document.Node) :
    Nat → Mat4 Single → List (Mat4 Single) → Int → Option (List (Mat4 Single))
  | 0, _, _, _ => none
  | fuel + 1, parent, worlds, i => do
    let node ← at? nodes i
    let world := parent * node.local
    node.children.foldlM (place nodes fuel world) (worlds.set i.toNat world)

/-- World transforms of all nodes; those that no root leads to have a zero matrix. -/
def worlds (doc : Document) (scale : Single) : Option (List (Mat4 Single)) :=
  let n := doc.nodes.length
  doc.roots.foldlM (place doc.nodes (n + 1) (Mat4.scaling (.fill scale)))
    (List.replicate n (.fill 0))

/-- The nodes of a scene. -/
def nodesOf (doc : Document) (worlds : List (Mat4 Single)) : List Node :=
  (doc.nodes.zip worlds).zipIdx.map fun ((n, world), i) =>
    ⟨n.name, parentOf doc.nodes i, n.children, world, n.mesh, n.skin⟩

/-- The joints of one skin, whose first joint gets the position `base`. The parent of a joint is the
joint of its node's parent, if that is in the same skin; the last such joint if there are
several. -/
def skinJoints (doc : Document) (base : Nat) (skin : Document.Skin) : Option (List Joint) :=
  skin.joints.mapM fun node => do
    let n ← at? doc.nodes node
    let parent := (parentOf doc.nodes node).bind fun p =>
      skin.joints.zipIdx.foldl
        (fun last q => if q.1 = p then some ((base + q.2 : Nat) : Int) else last) none
    return ⟨n.name, node, parent⟩

/-- The joints of all skins, in order. -/
def skeletonOf (doc : Document) : Option (List Joint) :=
  doc.skins.foldlM (fun joints skin => do
    return joints ++ (← skinJoints doc joints.length skin)) []

/-- The position of the first joint of each skin. -/
def skinBases (doc : Document) : List Nat :=
  (doc.skins.foldl (fun (bases, n) skin => (bases ++ [n], n + skin.joints.length)) ([], 0)).1

/-- The failure of a look-up by an index out of range. -/
def outOfRange : Failure := .plain "index out of range"

/-- The scene of a document. Name and category are kept, everything else is new. -/
def setup (s : Scene) (doc : Document) (settings : Settings) : Except Failure Scene :=
  let scale := settings.scale
  if scale.lt 0 || scale.same 0 then .error ⟨.invalidScale, ["got " ++ scale.text]⟩
  else
    let built := do
      let worlds ← worlds doc scale
      let skeleton ← if settings.mode = .character then skeletonOf doc else some []
      return { name := s.name, category := s.category, nodes := nodesOf doc worlds,
               roots := doc.roots, skeleton, flags := settings.flags, mode := settings.mode,
               scale, doc := some doc : Scene }
    match built with
    | none => .error outOfRange
    | some scene => .ok scene

end Scene

end SceneForge
