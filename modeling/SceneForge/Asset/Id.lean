import SceneForge.Path.Basic

set_option autoImplicit false

/-!
# Asset identities

An asset is named by its category, its base name and the extension of its source. Every location
that an export reads or writes follows from these three.

## Main definitions

* `SceneForge.Area` — the areas that locations are grouped into, with their tags.
* `SceneForge.AssetId` — an identity, with one function per derived location.
* `SceneForge.AssetId.ofPath` — the identity of a source path.
-/

namespace SceneForge

/-- An area of the depot. -/
inductive Area where
  /-- Source documents. -/
  | source
  /-- Models. -/
  | model
  /-- Physics models. -/
  | physics
  /-- Meshes. -/
  | mesh
  /-- Animations. -/
  | animation
  /-- Textures. -/
  | texture
  /-- Surfaces. -/
  | surface
  /-- Scratch space. -/
  | temp
deriving DecidableEq, Inhabited

namespace Area

/-- The tag in front of the colon of a location. -/
def tag : Area → String
  | source => "src"
  | model => "mdl"
  | physics => "phys"
  | mesh => "msh"
  | animation => "ani"
  | texture => "tex"
  | surface => "sur"
  | temp => "temp"

/-- Every area, in a fixed order. -/
def all : List Area := [source, model, physics, mesh, animation, texture, surface, temp]

/-- Where an area lies below a project root. -/
def place : Area → List String
  | source => ["assets"]
  | model => ["export", "models"]
  | physics => ["export", "physics"]
  | mesh => ["export", "meshes"]
  | animation => ["export", "anims"]
  | texture => ["export", "textures"]
  | surface => ["export", "surfaces"]
  | temp => ["temp"]

end Area

/-- The identity of an asset. -/
structure AssetId where
  /-- Name of the directory that holds the source. -/
  category : String
  /-- File name without extension. -/
  name : String
  /-- Extension without its dot. -/
  ext : String
deriving DecidableEq, Inhabited

namespace AssetId

/-- The identity of a source path. A tag up to the first colon is ignored, and backslashes count as
slashes. -/
def ofPath (path : String) : AssetId :=
  let cs := path.toList
  let cs := match Path.cutColon cs with
    | some (_, rest) => rest
    | none => cs
  let cs := Path.slashed cs
  let file := Path.baseChars cs
  let ext := Path.extChars file
  let dir := Path.dirChars cs
  let category := if dir = Path.dot ∨ dir = ['/'] then [] else Path.baseChars dir
  ⟨String.ofList category, String.ofList (Path.dropEnding file ext), String.ofList (ext.drop 1)⟩

/-- The identity as shown to people. -/
def text (id : AssetId) : String := id.category ++ "/" ++ id.name

/-- A location in an area, with the category as directory. -/
def located (id : AssetId) (area : Area) (ending : String) : String :=
  area.tag ++ ":" ++ id.category ++ "/" ++ id.name ++ ending

/-- The source document. -/
def source (id : AssetId) : String := id.located .source ("." ++ id.ext)

/-- The model. -/
def model (id : AssetId) : String := id.located .model ".model"

/-- The physics model. -/
def physicsModel (id : AssetId) : String := id.located .physics ".physmodel"

/-- The mesh. -/
def mesh (id : AssetId) : String := id.located .mesh ".mesh"

/-- The collision mesh. -/
def physicsMesh (id : AssetId) : String := id.located .mesh "_ph.mesh"

/-- The animation. -/
def animation (id : AssetId) : String := id.located .animation ".anim"

/-- The constants next to the source. -/
def constants (id : AssetId) : String := id.located .source ".constants"

/-- The export attributes next to the source. -/
def attributes (id : AssetId) : String := id.located .source ".attributes"

/-- The physics description next to the source. -/
def physics (id : AssetId) : String := id.located .source ".physics"

/-- The directory of the textures. -/
def textureDir (id : AssetId) : String := id.located .texture ("_" ++ id.ext)

/-- The directory of the surfaces. -/
def surfaceDir (id : AssetId) : String := id.located .surface ("_" ++ id.ext)

/-- The reference to the texture of an image, without extension. -/
def textureRef (id : AssetId) (image : Int) : String := id.textureDir ++ "/" ++ toString image

/-- The reference to the surface of a material, without extension. -/
def surfaceRef (id : AssetId) (material : String) : String := id.surfaceDir ++ "/" ++ material

/-- The surface file of a material. -/
def surfacePath (id : AssetId) (material : String) : String := id.surfaceRef material ++ ".sur"

/-- The directory of the source, with a trailing slash. -/
def basePath (id : AssetId) : String := Area.source.tag ++ ":" ++ id.category ++ "/"

end AssetId

end SceneForge
