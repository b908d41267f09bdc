import SceneForge.Document.Basic
import SceneForge.Surface.Basic
import SceneForge.Text.Normal

set_option autoImplicit false

/-!
# Surfaces of a document

Every material of a document becomes a surface. Its textures have to be embedded in the document,
because only those are exported with it.

## Main definitions

* `SceneForge.Document.materialName` — the file name of a material's surface.
* `SceneForge.Surface.ofMaterial` — the surface of a material.
* `SceneForge.Surface.build` — the surfaces of all materials.
* `SceneForge.Surface.generate` — the surface files of an asset.
-/

namespace SceneForge

namespace Surface

/-- The template of static meshes. -/
def staticTemplate : String := "GLTF Static"

/-- The template of skinned meshes. -/
def skinnedTemplate : String := "GLTF Skinned"

/-- The texture of an empty color slot. -/
def whiteTexture : String := "tex:system/white"

/-- The texture of an empty normal slot. -/
def flatTexture : String := "tex:system/nobump"

end Surface

/-- The name of a material as part of a path: composed, and without separators. -/
def Document.fileName (name : String) : String :=
  String.ofList ((Text.normalize name).toList.map fun c =>
    if c == '/' || c == '\\' || c == ':' then '_' else c)

/-- The name of the surface of a material; one without a name is numbered. -/
def Document.materialName (i : Nat) (m : Document.Material) : String :=
  if m.name.isEmpty then "material" ++ toString i else fileName m.name

namespace Surface

/-- The texture of a slot. -/
def slotTexture (doc : Document) (id : AssetId) (slot : Ref) (fallback : String) :
    Except Failure String :=
  match slot with
  | none => .ok fallback
  | some t =>
    let here := "texture " ++ toString t
    match at? doc.textures t with
    | none => .error ⟨.invalidReference, [here]⟩
    | some texture =>
      match texture.source with
      | none => .error ⟨.unresolvedReference, [here ++ " has no source image"]⟩
      | some i =>
        match at? doc.images i with
        | none => .error ⟨.invalidReference, [here ++ ": image " ++ toString i]⟩
        | some image =>
          if image.embedded then .ok (id.textureRef i)
          else .error ⟨.unresolvedReference,
            [here ++ ": image " ++ toString i ++ " (" ++ image.uri ++ ")"]⟩

/-- The texture slots of a material: parameter, reference and fallback. -/
def slots (m : Document.Material) : List (String × Ref × String) :=
  [("baseColorTexture", m.baseColorTexture, whiteTexture),
    ("metallicRoughnessTexture", m.metallicRoughnessTexture, whiteTexture),
    ("normalTexture", m.normalTexture, flatTexture)]

/-- The surface of a material. -/
def ofMaterial (doc : Document) (id : AssetId) (name template : String) (m : Document.Material) :
    Except Failure Surface := do
  let textures ← (slots m).mapM fun (param, slot, fallback) => do
    let ref ← inContext ("material " ++ Text.quote name ++ " " ++ param)
      (slotTexture doc id slot fallback)
    return Binding.mk param (.texture ref)
  return { name, template, bindings := textures ++ [
    ⟨"baseColorFactor", .vec4 m.baseColorFactor⟩,
    ⟨"metallicFactor", .scalar m.metallicFactor⟩,
    ⟨"roughnessFactor", .scalar m.roughnessFactor⟩] }

/-- The surfaces of materials, after those with the given names. -/
def buildFrom (doc : Document) (id : AssetId) (template : String) (seen : List String) :
    List Document.Material → Except Failure (List Surface)
  | [] => .ok []
  | m :: rest => do
    let i := seen.length
    let name := Document.materialName i m
    match seen.findIdx? (· == name) with
    | some first => throw ⟨.duplicateMaterial, [Text.quote name ++ " used by materials " ++
        toString first ++ " and " ++ toString i]⟩
    | none =>
      let s ← ofMaterial doc id name template m
      return s :: (← buildFrom doc id template (seen ++ [name]) rest)

/-- The surfaces of all materials of a document; names have to differ. -/
def build (doc : Document) (id : AssetId) (template : String) : Except Failure (List Surface) :=
  buildFrom doc id template [] doc.materials

/-- A directory is emptied and made again; that this fails is only worth a warning. -/
def renewDirectory (dir : String) : Job Unit := do
  Job.purgeDirectory dir "cannot purge surface directory"
  Job.orWarn "cannot create surface directory" (Job.createDirectory dir)

/-- Surfaces are written one after the other, up to the first failure: how many were written, and
that failure. -/
def saveAll (id : AssetId) (count : Nat) : List Surface → Job (Nat × Option Failure)
  | [] => return (count, none)
  | s :: rest => do
    match ← Job.attempt (s.save (id.surfacePath s.name)) with
    | .ok _ => saveAll id (count + 1) rest
    | .error f => return (count, some f)

/-- The surface files of an asset: how many were written, and why not all. -/
def generate (doc : Document) (id : AssetId) (template : String) : Job (Nat × Option Failure) := do
  if doc.materials.isEmpty then return (0, none)
  match build doc id template with
  | .error f => return (0, some f)
  | .ok surfaces =>
    renewDirectory id.surfaceDir
    saveAll id 0 surfaces

end Surface

end SceneForge
