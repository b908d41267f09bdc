import SceneForge.Json.Shape

set_option autoImplicit false

/-!
# The shape of a glTF document

Which fields a document has and what they may hold. A document of another shape is refused even if
the field in question is never used.

## Main definitions

* `SceneForge.Gltf.documentShape` — the shape of a whole document.
-/

namespace SceneForge.Gltf

open Json (Shape)

/-- A record with the fields that all records have. -/
def entity (known : List (String × Shape)) : Shape :=
  .record ([("extensions", .table .any), ("extras", .any)] ++ known)

/-- A record that has a name. -/
def named (known : List (String × Shape)) : Shape := entity (("name", .text) :: known)

/-- A list of records that have names. -/
def namedList (known : List (String × Shape)) : Shape := .list (named known)

/-- The place of a part of an accessor's data. -/
def sparsePart (known : List (String × Shape)) : Shape :=
  entity ([("bufferView", .index), ("byteOffset", .index)] ++ known)

/-- Accessors. -/
def accessorsShape : Shape :=
  namedList [("bufferView", .index), ("byteOffset", .index), ("componentType", .natural 16),
    ("normalized", .flag), ("count", .index), ("type", .text), ("max", .list .real),
    ("min", .list .real),
    ("sparse", entity [("count", .index), ("indices", sparsePart [("componentType", .natural 16)]),
      ("values", sparsePart [])])]

/-- Animations. -/
def animationsShape : Shape :=
  namedList [
    ("channels", .list (entity [("sampler", .index),
      ("target", entity [("node", .index), ("path", .text)])])),
    ("samplers", .list (entity [("input", .index), ("interpolation", .text),
      ("output", .index)]))]

/-- Cameras. -/
def camerasShape : Shape :=
  namedList [
    ("orthographic", entity [("xmag", .real), ("ymag", .real), ("zfar", .real), ("znear", .real)]),
    ("perspective", entity [("aspectRatio", .real), ("yfov", .real), ("zfar", .real),
      ("znear", .real)])]

/-- The use of a texture by a material. -/
def textureUse (known : List (String × Shape)) : Shape :=
  entity ([("index", .index), ("texCoord", .index)] ++ known)

/-- Materials. -/
def materialsShape : Shape :=
  namedList [
    ("pbrMetallicRoughness", entity [("baseColorFactor", .vector 4),
      ("baseColorTexture", textureUse []), ("metallicFactor", .real), ("roughnessFactor", .real),
      ("metallicRoughnessTexture", textureUse [])]),
    ("normalTexture", textureUse [("scale", .real)]),
    ("occlusionTexture", textureUse [("strength", .real)]),
    ("emissiveTexture", textureUse []), ("emissiveFactor", .vector 3), ("alphaMode", .text),
    ("alphaCutoff", .real), ("doubleSided", .flag)]

/-- Meshes. -/
def meshesShape : Shape :=
  namedList [
    ("primitives", .list (entity [("attributes", .table .index), ("indices", .index),
      ("material", .index), ("mode", .natural 8), ("targets", .list (.table .index))])),
    ("weights", .list .real)]

/-- Nodes. -/
def nodesShape : Shape :=
  namedList [("camera", .index), ("children", .list .index), ("skin", .index),
    ("matrix", .vector 16), ("mesh", .index), ("rotation", .vector 4), ("scale", .vector 3),
    ("translation", .vector 3), ("weights", .list .real)]

/-- A whole document. -/
def documentShape : Shape :=
  entity [
    ("extensionsUsed", .list .text), ("extensionsRequired", .list .text),
    ("accessors", accessorsShape), ("animations", animationsShape),
    ("asset", entity [("copyright", .text), ("generator", .text), ("version", .text),
      ("minVersion", .text)]),
    ("buffers", namedList [("uri", .text), ("byteLength", .index)]),
    ("bufferViews", namedList [("buffer", .index), ("byteOffset", .index), ("byteLength", .index),
      ("byteStride", .index), ("target", .natural 16)]),
    ("cameras", camerasShape),
    ("images", namedList [("uri", .text), ("mimeType", .text), ("bufferView", .index)]),
    ("materials", materialsShape), ("meshes", meshesShape), ("nodes", nodesShape),
    ("samplers", namedList [("magFilter", .natural 16), ("minFilter", .natural 16),
      ("wrapS", .natural 16), ("wrapT", .natural 16)]),
    ("scene", .index), ("scenes", namedList [("nodes", .list .index)]),
    ("skins", namedList [("inverseBindMatrices", .index), ("skeleton", .index),
      ("joints", .list .index)]),
    ("textures", namedList [("sampler", .index), ("source", .index)])]

end SceneForge.Gltf
