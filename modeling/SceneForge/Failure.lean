set_option autoImplicit false

/-!
# Failures

Every operation that can fail does so with a `Failure`: the cause that decides how it is classified,
and the contexts it passed through on its way out.

## Main definitions

* `SceneForge.Cause` — the reasons that callers distinguish, and `plain` for all others.
* `SceneForge.Failure` — a cause with its contexts, outermost first.
* `SceneForge.Failure.message` — the contexts and the cause, separated by colons.
-/

namespace SceneForge

/-- Why an operation failed. -/
inductive Cause where
  /-- A location names an area that nothing is assigned to. -/
  | unknownAssign
  /-- A file cannot be opened for reading or writing. -/
  | streamOpen
  /-- A document refers to something it does not have. -/
  | invalidReference
  /-- A document cannot be read. -/
  | documentParse
  /-- An image's bytes are not part of the document. -/
  | externalImage
  /-- A scene has no document. -/
  | notSetUp
  /-- A scene has been flattened before. -/
  | alreadyFlattened
  /-- A scale is zero or negative. -/
  | invalidScale
  /-- A call does not fit the state of its session. -/
  | invalidState
  /-- The source of an export cannot be read. -/
  | sourceParse
  /-- There is nothing to export. -/
  | upToDate
  /-- A scene has no merged mesh yet. -/
  | noMesh
  /-- A physics description is not acceptable. -/
  | invalidPhysics
  /-- A base path belongs to another asset. -/
  | basePath
  /-- Export settings are not acceptable. -/
  | invalidSettings
  /-- A TGA picture is corrupt or of an unsupported kind. -/
  | targa
  /-- A picture cannot be converted. -/
  | conversion
  /-- A mesh file does not start with its magic. -/
  | meshMagic
  /-- A mesh file has a version other than the current one. -/
  | meshVersion
  /-- A platform is unknown. -/
  | meshPlatform
  /-- A mesh file ends too early. -/
  | meshTruncated
  /-- A mesh does not fit the mesh file format. -/
  | meshTooLarge
  /-- A texture is not embedded and so cannot be exported. -/
  | unresolvedReference
  /-- Two materials have the same name. -/
  | duplicateMaterial
  /-- Any other reason, by its text. -/
  | plain (text : String)
deriving DecidableEq, Inhabited

/-- The text of a cause. -/
def Cause.text : Cause → String
  | unknownAssign => "vfs: unknown assign"
  | streamOpen => "vfs: cannot open stream"
  | invalidReference => "scenedoc: invalid reference"
  | documentParse => "scenedoc: cannot parse document"
  | externalImage => "scenedoc: image is not embedded"
  | notSetUp => "scene: not set up"
  | alreadyFlattened => "scene: already flattened"
  | invalidScale => "scene: scale must be positive"
  | invalidState => "export: invalid session state"
  | sourceParse => "export: cannot parse source document"
  | upToDate => "export: asset is up to date"
  | noMesh => "modelgen: scene has not been flattened"
  | invalidPhysics => "modelgen: invalid physics config"
  | basePath => "modelgen: base path does not match asset"
  | invalidSettings => "attributes: invalid settings"
  | targa => "texture: unsupported or corrupt TGA"
  | conversion => "texture: conversion failed"
  | meshMagic => "meshfile: invalid magic, expected 'AMSH'"
  | meshVersion => "meshfile: unsupported version"
  | meshPlatform => "meshfile: unknown platform"
  | meshTruncated => "meshfile: truncated data"
  | meshTooLarge => "meshfile: mesh too large"
  | unresolvedReference => "surface: external texture cannot be resolved"
  | duplicateMaterial => "surface: duplicate material name"
  | plain text => text

/-- A cause with the contexts it passed through. -/
structure Failure where
  /-- What went wrong. -/
  cause : Cause
  /-- Where it happened, outermost context first. -/
  trail : List String := []
deriving DecidableEq, Inhabited

namespace Failure

/-- The contexts and the cause, separated by colons. -/
def message (f : Failure) : String := ": ".intercalate (f.trail ++ [f.cause.text])

/-- The same failure seen from one context further out. -/
def within (context : String) (f : Failure) : Failure := { f with trail := context :: f.trail }

/-- A failure without context or class. -/
def plain (text : String) : Failure := ⟨.plain text, []⟩

end Failure

/-- A result whose failure gets one more context. -/
def inContext {α : Type} (context : String) : Except Failure α → Except Failure α
  | .error f => .error (f.within context)
  | .ok a => .ok a

end SceneForge
