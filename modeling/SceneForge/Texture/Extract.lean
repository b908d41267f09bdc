import SceneForge.Document.Basic
import SceneForge.Texture.Convert

set_option autoImplicit false

/-!
# Extracting textures

The images embedded in a document become the textures of an asset. Each is written to a workspace of
its own, converted from there, and the workspace is removed again whether that went well or not.

## Main definitions

* `SceneForge.Texture.extractImage` — one image.
* `SceneForge.Texture.extract` — all embedded images of a document.
-/

namespace SceneForge.Texture

/-- Where workspaces are made. -/
def workspaceRoot : String := "temp:textureconverter"

/-- The failed extraction of an image. -/
def imageFailed (i : Nat) (f : Failure) : Failure :=
  ⟨.conversion, ["image " ++ toString i, f.message]⟩

/-- A failed conversion counts as it is, any other failure as one of the image. -/
def ofConversion (i : Nat) (f : Failure) : Failure :=
  if f.cause = .conversion then f else imageFailed i f

/-- Everything that happens in the workspace of an image. -/
def convertIn (convert : Converter) (i : Nat) (type : ImageType) (data : Bytes)
    (workspace dir : String) : Job Unit := do
  Job.mapFailure (fun f => ⟨.streamOpen, ["workspace " ++ workspace, f.message]⟩)
    (Job.createDirectory workspace)
  let file := workspace ++ "/" ++ toString i ++ "." ++ type.ext
  Job.writeAll file data
  Job.mapFailure (ofConversion i) (convert file workspace dir)

/-- A workspace is removed; that this fails is only worth a warning. -/
def dropWorkspace (workspace : String) : Job Unit :=
  Job.orWarn "cannot delete texture workspace" (Job.deleteDirectory workspace)

/-- One embedded image becomes a texture. -/
def extractImage (convert : Converter) (doc : Document) (dir : String) (i : Nat) (type : ImageType) :
    Job Unit := do
  let data ← Job.ofExcept ((doc.imageData i).mapError (imageFailed i))
  let workspace := workspaceRoot ++ "/" ++ (← Job.nextScratch)
  Job.thenAlways (convertIn convert i type data workspace dir) (dropWorkspace workspace)

/-- Images become textures one after the other, up to the first failure: how many did, and that
failure. -/
def extractAll (convert : Converter) (doc : Document) (dir : String) (count : Nat) :
    List (Document.Image × Nat) → Job (Nat × Option Failure)
  | [] => return (count, none)
  | (image, i) :: rest => do
    if !image.embedded then extractAll convert doc dir count rest
    else
      match ← Job.attempt (extractImage convert doc dir i image.type) with
      | .ok _ => extractAll convert doc dir (count + 1) rest
      | .error f => return (count, some f)

/-- The textures of a document replace those of a directory: how many were made, and why not all.
Without embedded images the directory is only removed. -/
def extract (convert : Converter) (doc : Document) (dir : String) : Job (Nat × Option Failure) := do
  Job.purgeDirectory dir "cannot purge texture directory"
  if doc.embeddedCount = 0 then return (0, none)
  Job.orWarn "cannot create texture directory" (Job.createDirectory dir)
  extractAll convert doc dir 0 doc.images.zipIdx

end SceneForge.Texture
