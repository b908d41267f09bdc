import SceneForge.Path.Basic

set_option autoImplicit false

/-!
# The host

What a program finds around it when it is started: the working directory and the environment.

## Main definitions

* `SceneForge.Host` — working directory and environment.
* `SceneForge.Host.absolute` — a path seen from the root.
* `SceneForge.Host.configDir`, `SceneForge.Host.tempDir` — well-known directories.
-/

namespace SceneForge

/-- The surroundings of a program. -/
structure Host where
  /-- The working directory, seen from the root. -/
  directory : String
  /-- Variables of the environment. -/
  environment : List (String × String) := []
deriving DecidableEq, Inhabited

namespace Host

/-- The value of a variable; one that is not set is empty. -/
def env (h : Host) (name : String) : String := (h.environment.lookup name).getD ""

/-- A path seen from the root, in its shortest spelling. -/
def absolute (h : Host) (path : String) : String :=
  if Path.isRooted path.toList then Path.clean path else Path.joinAll [h.directory, path]

/-- The directory of the user's configuration. -/
def configDir (h : Host) : String :=
  let shared := h.env "XDG_CONFIG_HOME"
  if shared ≠ "" then Path.joinAll [shared, "assetpipe"]
  else Path.joinAll [h.env "HOME", ".config", "assetpipe"]

/-- The directory for temporary files. -/
def tempDir (h : Host) : String :=
  let dir := h.env "TMPDIR"
  if dir ≠ "" then dir else "/tmp"

end Host

end SceneForge
