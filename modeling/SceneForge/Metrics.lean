import SceneForge.Number.Shortest

set_option autoImplicit false

/-!
# Metrics

What exports did, counted: assets by outcome, failures by kind, how long assets took, and how much
was written. The counts are shown as lines of text, one series a line.

## Main definitions

* `SceneForge.Histogram` — observed values.
* `SceneForge.Measures` — everything that is counted.
* `SceneForge.Measures.render` — the counts as text.
-/

namespace SceneForge

/-! ## Counting -/

/-- Observed values, in order. -/
structure Histogram where
  /-- The values. -/
  values : List Float := []
deriving Inhabited

namespace Histogram

/-- One more value. -/
def observe (h : Histogram) (x : Float) : Histogram := ⟨h.values ++ [x]⟩

/-- The sum of the values. -/
def sum (h : Histogram) : Float := h.values.foldl (· + ·) 0

/-- How many values do not exceed a bound. -/
def upTo (h : Histogram) (bound : Float) : Nat := (h.values.filter (· ≤ bound)).length

end Histogram

/-- The entry of a label changed, starting from the default. -/
def updateAt {α : Type} [Inhabited α] (label : String) (f : α → α) :
    List (String × α) → List (String × α)
  | [] => [(label, f default)]
  | (l, a) :: rest => if l = label then (l, f a) :: rest else (l, a) :: updateAt label f rest

/-- Everything that is counted. -/
structure Measures where
  /-- Assets by outcome. -/
  assets : List (String × Nat) := []
  /-- Failures by kind. -/
  errors : List (String × Nat) := []
  /-- Seconds per asset, by category. -/
  durations : List (String × Histogram) := []
  /-- Textures made. -/
  textures : Nat := 0
  /-- Surfaces written. -/
  surfaces : Nat := 0
  /-- Triangles per mesh. -/
  triangles : Histogram := {}
deriving Inhabited

namespace Measures

/-- An asset of a category ended in some way after some milliseconds. The time of skipped assets
does not count. -/
def asset (m : Measures) (category status : String) (milliseconds : Int) : Measures :=
  let seconds := Float.ofInt (milliseconds.tdiv 1000) +
    Float.ofInt (milliseconds.tmod 1000 * 1000000) / 1000000000
  { m with
    assets := updateAt status (· + 1) m.assets
    durations := if status = "skipped" then m.durations
      else updateAt category (Histogram.observe · seconds) m.durations }

/-- An export failed. -/
def error (m : Measures) (kind : String) : Measures :=
  { m with errors := updateAt kind (· + 1) m.errors }

/-- Textures were made. -/
def addTextures (m : Measures) (n : Int) : Measures := { m with textures := m.textures + n.toNat }

/-- Surfaces were written. -/
def addSurfaces (m : Measures) (n : Int) : Measures := { m with surfaces := m.surfaces + n.toNat }

/-- A mesh of so many triangles was made. -/
def mesh (m : Measures) (triangles : Int) : Measures :=
  { m with triangles := m.triangles.observe (Float.ofInt triangles) }

end Measures

/-! ## Showing -/

namespace Metrics

/-- A number as it is shown. -/
def number (x : Float) : String := doubleText .message x

/-- A label as it is shown. -/
def labelText (name value : String) : String :=
  let escaped := value.toList.flatMap fun c =>
    if c == '\\' then ['\\', '\\'] else if c == '\n' then ['\\', 'n']
    else if c == '"' then ['\\', '"'] else [c]
  name ++ "=\"" ++ String.ofList escaped ++ "\""

/-- The name of a series with its labels. -/
def series (name : String) (labels : List String) : String :=
  if labels.isEmpty then name else name ++ "\x7b" ++ ",".intercalate labels ++ "\x7d"

/-- One line. -/
def line (name : String) (labels : List String) (x : Float) : String :=
  series name labels ++ " " ++ number x ++ "\n"

/-- The heading of a group of series and its lines; without lines nothing is shown. -/
def family (name type help : String) (lines : List String) : String :=
  if lines.isEmpty then ""
  else "# HELP " ++ name ++ " " ++ help ++ "\n# TYPE " ++ name ++ " " ++ type ++ "\n" ++
    String.join lines

/-- Entries in the order of their labels. -/
def byLabel {α : Type} (entries : List (String × α)) : List (String × α) :=
  entries.mergeSort fun a b => !(b.1 < a.1)

/-- Counts by label. -/
def counts (name help label : String) (entries : List (String × Nat)) : String :=
  family name "counter" help ((byLabel entries).map fun (value, n) =>
    line name [labelText label value] (Float.ofNat n))

/-- The lines of a histogram. -/
def histogram (name : String) (labels : List String) (bounds : List Float) (h : Histogram) :
    List String :=
  let total := Float.ofNat h.values.length
  (bounds.map fun b =>
    line (name ++ "_bucket") (labels ++ [labelText "le" (number b)]) (Float.ofNat (h.upTo b))) ++
  [line (name ++ "_bucket") (labels ++ [labelText "le" "+Inf"]) total,
    line (name ++ "_sum") labels h.sum, line (name ++ "_count") labels total]

/-- The bounds of durations in seconds. -/
def durationBounds : List Float := [0.01, 0.05, 0.1, 0.5, 1, 5, 10, 30, 60]

/-- The bounds of triangle counts. -/
def triangleBounds : List Float := (List.range 8).map fun i => Float.ofNat (16 * Nat.pow 4 i)

/-- The single line of a counter without labels. -/
def counter (name help : String) (n : Nat) : String :=
  family name "counter" help [line name [] (Float.ofNat n)]

end Metrics

open Metrics in
/-- The counts as text, in the order of their names. -/
def Measures.render (m : Measures) : String :=
  let durations := "assetpipe_export_duration_seconds"
  let triangles := "assetpipe_mesh_triangles"
  counts "assetpipe_assets_total" "Assets processed, by outcome" "status" m.assets ++
  counts "assetpipe_errors_total" "Failed exports, by error kind" "kind" m.errors ++
  family durations "histogram" "Time taken to export one asset"
    ((byLabel m.durations).flatMap fun (category, h) =>
      histogram durations [labelText "category" category] durationBounds h) ++
  family triangles "histogram" "Triangle count of merged meshes"
    (histogram triangles [] triangleBounds m.triangles) ++
  counter "assetpipe_surfaces_written_total" "Surface descriptors written" m.surfaces ++
  counter "assetpipe_textures_extracted_total" "Embedded images converted into textures" m.textures

end SceneForge
