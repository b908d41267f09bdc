import SceneForge.Depot.Basic
import SceneForge.Text.Case

set_option autoImplicit false

/-!
# Log lines

A notice is shown in one line: how serious it is, where it comes from, its text, and its details
between braces. Only notices that are serious enough are shown.

## Main definitions

* `SceneForge.Severity.ofName` — the least severity that is shown.
* `SceneForge.Notice.isShown` — whether a notice is serious enough.
* `SceneForge.Notice.body`, `SceneForge.Notice.line` — a notice as text.
-/

namespace SceneForge

namespace Severity

/-- The least severity with the given name, in any case; any other name stands for `info`. -/
def ofName (s : String) : Severity :=
  match Text.toLower s with
  | "debug" => debug
  | "warn" => warn
  | "warning" => warn
  | "error" => error
  | _ => info

/-- The name of a severity in log lines. -/
def label : Severity → String
  | debug => "DEBUG"
  | info => "INFO"
  | warn => "WARN"
  | error => "ERROR"

/-- Severities by number, the least serious first. -/
def rank : Severity → Nat
  | debug => 0
  | info => 1
  | warn => 2
  | error => 3

end Severity

namespace Notice

/-- Whether a notice is serious enough. -/
def isShown (least : Severity) (n : Notice) : Bool := least.rank ≤ n.severity.rank

/-- A character of a quoted detail. -/
def escapeDetail (c : Char) : String :=
  match c with
  | '\\' => "\\\\"
  | '"' => "\\\""
  | '\n' => "\\n"
  | '\r' => "\\r"
  | '\t' => "\\t"
  | c => if c.toNat < 0x20 then "\\u" ++ Text.hex 4 c.toNat else c.toString

/-- A quoted detail. -/
def quoteDetail (s : String) : String := "\"" ++ String.join (s.toList.map escapeDetail) ++ "\""

/-- A detail with its name. -/
def detailText (name : String) (v : Detail) : String :=
  quoteDetail name ++ ": " ++ (match v with
    | .text s => quoteDetail s
    | .int n => toString n)

/-- The text of a notice, and its details between braces if it has any. -/
def body (n : Notice) : String :=
  if n.details.isEmpty then n.text
  else n.text ++ " " ++ "\x7b" ++ ", ".intercalate (n.details.map fun d => detailText d.1 d.2) ++
    "\x7d"

/-- A notice in one line. -/
def line (n : Notice) : String :=
  n.severity.label ++ " " ++ (if n.origin = "" then "" else n.origin ++ " ") ++ n.body

end Notice

end SceneForge
