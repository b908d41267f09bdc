import SceneForge.Text.Printable
import SceneForge.Text.Utf8

set_option autoImplicit false

/-!
# Quoted text

The form in which messages show a text that came from outside: between double quotes, with
everything that does not print written as an escape.

## Main definitions

* `SceneForge.Text.quote` — a text between quotes.
* `SceneForge.Text.quoteBytes` — the same for bytes that need not be well-formed UTF-8.
-/

namespace SceneForge.Text

/-- The last `width` hexadecimal digits of a number, in lower case. -/
def hex (width n : Nat) : String :=
  String.ofList ((List.range width).map fun i =>
    ((n / Nat.pow 16 (width - 1 - i)) % 16).digitChar)

/-- The escaped form of one character inside quotes. -/
def escapeChar (c : Char) : String :=
  if c == '"' then "\\\"" else if c == '\\' then "\\\\"
  else if isPrintable c then c.toString
  else
    match c.toNat with
    | 7 => "\\a"
    | 8 => "\\b"
    | 9 => "\\t"
    | 10 => "\\n"
    | 11 => "\\v"
    | 12 => "\\f"
    | 13 => "\\r"
    | n =>
      if n < 0x20 || n == 0x7f then "\\x" ++ hex 2 n
      else if n < 0x10000 then "\\u" ++ hex 4 n
      else "\\U" ++ hex 8 n

/-- A text between double quotes. -/
def quote (s : String) : String :=
  "\"" ++ String.join (s.toList.map escapeChar) ++ "\""

/-- Bytes between double quotes; a byte outside well-formed UTF-8 is written in hexadecimal. -/
def quoteBytes (bs : Bytes) : String :=
  "\"" ++ String.join ((Utf8.scan bs).map fun
    | .char c => escapeChar c
    | .stray b => "\\x" ++ hex 2 b.toNat) ++ "\""

end SceneForge.Text
