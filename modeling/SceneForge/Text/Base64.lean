import SceneForge.Text.Utf8

set_option autoImplicit false

/-!
# Base64

Bytes written as text: four characters of a 64-letter alphabet for three bytes, the last group
filled up with equal signs.

## Main definitions

* `SceneForge.Text.Base64.decode?` — the bytes of a padded text; line breaks in it do not count.
-/

namespace SceneForge.Text.Base64

/-- The value of a letter of the alphabet. -/
def letter? (c : Char) : Option Nat :=
  if c.isUpper then some (c.toNat - 65)
  else if c.isLower then some (c.toNat - 71)
  else if c.isDigit then some (c.toNat + 4)
  else if c == '+' then some 62
  else if c == '/' then some 63
  else none

/-- The bytes of four-letter groups, latest first. Only the last group may be filled up, with one or
two equal signs. -/
def groups : List Char → Bytes → Option Bytes
  | [], acc => some acc
  | [a, b, '=', '='], acc => do
    let x := (← letter? a) * 64 + (← letter? b)
    return (x / 16).toUInt8 :: acc
  | [a, b, c, '='], acc => do
    let x := ((← letter? a) * 64 + (← letter? b)) * 64 + (← letter? c)
    return (x / 4).toUInt8 :: (x / 1024).toUInt8 :: acc
  | a :: b :: c :: d :: rest, acc =>
    match letter? a, letter? b, letter? c, letter? d with
    | some p, some q, some r, some s =>
      let x := ((p * 64 + q) * 64 + r) * 64 + s
      groups rest (x.toUInt8 :: (x / 256).toUInt8 :: (x / 65536).toUInt8 :: acc)
    | _, _, _, _ => none
  | _, _ => none

/-- The bytes of a text. -/
def decode? (text : List Char) : Option Bytes :=
  (groups (text.filter fun c => c != '\n' && c != '\r') []).map List.reverse

end SceneForge.Text.Base64
