set_option autoImplicit false

/-!
# Numbers in digits

Integers as people write them: decimal, or in another base with the base in front.

## Main definitions

* `SceneForge.Digits.hexDigit?`, `SceneForge.Digits.digit?` — the value of a digit.
* `SceneForge.Digits.natural?` — a natural number in some base.
* `SceneForge.Digits.prefixed?` — a natural number that says its base.
* `SceneForge.Digits.signed?` — an integer of 64 bits.
-/

namespace SceneForge.Digits

/-- The value of a hexadecimal digit. -/
def hexDigit? (c : Char) : Option Nat :=
  if c.isDigit then some (c.toNat - 48)
  else if 'a' ≤ c && c ≤ 'f' then some (c.toNat - 87)
  else if 'A' ≤ c && c ≤ 'F' then some (c.toNat - 55)
  else none

/-- The value of a digit in some base. -/
def digit? (base : Nat) (c : Char) : Option Nat :=
  (hexDigit? c).bind fun d => if d < base then some d else none

/-- A natural number in some base; at least one digit. -/
def natural? (base : Nat) (cs : List Char) : Option Nat :=
  if cs.isEmpty then none
  else cs.foldlM (fun n c => (digit? base c).map (n * base + ·)) 0

/-- A natural number with the base in front: `0x`, `0o` or `0` for octal, `0b`. -/
def prefixed? : List Char → Option Nat
  | '0' :: c :: rest =>
    if c == 'x' || c == 'X' then natural? 16 rest
    else if c == 'o' || c == 'O' then natural? 8 rest
    else if c == 'b' || c == 'B' then natural? 2 rest
    else natural? 8 (c :: rest)
  | cs => natural? 10 cs

/-- A sign, if there is one, and what follows. -/
def sign : List Char → Bool × List Char
  | '-' :: rest => (true, rest)
  | '+' :: rest => (false, rest)
  | cs => (false, cs)

/-- An integer with an optional sign in front. -/
def integer? (read : List Char → Option Nat) (cs : List Char) : Option Int :=
  let (negative, digits) := sign cs
  (read digits).map fun n => if negative then -(n : Int) else n

/-- Whether an integer fits 64 bits with sign. -/
def fits64 (i : Int) : Bool := -0x8000000000000000 ≤ i && i < 0x8000000000000000

/-- An integer that fits 64 bits with sign. -/
def signed? (read : List Char → Option Nat) (cs : List Char) : Option Int :=
  (integer? read cs).bind fun i => if fits64 i then some i else none

end SceneForge.Digits
