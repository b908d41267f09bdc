set_option autoImplicit false

/-!
# UTF-8 text as bytes

File contents are lists of bytes. This module reads them as text, one character at a time, and says
what happens where the bytes are not well formed.

## Main definitions

* `SceneForge.Text.Utf8.next` — the first well-formed character and the number of its bytes.
* `SceneForge.Text.Utf8.scan` — the characters and stray bytes of a byte list, in order.
* `SceneForge.Text.Utf8.decode?` — the text, if every byte belongs to a well-formed character; its
  characters are `SceneForge.Text.Utf8.characters?`.
* `SceneForge.Text.Utf8.decodeLossy` — the text with each stray byte replaced by U+FFFD; its
  characters are `SceneForge.Text.Utf8.characters`.
-/

namespace SceneForge

/-- File contents. -/
abbrev Bytes := List UInt8

/-- The UTF-8 bytes of a text. -/
def utf8 (s : String) : Bytes := s.toUTF8.data.toList

namespace Text.Utf8

/-- A continuation byte within bounds. -/
def tailIn (b : UInt8) (lo hi : UInt8) : Bool := lo ≤ b && b ≤ hi

/-- The payload of a continuation byte. -/
def tail6 (b : UInt8) : Nat := (b &&& 0x3f).toNat

/-- The first well-formed character of a byte list and the number of bytes it takes; `none` on an
empty list and where no shortest-form encoding of a character starts. -/
def next : Bytes → Option (Char × Nat)
  | [] => none
  | a :: rest =>
    if a < 0x80 then some (Char.ofNat a.toNat, 1)
    else if 0xc2 ≤ a && a ≤ 0xdf then
      match rest with
      | b :: _ =>
        if tailIn b 0x80 0xbf then
          some (Char.ofNat ((a &&& 0x1f).toNat * 64 + tail6 b), 2)
        else none
      | _ => none
    else if 0xe0 ≤ a && a ≤ 0xef then
      match rest with
      | b :: c :: _ =>
        let lo : UInt8 := if a == 0xe0 then 0xa0 else 0x80
        let hi : UInt8 := if a == 0xed then 0x9f else 0xbf
        if tailIn b lo hi && tailIn c 0x80 0xbf then
          some (Char.ofNat ((a &&& 0x0f).toNat * 4096 + tail6 b * 64 + tail6 c), 3)
        else none
      | _ => none
    else if 0xf0 ≤ a && a ≤ 0xf4 then
      match rest with
      | b :: c :: d :: _ =>
        let lo : UInt8 := if a == 0xf0 then 0x90 else 0x80
        let hi : UInt8 := if a == 0xf4 then 0x8f else 0xbf
        if tailIn b lo hi && tailIn c 0x80 0xbf && tailIn d 0x80 0xbf then
          some (Char.ofNat
            ((a &&& 0x07).toNat * 262144 + tail6 b * 4096 + tail6 c * 64 + tail6 d), 4)
        else none
      | _ => none
    else none

/-- One step of a scan: a character or a stray byte. -/
inductive Piece where
  /-- A well-formed character. -/
  | char (c : Char)
  /-- A byte that belongs to no well-formed character. -/
  | stray (b : UInt8)

/-- Scanning with the pieces so far in reverse. -/
def scanFrom : Nat → Bytes → List Piece → List Piece
  | 0, _, acc => acc.reverse
  | _ + 1, [], acc => acc.reverse
  | fuel + 1, b :: rest, acc =>
    match next (b :: rest) with
    | some (c, n) => scanFrom fuel ((b :: rest).drop n) (.char c :: acc)
    | none => scanFrom fuel rest (.stray b :: acc)

/-- The characters and stray bytes of a byte list. -/
def scan (bs : Bytes) : List Piece := scanFrom bs.length bs []

/-- The characters of a byte list, with each stray byte replaced by the replacement character. -/
def characters (bs : Bytes) : List Char :=
  (scan bs).map fun
    | .char c => c
    | .stray _ => '\ufffd'

/-- The text with each stray byte replaced by the replacement character. -/
def decodeLossy (bs : Bytes) : String := String.ofList (characters bs)

/-- The characters of a byte list, if the bytes are well formed throughout. -/
def characters? (bs : Bytes) : Option (List Char) :=
  (scan bs).mapM fun (p : Piece) =>
    match p with
    | .char c => some c
    | .stray _ => none

/-- The text, if the bytes are well formed throughout. -/
def decode? (bs : Bytes) : Option String := (characters? bs).map String.ofList

end Text.Utf8

end SceneForge
