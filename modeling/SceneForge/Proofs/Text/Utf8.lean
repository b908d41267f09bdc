import Mathlib.Tactic.Common
import SceneForge.Text.Utf8

set_option autoImplicit false

/-!
# Text is read back from its bytes

The bytes of a character are read as that character, whatever follows them. So a text is read back
from its bytes, and no byte of it is stray.

## Main results

* `SceneForge.Text.Utf8.next_encode` — the bytes of one character.
* `SceneForge.Text.Utf8.decodeLossy_utf8` — the bytes of a text.
-/

namespace SceneForge.Text.Utf8

/-! ## One character -/

/-- A continuation byte. -/
lemma tailIn_ofNat {k : Nat} (hk : k < 64) : tailIn (UInt8.ofNat (k + 128)) 0x80 0xbf = true := by
  revert k
  decide

/-- The payload of a continuation byte. -/
lemma tail6_ofNat {k : Nat} (hk : k < 64) : tail6 (UInt8.ofNat (k + 128)) = k := by
  revert k
  decide

/-- Two bytes. -/
lemma next_two {k l : Nat} (hk : 2 ≤ k ∧ k < 32) (hl : l < 64) (rest : Bytes) :
    next (UInt8.ofNat (k + 192) :: UInt8.ofNat (l + 128) :: rest) =
      some (Char.ofNat (k * 64 + l), 2) := by
  have hlead : ∀ k < 32, 2 ≤ k → ¬ UInt8.ofNat (k + 192) < 0x80 ∧
      (0xc2 ≤ UInt8.ofNat (k + 192) && UInt8.ofNat (k + 192) ≤ 0xdf) = true ∧
      (UInt8.ofNat (k + 192) &&& 0x1f).toNat = k := by
    decide
  obtain ⟨hascii, htwo, hpayload⟩ := hlead k hk.2 hk.1
  simp only [next, if_neg hascii, if_pos htwo, if_pos (tailIn_ofNat hl), hpayload, tail6_ofNat hl]

/-- Three bytes; the first of them decides how small or large the second may be. -/
lemma next_three {k l m : Nat} (hk : k < 16) (hl : l < 64) (hm : m < 64) (hlo : k = 0 → 32 ≤ l)
    (hhi : k = 13 → l < 32) (rest : Bytes) :
    next (UInt8.ofNat (k + 224) :: UInt8.ofNat (l + 128) :: UInt8.ofNat (m + 128) :: rest) =
      some (Char.ofNat (k * 4096 + l * 64 + m), 3) := by
  have hlead : ∀ k < 16, ¬ UInt8.ofNat (k + 224) < 0x80 ∧
      (0xc2 ≤ UInt8.ofNat (k + 224) && UInt8.ofNat (k + 224) ≤ 0xdf) = false ∧
      (0xe0 ≤ UInt8.ofNat (k + 224) && UInt8.ofNat (k + 224) ≤ 0xef) = true ∧
      (UInt8.ofNat (k + 224) &&& 0x0f).toNat = k := by
    decide
  have hsecond : ∀ k < 16, ∀ l < 64, (k = 0 → 32 ≤ l) → (k = 13 → l < 32) →
      tailIn (UInt8.ofNat (l + 128)) (if UInt8.ofNat (k + 224) == 0xe0 then 0xa0 else 0x80)
        (if UInt8.ofNat (k + 224) == 0xed then 0x9f else 0xbf) = true := by
    decide +kernel
  obtain ⟨hascii, htwo, hthree, hpayload⟩ := hlead k hk
  simp only [next, if_neg hascii, htwo, Bool.false_eq_true, if_false, if_pos hthree,
    hsecond k hk l hl hlo hhi, tailIn_ofNat hm, Bool.and_self, if_true, hpayload, tail6_ofNat hl,
    tail6_ofNat hm]

/-- Four bytes; the first of them decides how small or large the second may be. -/
lemma next_four {k l m n : Nat} (hk : k ≤ 4) (hl : l < 64) (hm : m < 64) (hn : n < 64)
    (hlo : k = 0 → 16 ≤ l) (hhi : k = 4 → l < 16) (rest : Bytes) :
    next (UInt8.ofNat (k + 240) :: UInt8.ofNat (l + 128) :: UInt8.ofNat (m + 128) ::
        UInt8.ofNat (n + 128) :: rest) =
      some (Char.ofNat (k * 262144 + l * 4096 + m * 64 + n), 4) := by
  have hlead : ∀ k < 5, ¬ UInt8.ofNat (k + 240) < 0x80 ∧
      (0xc2 ≤ UInt8.ofNat (k + 240) && UInt8.ofNat (k + 240) ≤ 0xdf) = false ∧
      (0xe0 ≤ UInt8.ofNat (k + 240) && UInt8.ofNat (k + 240) ≤ 0xef) = false ∧
      (0xf0 ≤ UInt8.ofNat (k + 240) && UInt8.ofNat (k + 240) ≤ 0xf4) = true ∧
      (UInt8.ofNat (k + 240) &&& 0x07).toNat = k := by
    decide
  have hsecond : ∀ k < 5, ∀ l < 64, (k = 0 → 16 ≤ l) → (k = 4 → l < 16) →
      tailIn (UInt8.ofNat (l + 128)) (if UInt8.ofNat (k + 240) == 0xf0 then 0x90 else 0x80)
        (if UInt8.ofNat (k + 240) == 0xf4 then 0x8f else 0xbf) = true := by
    decide +kernel
  obtain ⟨hascii, htwo, hthree, hfour, hpayload⟩ := hlead k (by omega)
  simp only [next, if_neg hascii, htwo, hthree, Bool.false_eq_true, if_false, if_pos hfour,
    hsecond k (by omega) l hl hlo hhi, tailIn_ofNat hm, tailIn_ofNat hn, Bool.and_self, if_true,
    hpayload, tail6_ofNat hl, tail6_ofNat hm, tail6_ofNat hn]

/-- **The bytes of a character** are read as that character, whatever follows them. -/
lemma next_encode (c : Char) (rest : Bytes) :
    next (String.utf8EncodeChar c ++ rest) = some (c, (String.utf8EncodeChar c).length) := by
  have hvalid : c.val.toNat < 0xd800 ∨ 0xdfff < c.val.toNat ∧ c.val.toNat < 0x110000 := c.valid
  have hchar : Char.ofNat c.val.toNat = c := Char.ofNat_toNat c
  generalize hv : c.val.toNat = v at hvalid hchar
  simp only [String.utf8EncodeChar, hv]
  by_cases h₁ : v ≤ 127
  · have hascii : ∀ v ≤ 127, UInt8.ofNat v < 0x80 ∧ (UInt8.ofNat v).toNat = v := by decide
    obtain ⟨hlt, hval⟩ := hascii v h₁
    simp only [if_pos h₁, List.cons_append, List.nil_append, next, if_pos hlt, hval, hchar,
      List.length_singleton]
  rw [if_neg h₁]
  by_cases h₂ : v ≤ 2047
  · have hsum : v / 64 % 32 * 64 + v % 64 = v := by omega
    rw [if_pos h₂, List.cons_append, List.cons_append, next_two (by omega) (by omega), hsum, hchar]
    rfl
  rw [if_neg h₂]
  by_cases h₃ : v ≤ 65535
  · have hsum : v / 4096 % 16 * 4096 + v / 64 % 64 * 64 + v % 64 = v := by omega
    rw [if_pos h₃, List.cons_append, List.cons_append, List.cons_append,
      next_three (by omega) (by omega) (by omega) (by omega) (by omega), hsum, hchar]
    rfl
  · have hsum : v / 262144 % 8 * 262144 + v / 4096 % 64 * 4096 + v / 64 % 64 * 64 + v % 64 = v := by
      omega
    rw [if_neg h₃, List.cons_append, List.cons_append, List.cons_append, List.cons_append,
      next_four (by omega) (by omega) (by omega) (by omega) (by omega) (by omega), hsum, hchar]
    rfl

/-! ## Texts -/

/-- The bytes of a text are those of its characters. -/
lemma utf8_eq_flatMap (s : String) : utf8 s = s.toList.flatMap String.utf8EncodeChar := by
  have h : utf8 (String.ofList s.toList) = s.toList.flatMap String.utf8EncodeChar := by
    rw [utf8, String.toUTF8_eq_toByteArray, String.toByteArray_ofList, List.utf8Encode,
      List.toList_data_toByteArray]
  rwa [String.ofList_toList] at h

/-- Scanning the bytes of characters gives these characters. The induction is on the characters;
every one of them has a byte, so the fuel lasts. -/
lemma scanFrom_flatMap (cs : List Char) : ∀ (fuel : Nat) (acc : List Piece),
    (cs.flatMap String.utf8EncodeChar).length ≤ fuel →
    scanFrom fuel (cs.flatMap String.utf8EncodeChar) acc = acc.reverse ++ cs.map .char := by
  induction cs with
  | nil =>
    intro fuel acc _
    cases fuel <;> simp [scanFrom]
  | cons c cs ih =>
    intro fuel acc hfuel
    rw [List.flatMap_cons, List.length_append] at hfuel
    obtain ⟨b, bs, hbytes⟩ := List.exists_cons_of_ne_nil (String.utf8EncodeChar_ne_nil (c := c))
    have hnext := next_encode c (cs.flatMap String.utf8EncodeChar)
    have hdrop : (String.utf8EncodeChar c ++ cs.flatMap String.utf8EncodeChar).drop
        (String.utf8EncodeChar c).length = cs.flatMap String.utf8EncodeChar := List.drop_left
    rw [List.flatMap_cons]
    rw [hbytes] at hfuel hnext hdrop ⊢
    cases fuel with
    | zero => simp at hfuel
    | succ fuel =>
      rw [List.cons_append] at hnext hdrop ⊢
      simp only [scanFrom, hnext, hdrop]
      rw [ih fuel _ (by simp only [List.length_cons] at hfuel; omega)]
      simp

/-- Scanning the bytes of a text gives its characters. -/
lemma scan_utf8 (s : String) : scan (utf8 s) = s.toList.map .char := by
  rw [scan, utf8_eq_flatMap, scanFrom_flatMap _ _ _ (Nat.le_refl _)]
  rfl

/-- The characters of a text are read back from its bytes. -/
lemma characters_utf8 (s : String) : characters (utf8 s) = s.toList := by
  rw [characters, scan_utf8]
  simp [Function.comp_def]

/-- **A text is read back from its bytes.** -/
lemma decodeLossy_utf8 (s : String) : decodeLossy (utf8 s) = s := by
  rw [decodeLossy, characters_utf8, String.ofList_toList]

end SceneForge.Text.Utf8
