import SceneForge.Json.Basic
import SceneForge.Proofs.Text.Utf8

set_option autoImplicit false

/-!
# JSON values are read back

The compact text of a value has no blanks. If its texts need no escapes and its numbers are natural,
the value is read from its compact text, however long the texts and lists are.

## Main definitions

* `SceneForge.Json.Value.compact` — the text of a value without blanks.
* `SceneForge.Json.Value.Plain` — values without escapes and without other than natural numbers.

## Main results

* `SceneForge.Json.value_compact` — a plain value is read from its compact text, whatever follows.
* `SceneForge.Json.parse?_compact` — a plain value is read from the bytes of its compact text.
-/

namespace SceneForge.Json

/-! ## Compact texts -/

mutual

/-- The text of a value without blanks. Numbers are written as natural ones. -/
def Value.compact : Value → List Char
  | .null => ['n', 'u', 'l', 'l']
  | .bool true => ['t', 'r', 'u', 'e']
  | .bool false => ['f', 'a', 'l', 's', 'e']
  | .number n => Nat.toDigits 10 n.digits
  | .text s => '"' :: (s.toList ++ ['"'])
  | .array [] => ['[', ']']
  | .array (v :: vs) => '[' :: (v.compact ++ compactItems vs)
  | .object [] => ['{', '}']
  | .object ((key, v) :: fs) =>
    '{' :: '"' :: (key.toList ++ '"' :: ':' :: (v.compact ++ compactFields fs))

/-- The items behind the first one, up to the closing bracket. -/
def compactItems : List Value → List Char
  | [] => [']']
  | v :: vs => ',' :: (v.compact ++ compactItems vs)

/-- The fields behind the first one, up to the closing brace. -/
def compactFields : List (String × Value) → List Char
  | [] => ['}']
  | (key, v) :: fs => ',' :: '"' :: (key.toList ++ '"' :: ':' :: (v.compact ++ compactFields fs))

end

/-- A text in which nothing has to be escaped. -/
def PlainText (s : String) : Prop := ∀ c ∈ s.toList, c ≠ '"' ∧ c ≠ '\\' ∧ 32 ≤ c.toNat

/-- Whether nothing has to be escaped can be found out. -/
instance decidablePlainText (s : String) : Decidable (PlainText s) :=
  List.decidableBAll (fun c => c ≠ '"' ∧ c ≠ '\\' ∧ 32 ≤ c.toNat) s.toList

mutual

/-- A value that is nested so deeply at most, without escapes and with natural numbers only. -/
def Value.Plain : Nat → Value → Prop
  | _, .null => True
  | _, .bool _ => True
  | _, .number n => n = { digits := n.digits }
  | _, .text s => PlainText s
  | 0, .array _ => False
  | 0, .object _ => False
  | depth + 1, .array vs => PlainItems depth vs
  | depth + 1, .object fs => PlainFields depth fs

/-- Items that are plain. -/
def PlainItems : Nat → List Value → Prop
  | _, [] => True
  | depth, v :: vs => v.Plain depth ∧ PlainItems depth vs

/-- Fields that are plain. -/
def PlainFields : Nat → List (String × Value) → Prop
  | _, [] => True
  | depth, (key, v) :: fs => PlainText key ∧ v.Plain depth ∧ PlainFields depth fs

end

/-! ## Texts and numbers -/

/-- The pieces of a plain text are its characters. -/
lemma pieces_plain {cs : List Char} (h : ∀ c ∈ cs, c ≠ '"' ∧ c ≠ '\\' ∧ 32 ≤ c.toNat)
    (rest : List Char) : ∀ acc,
      pieces (cs ++ '"' :: rest) acc = some ((cs.map Piece.char).reverse ++ acc, rest) := by
  induction cs with
  | nil => exact fun acc => rfl
  | cons c cs ih =>
    intro acc
    obtain ⟨⟨hquote, hback, hcontrol⟩, hcs⟩ := List.forall_mem_cons.mp h
    have hstep : pieces (c :: (cs ++ '"' :: rest)) acc =
        pieces (cs ++ '"' :: rest) (.char c :: acc) := by
      rw [pieces.eq_def]
      split
      · simp_all
      · simp_all
      · simp_all
      · rename_i c' rest' _ _ _ heq
        obtain ⟨rfl, rfl⟩ := List.cons.inj heq
        rw [if_neg (by simpa [hback] using hcontrol)]
      · simp_all
    rw [List.cons_append, hstep, ih hcs]
    simp

/-- The characters of pieces without escapes, which come latest first. -/
lemma joinPieces_plain (cs acc : List Char) :
    joinPieces (cs.map Piece.char) acc = cs.reverse ++ acc := by
  induction cs generalizing acc with
  | nil => rfl
  | cons c cs ih => simp [joinPieces, ih]

/-- A plain text is read up to its closing quote. -/
lemma text_plain {s : String} (h : PlainText s) (rest : List Char) :
    text (s.toList ++ '"' :: rest) = some (s, rest) := by
  simp only [text, pieces_plain h rest, List.append_nil, Option.map_some, ← List.map_reverse,
    joinPieces_plain, List.reverse_reverse, String.ofList_toList]

/-- What may follow a value: the end, or what stands behind a value inside of another one. -/
def Follows (rest : List Char) : Prop := ∀ c ∈ rest.head?, c = ',' ∨ c = ']' ∨ c = '}'

/-- No digit follows a value. -/
lemma Follows.spanDigits {ds rest : List Char} (hrest : Follows rest)
    (hds : ∀ c ∈ ds, c.isDigit = true) :
    (ds ++ rest).takeWhile Char.isDigit = ds ∧ (ds ++ rest).dropWhile Char.isDigit = rest := by
  have hnone : rest.takeWhile Char.isDigit = [] ∧ rest.dropWhile Char.isDigit = rest := by
    cases rest with
    | nil => exact ⟨rfl, rfl⟩
    | cons c rest =>
      have hc : c.isDigit = false := by
        rcases hrest c rfl with rfl | rfl | rfl <;> rfl
      simp [hc]
  rw [List.takeWhile_append_of_pos hds, List.dropWhile_append_of_pos hds, hnone.1, hnone.2,
    List.append_nil]
  exact ⟨rfl, rfl⟩

/-- A digit is none of the characters that start other values. -/
lemma ne_of_isDigit {c : Char} (h : c.isDigit = true) : c ≠ '{' ∧ c ≠ '[' ∧ c ≠ '"' ∧ c ≠ 'n' ∧
    c ≠ 't' ∧ c ≠ 'f' ∧ c ≠ '-' ∧ isBlank c = false := by
  refine ⟨?_, ?_, ?_, ?_, ?_, ?_, ?_, ?_⟩
  case refine_8 =>
    rw [Bool.eq_false_iff]
    intro hblank
    simp only [isBlank, Bool.or_eq_true, beq_iff_eq] at hblank
    rcases hblank with ((rfl | rfl) | rfl) | rfl <;> simp at h
  all_goals
    rintro rfl
    simp at h

/-- A number starts with a digit. -/
lemma exists_toDigits_eq_cons (n : Nat) :
    ∃ c ds, Nat.toDigits 10 n = c :: ds ∧ c.isDigit = true := by
  have hne : Nat.toDigits 10 n ≠ [] := Nat.toDigits_ne_nil
  obtain ⟨c, ds, hdigits⟩ := List.exists_cons_of_ne_nil hne
  exact ⟨c, ds, hdigits, Nat.isDigit_of_mem_toDigits (b := 10) (n := n) (by decide) (by decide)
    (hdigits ▸ List.mem_cons_self)⟩

/-- A number other than zero does not start with a zero. -/
lemma head?_toDigits_ne (n : Nat) (hpos : 0 < n) : (Nat.toDigits 10 n).head? ≠ some '0' := by
  induction n using Nat.strongRecOn with
  | ind n ih =>
    rcases Nat.lt_or_ge n 10 with hlt | hge
    · rw [Nat.toDigits_of_lt_base hlt]
      simpa using Nat.pos_iff_ne_zero.mp hpos
    · have hfront := ih (n / 10) (Nat.div_lt_self hpos (by decide)) (Nat.div_pos hge (by decide))
      rw [Nat.toDigits_of_base_le (by decide) hge, List.head?_append]
      cases hhead : (Nat.toDigits 10 (n / 10)).head? with
      | none => exact absurd (List.head?_eq_none_iff.mp hhead) Nat.toDigits_ne_nil
      | some c => rwa [hhead] at hfront

/-- The digits of a number are read, up to what may follow a value. -/
lemma leadingDigits_toDigits (n : Nat) {rest : List Char} (hrest : Follows rest) :
    leadingDigits (Nat.toDigits 10 n ++ rest) = some (Nat.toDigits 10 n, rest) := by
  rcases Nat.eq_zero_or_pos n with rfl | hpos
  · rfl
  obtain ⟨htake, hdrop⟩ := hrest.spanDigits fun c hc =>
    Nat.isDigit_of_mem_toDigits (b := 10) (n := n) (by decide) (by decide) hc
  have hhead := head?_toDigits_ne n hpos
  have hne : Nat.toDigits 10 n ≠ [] := Nat.toDigits_ne_nil
  generalize Nat.toDigits 10 n = ds at *
  cases ds with
  | nil => exact absurd rfl hne
  | cons c ds =>
    have hzero : c ≠ '0' := fun heq => hhead (congrArg some heq)
    simp only [leadingDigits, List.cons_append] at htake hdrop ⊢
    split
    · simp_all
    · simp [htake, hdrop]

/-- A natural number is read, up to what may follow a value. -/
lemma numeral_toDigits (n : Nat) {rest : List Char} (hrest : Follows rest) :
    numeral (Nat.toDigits 10 n ++ rest) = some ({ digits := n }, rest) := by
  have hlead := leadingDigits_toDigits n hrest
  have hvalue : digitsValue (Nat.toDigits 10 n) = n := Nat.ofDigitChars_ten_toDigits
  have hfraction : fraction rest = some ([], rest) := by
    cases rest with
    | nil => rfl
    | cons c rest => rcases hrest c rfl with rfl | rfl | rfl <;> rfl
  have hexponent : exponent rest = some (none, rest) := by
    cases rest with
    | nil => rfl
    | cons c rest => rcases hrest c rfl with rfl | rfl | rfl <;> rfl
  have hsign : ∀ ds, Nat.toDigits 10 n ++ rest ≠ '-' :: ds := by
    intro ds heq
    obtain ⟨c, cs, hdigits, hc⟩ := exists_toDigits_eq_cons n
    rw [hdigits, List.cons_append] at heq
    exact (ne_of_isDigit hc).2.2.2.2.2.2.1 (List.cons.inj heq).1
  unfold numeral
  split
  rename_i negative cs heq
  split at heq
  · exact absurd ‹_› (hsign _)
  · cases heq
    simp [hlead, hfraction, hexponent, hvalue]

/-! ## Values -/

/-- A natural number is a value. -/
lemma value_number (n fuel depth : Nat) {rest : List Char} (hrest : Follows rest) :
    value (fuel + 1) depth (Nat.toDigits 10 n ++ rest) = some (.number { digits := n }, rest) := by
  have hnumber := numeral_toDigits n hrest
  obtain ⟨c, ds, hdigits, hc⟩ := exists_toDigits_eq_cons n
  obtain ⟨hbrace, hbracket, hquote, hn, ht, hf, -, hblank⟩ := ne_of_isDigit hc
  rw [hdigits, List.cons_append] at hnumber ⊢
  have hskip : skipBlanks (c :: (ds ++ rest)) = c :: (ds ++ rest) := by simp [skipBlanks, hblank]
  rw [value, hskip]
  split
  all_goals simp_all

/-- A compact text starts with a character that is neither blank nor a closing bracket. -/
lemma exists_compact_eq_cons (v : Value) :
    ∃ c cs, v.compact = c :: cs ∧ isBlank c = false ∧ c ≠ ']' := by
  cases v with
  | null => exact ⟨_, _, rfl, rfl, by decide⟩
  | bool b => cases b <;> exact ⟨_, _, rfl, rfl, by decide⟩
  | number n =>
    obtain ⟨c, ds, hdigits, hc⟩ := exists_toDigits_eq_cons n.digits
    refine ⟨c, ds, hdigits, (ne_of_isDigit hc).2.2.2.2.2.2.2, ?_⟩
    rintro rfl
    simp at hc
  | text s => exact ⟨_, _, rfl, rfl, by decide⟩
  | array vs => cases vs <;> exact ⟨_, _, rfl, rfl, by decide⟩
  | object fs => rcases fs with _ | ⟨⟨key, v⟩, fs⟩ <;> exact ⟨_, _, rfl, rfl, by decide⟩

/-- A compact text is not empty. -/
lemma length_compact_pos (v : Value) : 0 < v.compact.length := by
  obtain ⟨c, cs, hcs, -⟩ := exists_compact_eq_cons v
  simp [hcs]

/-- The items of a list follow an opening bracket. -/
lemma value_bracket (v : Value) (fuel depth : Nat) (rest : List Char) :
    value (fuel + 1) (depth + 1) ('[' :: (v.compact ++ rest)) =
      items fuel depth (v.compact ++ rest) [] := by
  obtain ⟨c, cs, hcs, hblank, hclosing⟩ := exists_compact_eq_cons v
  have hskip : skipBlanks (c :: (cs ++ rest)) = c :: (cs ++ rest) := by simp [skipBlanks, hblank]
  have hopen : skipBlanks ('[' :: c :: (cs ++ rest)) = '[' :: c :: (cs ++ rest) := rfl
  rw [hcs, List.cons_append, value]
  simp only [hopen, Nat.add_one_ne_zero, if_false, hskip, Nat.add_sub_cancel]
  split
  · exact absurd (List.cons.inj ‹_›).1 hclosing
  · rfl

/-- Items follow the first one. -/
lemma follows_compactItems (vs : List Value) (rest : List Char) :
    Follows (compactItems vs ++ rest) := by
  cases vs <;> simp [Follows, compactItems]

/-- Fields follow the value of the first one. -/
lemma follows_compactFields (fs : List (String × Value)) (rest : List Char) :
    Follows (compactFields fs ++ rest) := by
  rcases fs with _ | ⟨⟨key, v⟩, fs⟩ <;> simp [Follows, compactFields]

section

variable {key : String} (hkey : PlainText key) {v : Value} {fuel depth : Nat} {cs rest : List Char}
  (acc : List (String × Value))

include hkey

/-- A field that others follow. -/
lemma members_next (hvalue : value fuel depth cs = some (v, ',' :: rest)) :
    members (fuel + 1) depth ('"' :: (key.toList ++ '"' :: ':' :: cs)) acc =
      members fuel depth rest ((key, v) :: acc) := by
  have hquote : skipBlanks ('"' :: (key.toList ++ '"' :: ':' :: cs)) =
      '"' :: (key.toList ++ '"' :: ':' :: cs) := rfl
  have hcolon : skipBlanks (':' :: cs) = ':' :: cs := rfl
  have hcomma : skipBlanks (',' :: rest) = ',' :: rest := rfl
  rw [members]
  simp only [hquote, text_plain hkey, hcolon, hvalue, hcomma]

/-- The last field. -/
lemma members_last (hvalue : value fuel depth cs = some (v, '\x7d' :: rest)) :
    members (fuel + 1) depth ('"' :: (key.toList ++ '"' :: ':' :: cs)) acc =
      some (.object ((key, v) :: acc).reverse, rest) := by
  have hquote : skipBlanks ('"' :: (key.toList ++ '"' :: ':' :: cs)) =
      '"' :: (key.toList ++ '"' :: ':' :: cs) := rfl
  have hcolon : skipBlanks (':' :: cs) = ':' :: cs := rfl
  have hbrace : skipBlanks ('\x7d' :: rest) = '\x7d' :: rest := rfl
  rw [members]
  simp only [hquote, text_plain hkey, hcolon, hvalue, hbrace]

end

mutual

/-- **A plain value is read** from its compact text, whatever may follow it. -/
theorem value_compact : ∀ (v : Value) (fuel depth : Nat) (rest : List Char), v.Plain depth →
    2 * v.compact.length ≤ fuel + 1 → Follows rest →
    value (fuel + 1) depth (v.compact ++ rest) = some (v, rest)
  | .null, _, _, _, _, _, _ => rfl
  | .bool true, _, _, _, _, _, _ => rfl
  | .bool false, _, _, _, _, _, _ => rfl
  | .number n, fuel, depth, rest, hplain, _, hrest => by
    rw [Value.Plain] at hplain
    rw [Value.compact, value_number n.digits fuel depth hrest, ← hplain]
  | .text s, fuel, depth, rest, hplain, _, _ => by
    rw [Value.Plain] at hplain
    show (text (s.toList ++ ['"'] ++ rest)).map _ = _
    rw [List.append_assoc, List.singleton_append, text_plain hplain]
    rfl
  | .array [], _, depth + 1, _, _, _, _ => rfl
  | .array (v :: vs), fuel, depth + 1, rest, hplain, hfuel, _ => by
    simp only [Value.Plain, PlainItems] at hplain
    simp only [Value.compact, List.length_cons, List.length_append] at hfuel
    have hpos := length_compact_pos v
    obtain ⟨k, rfl⟩ : ∃ k, fuel = k + 2 := ⟨fuel - 2, by omega⟩
    simp only [Value.compact, List.cons_append, List.append_assoc]
    rw [value_bracket]
    exact items_compact vs v [] (k + 1) depth rest hplain.2 (by omega)
      (value_compact v k depth _ hplain.1 (by omega) (follows_compactItems vs rest))
  | .object [], _, depth + 1, _, _, _, _ => rfl
  | .object ((key, v) :: fs), fuel, depth + 1, rest, hplain, hfuel, hrest => by
    simp only [Value.Plain, PlainFields] at hplain
    simp only [Value.compact, List.length_cons, List.length_append] at hfuel
    obtain ⟨k, rfl⟩ : ∃ k, fuel = k + 2 := ⟨fuel - 2, by omega⟩
    simp only [Value.compact, List.cons_append, List.append_assoc]
    exact members_compact fs key v [] (k + 1) depth rest hplain.1 hplain.2.2 (by omega)
      (value_compact v k depth _ hplain.2.1 (by omega) (follows_compactFields fs rest))

/-- The items of a list are read up to its closing bracket, if the first one is read. -/
theorem items_compact : ∀ (vs : List Value) (v : Value) (acc : List Value) (fuel depth : Nat)
    (rest : List Char), PlainItems depth vs → 2 * (compactItems vs).length ≤ fuel + 1 →
    value fuel depth (v.compact ++ (compactItems vs ++ rest)) = some (v, compactItems vs ++ rest) →
    items (fuel + 1) depth (v.compact ++ (compactItems vs ++ rest)) acc =
      some (.array (acc.reverse ++ v :: vs), rest)
  | [], v, acc, fuel, depth, rest, _, _, hvalue => by
    have hclosing : skipBlanks (compactItems [] ++ rest) = ']' :: rest := rfl
    rw [items, hvalue]
    simp only [hclosing, List.reverse_cons]
  | w :: vs, v, acc, fuel, depth, rest, hplain, hfuel, hvalue => by
    simp only [PlainItems] at hplain
    simp only [compactItems, List.length_cons, List.length_append] at hfuel
    have hpos := length_compact_pos w
    obtain ⟨k, rfl⟩ : ∃ k, fuel = k + 2 := ⟨fuel - 2, by omega⟩
    have hrest := items_compact vs w (v :: acc) (k + 1) depth rest hplain.2 (by omega)
      (value_compact w k depth _ hplain.1 (by omega) (follows_compactItems vs rest))
    have hcomma : skipBlanks (compactItems (w :: vs) ++ rest) =
        ',' :: (w.compact ++ (compactItems vs ++ rest)) := by
      rw [compactItems, List.cons_append, List.append_assoc]
      rfl
    rw [items, hvalue]
    simp only [hcomma, hrest, List.reverse_cons, List.append_assoc, List.singleton_append]

/-- The fields of an object are read up to its closing brace, if the first value is read. -/
theorem members_compact : ∀ (fs : List (String × Value)) (key : String) (v : Value)
    (acc : List (String × Value)) (fuel depth : Nat) (rest : List Char), PlainText key →
    PlainFields depth fs → 2 * (compactFields fs).length ≤ fuel + 1 →
    value fuel depth (v.compact ++ (compactFields fs ++ rest)) = some (v, compactFields fs ++ rest) →
    members (fuel + 1) depth
        ('"' :: (key.toList ++ '"' :: ':' :: (v.compact ++ (compactFields fs ++ rest)))) acc =
      some (.object (acc.reverse ++ (key, v) :: fs), rest)
  | [], key, v, acc, fuel, depth, rest, hkey, _, _, hvalue => by
    have hlast : compactFields [] ++ rest = '\x7d' :: rest := rfl
    rw [hlast] at hvalue ⊢
    rw [members_last hkey acc hvalue, List.reverse_cons]
  | (key', w) :: fs, key, v, acc, fuel, depth, rest, hkey, hplain, hfuel, hvalue => by
    simp only [PlainFields] at hplain
    simp only [compactFields, List.length_cons, List.length_append] at hfuel
    obtain ⟨k, rfl⟩ : ∃ k, fuel = k + 2 := ⟨fuel - 2, by omega⟩
    have hrest := members_compact fs key' w ((key, v) :: acc) (k + 1) depth rest hplain.1 hplain.2.2
      (by omega) (value_compact w k depth _ hplain.2.1 (by omega) (follows_compactFields fs rest))
    have hnext : compactFields ((key', w) :: fs) ++ rest = ',' :: '"' ::
        (key'.toList ++ '"' :: ':' :: (w.compact ++ (compactFields fs ++ rest))) := by
      simp [compactFields]
    rw [hnext] at hvalue ⊢
    rw [members_next hkey acc hvalue, hrest, List.reverse_cons, List.append_assoc,
      List.singleton_append]

end

/-- **A plain value is read** from the bytes of its compact text. -/
theorem parse?_compact {v : Value} (h : v.Plain maxDepth) :
    parse? (utf8 (String.ofList v.compact)) = some v := by
  have hchars : Text.Utf8.characters (utf8 (String.ofList v.compact)) = v.compact := by
    rw [Text.Utf8.characters_utf8, String.toList_ofList]
  have hvalue :=
    value_compact v (2 * v.compact.length + 1) maxDepth [] h (by omega) (by simp [Follows])
  rw [List.append_nil] at hvalue
  simp only [parse?, hchars, hvalue, Option.map_some]

end SceneForge.Json
