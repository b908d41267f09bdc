import SceneForge.Gltf.Load
import SceneForge.Proofs.Document.Validity

set_option autoImplicit false

/-!
# The views of documents from files

A document text is refused unless its value has the shape of a document, and that shape bounds every
index, offset and length by 32 bits. So the end of a view that was read from a file is always a
machine integer, whatever the file says.

## Main results

* `SceneForge.Json.Shape.of_record`, `SceneForge.Json.Shape.of_list` — parts of a value of a shape.
* `SceneForge.Gltf.endFits_of_assemble` — the ends of views.
-/

namespace SceneForge

namespace Json

/-! ## Values of a shape -/

/-- What a record has in a field has the shape that the record prescribes for the first of its names
that the name of the field matches. -/
lemma Shape.of_record (n : Nat) {known : List (String × Shape)} {v x : Value} {name key : String}
    {s : Shape} (h : Shape.record known v = true) (hx : v.get? name = some x)
    (hn : (known.map Prod.fst).findIdx? (Text.equalFold name) = some n)
    (hs : known[n]? = some (key, s)) : s x = true := by
  have hfind : known.find? (fun k => Text.equalFold name k.1) = some (key, s) := by
    rw [List.findIdx?_map] at hn
    rw [List.find?_eq_bind_findIdx?_getElem?]
    exact (congrArg (Option.bind · (known[·]?)) hn).trans hs
  cases v with
  | object fields =>
    obtain ⟨f, hf, rfl⟩ := Option.map_eq_some_iff.mp hx
    have hfield := List.find?_some hf
    have hmem := List.mem_reverse.mp (List.mem_of_find?_eq_some hf)
    have hall := List.all_eq_true.mp h f hmem
    -- a known name that the field matches is one that the name matches
    have hsame : (fun k : String × Shape => Text.equalFold f.1 k.1) =
        fun k => Text.equalFold name k.1 := by
      funext k
      simp only [Text.equalFold, Bool.and_eq_true, beq_iff_eq] at hfield ⊢
      rw [hfield.1]
    simpa only [hsame, hfind] using hall
  | _ => cases hx

/-- An index is below `2 ^ 32`. -/
lemma Shape.naturalD_lt {x : Value} (h : Shape.index x = true) : x.naturalD < 2 ^ 32 := by
  cases x with
  | number n =>
    obtain ⟨hplain, hlt⟩ := (Bool.and_eq_true _ _).mp h
    simpa [Value.naturalD, Value.natural?, Numeral.natural?, hplain] using of_decide_eq_true hlt
  | null => decide
  | _ => cases h

/-- A field that holds an index, if anything, is below `2 ^ 32`. -/
lemma Shape.naturalD_field_lt (n : Nat) {known : List (String × Shape)} {v : Value}
    {name key : String} (h : Shape.record known v = true)
    (hn : (known.map Prod.fst).findIdx? (Text.equalFold name) = some n)
    (hs : known[n]? = some (key, Shape.index)) : (v.field name).naturalD < 2 ^ 32 := by
  cases hx : v.get? name with
  | none =>
    rw [Value.field, hx]
    decide
  | some x =>
    rw [Value.field, hx]
    exact naturalD_lt (of_record n h hx hn hs)

/-- What is in a list has the shape that the list prescribes. -/
lemma Shape.of_list {item : Shape} {v x : Value} (h : Shape.list item v = true)
    (hx : x ∈ v.items) : item x = true := by
  cases v with
  | array vs => exact List.all_eq_true.mp h x hx
  | _ => cases hx

end Json

namespace Gltf

open Json (Value Shape)

/-! ## Views -/

/-- The views of a document that was put together are those that its value describes. -/
lemma views_of_assemble {v : Value} {buffers : List Bytes} {d : Document}
    (h : assemble v buffers = .ok d) : d.views = (v.field "bufferViews").items.map fun e =>
      ⟨Int64.ofNat (e.field "buffer").naturalD, Int64.ofNat (e.field "byteOffset").naturalD,
        Int64.ofNat (e.field "byteLength").naturalD⟩ := by
  simp only [assemble, bind, Except.bind] at h
  split at h
  · cases h
  · split at h
    · cases h
    · cases h
      simp [ViewRange.ofValue]

/-- **The views of documents from files end within the machine integers**, because offsets and
lengths have half as many bits. -/
lemma endFits_of_assemble {v : Value} {buffers : List Bytes} {d : Document}
    (hshape : documentShape v = true) (h : assemble v buffers = .ok d) :
    ∀ w ∈ d.views, w.EndFits := by
  intro w hw
  rw [views_of_assemble h] at hw
  obtain ⟨e, he, rfl⟩ := List.mem_map.mp hw
  have hentry : named [("buffer", .index), ("byteOffset", .index), ("byteLength", .index),
      ("byteStride", .index), ("target", .natural 16)] e = true := by
    cases hviews : v.get? "bufferViews" with
    | none =>
      rw [Value.field, hviews] at he
      cases he
    | some x =>
      rw [Value.field, hviews] at he
      exact Shape.of_list (Shape.of_record 8 hshape hviews (by decide +kernel) rfl) he
  have hoffset : (e.field "byteOffset").naturalD < 2 ^ 32 :=
    Shape.naturalD_field_lt 4 hentry (by decide +kernel) rfl
  have hlength : (e.field "byteLength").naturalD < 2 ^ 32 :=
    Shape.naturalD_field_lt 5 hentry (by decide +kernel) rfl
  simp only [Document.View.EndFits]
  rw [Int64.toInt_ofNat_of_lt (by omega), Int64.toInt_ofNat_of_lt (by omega)]
  omega

end Gltf

end SceneForge
