import SceneForge.Model.Basic
import SceneForge.Proofs.Surface.Build
import SceneForge.Proofs.Yaml.Reading

set_option autoImplicit false

/-!
# Surface and model files are read back

Surfaces and models are written as YAML with rules of their own: a binding has its value under the
name of its kind, and a model leaves out what is empty. Whenever the text of a surface or model
reads back as YAML, that is, key by key and item by item, it is read as the very surface or model.

## Main definitions

* `SceneForge.Surface.ReadsBack`, `SceneForge.Model.ReadsBack` — surfaces and models whose text is
  read as the entries that were written.

## Main results

* `SceneForge.Surface.decode_render` — a surface is read from its text.
* `SceneForge.Model.decode_render` — a model is read from its text.
-/

namespace SceneForge

open Yaml (Fills record_reads list_reads vector_reads vector_reads_row optional_reads text_reads
  single_reads int_reads parsed_reads)

/-! ## Surfaces -/

namespace Binding

variable {es : List (String × Yaml.Value)} {value : BindingValue}

/-- A binding is read from an entry with exactly one value. -/
lemma decoder_reads_of_draft {draft : Draft} (old : Binding)
    (hdraft : Draft.decoder.Reads (.map es) {} draft) (hvalues : draft.values = [value]) :
    decoder.Reads (.map es) old ⟨draft.name, value⟩ := by
  intro n hsaid complaints
  have hnull := Yaml.isNull_gives hsaid complaints
  have hread := hdraft n hsaid complaints
  have hget := Yaml.Reading.run_get complaints
  rw [decoder, Yaml.Reading.run_bind_of_run hnull]
  simp only [Bool.false_eq_true, if_false]
  rw [Yaml.Reading.run_bind_of_run hget, Yaml.Reading.run_bind_of_run hread,
    Yaml.Reading.run_bind_of_run hget]
  simp only [gt_iff_lt, Nat.lt_irrefl, if_false, Option.getD_some, hvalues]
  rfl

/-- **A binding is read** from what is written for it: an entry with its name, and with its value
under the name of its kind. -/
lemma decoder_reads {b : Binding} {v : Yaml.Value} (h : b.toYaml = .ok v) (old : Binding) :
    decoder.Reads v old b := by
  obtain ⟨name, value⟩ := b
  cases value with
  | texture ref =>
    cases h
    have hdraft : Draft.decoder.Reads (.map [("name", .text name), ("texture", .text ref)]) {}
        { name, texture := some ref } :=
      record_reads (show _ = ["name", "texture"] from rfl) (by decide)
        (.field rfl (text_reads _ _) (.field rfl (optional_reads (text_reads _ _)) (.nil _)))
    exact decoder_reads_of_draft old hdraft rfl
  | vec4 v =>
    cases h
    have hvector : (Yaml.vector 0 Yaml.single).Reads (.row (v.toList.map .single)) [0, 0, 0, 0]
        v.toList := by
      refine vector_reads_row ?_ rfl
      rw [List.forall₂_map_left_iff, List.forall₂_same]
      exact fun a _ => single_reads a 0
    have hdraft : Draft.decoder.Reads
        (.map [("name", .text name), ("vec4", .row (v.toList.map .single))]) {}
        { name, vec4 := some v.toList } :=
      record_reads (show _ = ["name", "vec4"] from rfl) (by decide)
        (.field rfl (text_reads _ _) (.field rfl (optional_reads hvector) (.nil _)))
    exact decoder_reads_of_draft old hdraft rfl
  | scalar x =>
    cases h
    have hdraft : Draft.decoder.Reads (.map [("name", .text name), ("scalar", .single x)]) {}
        { name, scalar := some x } :=
      record_reads (show _ = ["name", "scalar"] from rfl) (by decide)
        (.field rfl (text_reads _ _) (.field rfl (optional_reads (single_reads _ _)) (.nil _)))
    exact decoder_reads_of_draft old hdraft rfl
  | unknown kind => cases h

end Binding

namespace Surface

variable {s : Surface} {es : List (String × Yaml.Value)} {text : String}

/-- A surface whose text reads back. -/
def ReadsBack (s : Surface) : Prop := ∀ es, s.entries = .ok es → Yaml.ReadsBack 4 es

/-- A surface is read from its entries: its name, its template, and its bindings in order. -/
lemma decoder_reads (h : s.entries = .ok es) : decoder.Reads (.map es) {} s := by
  obtain ⟨params, hparams, hes⟩ := bind_eq_ok_iff.mp h
  cases hes
  have hbindings : List.Forall₂ (fun v b => Binding.decoder.Reads v default b) params s.bindings :=
    ((forall₂_of_mapM_eq_ok hparams).imp fun b v h => Binding.decoder_reads h default).flip
  exact record_reads (show _ = ["name", "template", "params"] from rfl) (by decide)
    (.field rfl (text_reads _ _) (.field rfl (text_reads _ _) (.field rfl (list_reads hbindings)
      (.nil _))))

/-- **A surface is read from its text**, if that reads back. -/
lemma decode_render (hrender : s.render = .ok text) (hback : s.ReadsBack) :
    Yaml.decode decoder {} (utf8 text) = .ok s := by
  obtain ⟨es, hes, htext⟩ := bind_eq_ok_iff.mp hrender
  cases htext
  exact Yaml.decode_of_readsBack (hback es hes) (decoder_reads hes)

end Surface

/-! ## Models -/

namespace Bounds

/-- A corner is read from its coordinates. -/
lemma cornerDecoder_reads (v old : Vec3 Single) :
    cornerDecoder.Reads (.seq (v.toList.map .single)) old v := by
  intro n hsaid
  have hvector : (Yaml.vector 0 Yaml.single).Reads (.seq (v.toList.map .single)) old.toList v.toList := by
    refine vector_reads ?_ rfl
    rw [List.forall₂_map_left_iff, List.forall₂_same]
    exact fun a _ => single_reads a 0
  exact (hvector n hsaid).bind (Yaml.Reading.gives_pure _)

/-- A box is read from its entries. -/
lemma decoder_reads (b old : Bounds) : decoder.Reads (.map b.entries) old b :=
  record_reads (show _ = ["min", "max"] from rfl) (by decide)
    (.field rfl (cornerDecoder_reads _ _) (.field rfl (cornerDecoder_reads _ _) (.nil _)))

end Bounds

namespace Model

/-- A model whose text reads back. -/
def ReadsBack (m : Model) : Prop := Yaml.ReadsBack 4 m.entries

/-- A group is read from its entries; its surface is left out if it has none. -/
lemma Part.decoder_reads (p : Part) : Part.decoder.Reads p.value {} p := by
  obtain ⟨name, surface, firstIndex, indexCount⟩ := p
  by_cases hempty : surface.isEmpty = true
  · obtain rfl : surface = "" := by simpa using hempty
    exact record_reads (show _ = ["name", "first_index", "index_count"] from rfl) (by decide)
      (.field rfl (text_reads _ _) (.field rfl (int_reads _ _) (.field rfl (int_reads _ _) (.nil _))))
  · rw [Part.value, unlessEmpty, if_neg hempty]
    exact record_reads (show _ = ["name", "surface", "first_index", "index_count"] from rfl) (by decide)
      (.field rfl (text_reads _ _) (.field rfl (text_reads _ _) (.field rfl (int_reads _ _)
        (.field rfl (int_reads _ _) (.nil _)))))

/-- A joint is read from its entries. -/
lemma Joint.decoder_reads (j : Joint) : Joint.decoder.Reads j.value {} j :=
  record_reads (show _ = ["name", "parent"] from rfl) (by decide)
    (.field rfl (text_reads _ _) (.field rfl (int_reads _ _) (.nil _)))

/-- A mode is read from its name. -/
lemma modeDecoder_reads (mode old : Mode) : Attributes.modeDecoder.Reads (.text mode.name) old mode :=
  parsed_reads (by cases mode <;> decide +kernel)

/-- A list that is left out if it is empty fills its field, if the field is empty so far. -/
lemma fills_unlessNil {α σ : Type} {fields : List (Yaml.Field σ)} {name : String} {get : σ → List α}
    {put : σ → List α → σ} {d : Yaml.Decoder α} {start : α} {f : α → Yaml.Value} {as : List α}
    {s s' : σ} (find : fields.find? (fun f => f.name == name) =
      some (Yaml.field name get put (Yaml.list start d)))
    (hitems : ∀ a ∈ as, d.Reads (f a) start a) (hkeep : put s [] = s) (hput : put s as = s') :
    Fills fields (unlessNil name (as.map f)) s s' := by
  subst hput
  cases as with
  | nil =>
    rw [hkeep]
    exact .nil s
  | cons a as =>
    have hall : List.Forall₂ (fun v a => d.Reads v start a) ((a :: as).map f) (a :: as) := by
      rw [List.forall₂_map_left_iff, List.forall₂_same]
      exact hitems
    exact .field find (list_reads hall) (.nil _)

/-- The keys of a model are ordinary, whatever is left out. -/
lemma ordinaryKeys_entries (m : Model) : Yaml.OrdinaryKeys (m.entries.map (·.1)) := by
  cases hflags : m.flags <;> cases hjoints : m.joints <;>
    simp [Yaml.OrdinaryKeys, entries, unlessNil, hflags, hjoints]

/-- A model is read from its entries, also where it leaves out what is empty. -/
lemma decoder_reads (m : Model) : decoder.Reads (.map m.entries) {} m := by
  have hparts : List.Forall₂ (fun v p => Part.decoder.Reads v {} p) (m.parts.map Part.value) m.parts := by
    rw [List.forall₂_map_left_iff, List.forall₂_same]
    exact fun p _ => p.decoder_reads
  refine record_reads rfl m.ordinaryKeys_entries ?_
  apply Fills.append
  · apply Fills.append
    · apply Fills.append
      · exact .field rfl (text_reads _ _) (.field rfl (text_reads _ _) (.field rfl
          (modeDecoder_reads _ _) (.nil _)))
      · exact fills_unlessNil rfl (fun flag _ => text_reads flag _) rfl rfl
    · exact .field rfl (single_reads _ _) (.field rfl (text_reads _ _) (.field rfl
        (Bounds.decoder_reads _ _) (.field rfl (list_reads hparts) (.nil _))))
  · exact fills_unlessNil rfl (fun j _ => Joint.decoder_reads j) rfl rfl

/-- **A model is read from its text**, if that reads back. -/
lemma decode_render {m : Model} (hback : m.ReadsBack) :
    Yaml.decode decoder {} (utf8 m.render) = .ok m :=
  Yaml.decode_of_readsBack hback m.decoder_reads

end Model

end SceneForge
