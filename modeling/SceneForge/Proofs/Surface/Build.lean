import Mathlib.Data.List.Forall2
import Mathlib.Data.List.Nodup
import SceneForge.Proofs.Document.Hierarchy
import SceneForge.Surface.Build

set_option autoImplicit false

/-!
# Surfaces that were built

What is known about the surfaces of a document if they can be built at all: there is one for every
material, in order, no two have the same name, and every texture that one of them refers to is a
system texture or that of an embedded image.

## Main definitions

* `SceneForge.Surface.Refers` — the textures that a surface of a document may refer to.

## Main results

* `SceneForge.Document.noSeparator_materialName` — the names of surfaces are single path elements.
* `SceneForge.Surface.refers_of_ofMaterial` — what a surface refers to.
* `SceneForge.Surface.getElem?_of_build`, `SceneForge.Surface.nodup_of_build` — the surfaces of a
  document.
-/

namespace SceneForge

/-! ## Results one after the other -/

section Results

variable {α β : Type} {r : Except Failure α}

/-- If one result after the other is a value, both are. -/
lemma exists_of_bind_eq_ok {f : α → Except Failure β} {b : β} (h : (r >>= f) = .ok b) :
    ∃ a, r = .ok a ∧ f a = .ok b := by
  cases r with
  | error e => cases h
  | ok a => exact ⟨a, rfl, h⟩

/-- One result after the other is a value exactly if both are. -/
lemma bind_eq_ok_iff {f : α → Except Failure β} {b : β} :
    (r >>= f) = .ok b ↔ ∃ a, r = .ok a ∧ f a = .ok b := by
  refine ⟨exists_of_bind_eq_ok, ?_⟩
  rintro ⟨a, rfl, h⟩
  exact h

/-- Values one after the other are those of the entries of a list. -/
lemma forall₂_of_mapM_eq_ok {f : α → Except Failure β} {xs : List α} {ys : List β}
    (h : xs.mapM f = .ok ys) : List.Forall₂ (fun x y => f x = .ok y) xs ys := by
  induction xs generalizing ys with
  | nil =>
    cases h
    exact .nil
  | cons x xs ih =>
    rw [List.mapM_cons] at h
    obtain ⟨y, hy, h⟩ := exists_of_bind_eq_ok h
    obtain ⟨ys', hys, h⟩ := exists_of_bind_eq_ok h
    cases h
    exact .cons hy (ih hys)

/-- Values one after the other come from the entries of a list. -/
lemma exists_of_mapM_eq_ok {f : α → Except Failure β} {xs : List α} {ys : List β}
    (h : xs.mapM f = .ok ys) : ∀ y ∈ ys, ∃ x ∈ xs, f x = .ok y := by
  intro y hy
  have hall := forall₂_of_mapM_eq_ok h
  obtain ⟨i, hi, rfl⟩ := List.mem_iff_getElem.mp hy
  have hlt : i < xs.length := hall.length_eq ▸ hi
  exact ⟨xs[i], List.getElem_mem hlt, hall.get hlt hi⟩

/-- A context does not matter for a value. -/
lemma inContext_eq_ok_iff {context : String} {a : α} : inContext context r = .ok a ↔ r = .ok a := by
  cases r with
  | error e => constructor <;> rintro ⟨⟩
  | ok b => exact Iff.rfl

end Results

/-! ## Names -/

/-- A number is written with digits only. -/
lemma notMem_toDigits {c : Char} (hc : c.isDigit = false) (n : Nat) : c ∉ Nat.toDigits 10 n := by
  intro hmem
  rw [Nat.isDigit_of_mem_toDigits (by decide) (by decide) hmem] at hc
  cases hc

/-- **The name of a surface** is a single path element. -/
lemma Document.noSeparator_materialName (i : Nat) (m : Document.Material) :
    '/' ∉ (materialName i m).toList ∧ '\\' ∉ (materialName i m).toList := by
  unfold materialName
  split_ifs
  · simp [notMem_toDigits]
  · simp only [fileName, String.toList_ofList, List.mem_map, not_exists, not_and]
    refine ⟨fun c _ hc => ?_, fun c _ hc => ?_⟩ <;>
    · split_ifs at hc with hsep
      · cases hc
      · simp [hc] at hsep

namespace Surface

variable {doc : Document} {id : AssetId} {template name : String} {m : Document.Material}
  {s : Surface}

/-! ## One material -/

/-- What a surface of a document may refer to: a system texture, or the texture of an embedded
image. -/
def Refers (doc : Document) (id : AssetId) (ref : String) : Prop :=
  ref = whiteTexture ∨ ref = flatTexture ∨
    ∃ (k : Nat) (image : Document.Image), doc.images[k]? = some image ∧ image.embedded = true ∧
      ref = id.textureRef k

/-- The texture of a slot. -/
lemma refers_of_slotTexture {slot : Ref} {fallback ref : String}
    (hfallback : fallback = whiteTexture ∨ fallback = flatTexture)
    (h : slotTexture doc id slot fallback = .ok ref) : Refers doc id ref := by
  unfold slotTexture at h
  cases slot with
  | none =>
    cases h
    exact hfallback.imp_right Or.inl
  | some t =>
    cases htexture : at? doc.textures t with
    | none => simp [htexture] at h
    | some texture =>
      cases hsource : texture.source with
      | none => simp [htexture, hsource] at h
      | some i =>
        cases himage : at? doc.images i with
        | none => simp [htexture, hsource, himage] at h
        | some image =>
          simp only [htexture, hsource, himage] at h
          split_ifs at h with hembedded
          cases h
          obtain ⟨k, rfl, hk⟩ := at?_eq_some_iff.mp himage
          exact Or.inr (Or.inr ⟨k, image, hk, hembedded, rfl⟩)

/-- A surface that was made is named as it was asked for. -/
lemma name_of_ofMaterial (h : ofMaterial doc id name template m = .ok s) : s.name = name := by
  obtain ⟨textures, -, h⟩ := exists_of_bind_eq_ok h
  cases h
  rfl

/-- **What a surface refers to**: every texture that it binds is a system texture or that of an
embedded image. -/
lemma refers_of_ofMaterial (h : ofMaterial doc id name template m = .ok s) {b : Binding}
    (hb : b ∈ s.bindings) {ref : String} (href : b.value = .texture ref) : Refers doc id ref := by
  obtain ⟨textures, htextures, h⟩ := exists_of_bind_eq_ok h
  cases h
  rcases List.mem_append.mp hb with hb | hb
  · obtain ⟨⟨param, slot, fallback⟩, hslot, hb⟩ := exists_of_mapM_eq_ok htextures b hb
    obtain ⟨ref', href', hb⟩ := exists_of_bind_eq_ok hb
    cases hb
    cases href
    refine refers_of_slotTexture ?_ (inContext_eq_ok_iff.mp href')
    simp only [slots, List.mem_cons, Prod.mk.injEq, List.not_mem_nil, or_false] at hslot
    rcases hslot with ⟨-, -, rfl⟩ | ⟨-, -, rfl⟩ | ⟨-, -, rfl⟩
    · exact Or.inl rfl
    · exact Or.inl rfl
    · exact Or.inr rfl
  · simp only [List.mem_cons, List.not_mem_nil, or_false] at hb
    rcases hb with rfl | rfl | rfl <;> cases href

/-! ## All materials -/

/-- The first of the surfaces that were built, and the others: its name is a new one. -/
lemma exists_of_buildFrom_cons {seen : List String} {ms : List Document.Material} {ss : List Surface}
    (h : buildFrom doc id template seen (m :: ms) = .ok ss) :
    ∃ s rest, ss = s :: rest ∧ Document.materialName seen.length m ∉ seen ∧
      ofMaterial doc id (Document.materialName seen.length m) template m = .ok s ∧
      buildFrom doc id template (seen ++ [Document.materialName seen.length m]) ms = .ok rest := by
  unfold buildFrom at h
  simp only at h
  cases hseen : seen.findIdx? (· == Document.materialName seen.length m) with
  | some first =>
    rw [hseen] at h
    cases h
  | none =>
    simp only [hseen] at h
    obtain ⟨s, hs, h⟩ := exists_of_bind_eq_ok h
    obtain ⟨rest, hrest, h⟩ := exists_of_bind_eq_ok h
    cases h
    refine ⟨s, rest, rfl, fun hmem => ?_, hs, hrest⟩
    have hnone := List.findIdx?_eq_none_iff.mp hseen _ hmem
    simp at hnone

/-- The surfaces of the materials from a position on, and their names behind those seen before.

**Proof sketch.** Induction on the materials. The surface of the first one has a name that was not
seen, and the others are built after it, with its name among those seen; their positions are counted
from one further on. -/
lemma of_buildFrom (ms : List Document.Material) : ∀ {seen : List String} {ss : List Surface},
    buildFrom doc id template seen ms = .ok ss →
      (seen.Nodup → (seen ++ ss.map (·.name)).Nodup) ∧
      (∀ k m, ms[k]? = some m → ∃ s, ss[k]? = some s ∧
        ofMaterial doc id (Document.materialName (seen.length + k) m) template m = .ok s) ∧
      ∀ s ∈ ss, ∃ k m, ms[k]? = some m ∧ s.name = Document.materialName (seen.length + k) m := by
  induction ms with
  | nil =>
    intro seen ss h
    cases h
    simp
  | cons m ms ih =>
    intro seen ss h
    obtain ⟨s, rest, rfl, hnew, hs, hrest⟩ := exists_of_buildFrom_cons h
    obtain ⟨hnodup, hall, hnames⟩ := ih hrest
    have hshift : ∀ k : Nat, (seen ++ [Document.materialName seen.length m]).length + k =
        seen.length + (k + 1) := by
      intro k
      simp only [List.length_append, List.length_singleton]
      omega
    refine ⟨fun hseen => ?_, fun k m' hk => ?_, fun s' hs' => ?_⟩
    · have hnodup' := hnodup (List.nodup_append.mpr ⟨hseen, List.nodup_singleton _, fun a ha b hb =>
        fun heq => hnew ((List.mem_singleton.mp hb).symm ▸ heq ▸ ha)⟩)
      rwa [List.append_assoc, List.singleton_append, ← name_of_ofMaterial hs,
        ← List.map_cons] at hnodup'
    · cases k with
      | zero =>
        cases hk
        exact ⟨s, rfl, hs⟩
      | succ k =>
        obtain ⟨s', hs', hmade⟩ := hall k m' hk
        rw [hshift] at hmade
        exact ⟨s', hs', hmade⟩
    · rcases List.mem_cons.mp hs' with rfl | hs'
      · exact ⟨0, m, rfl, name_of_ofMaterial hs⟩
      · obtain ⟨k, m', hk, hname⟩ := hnames s' hs'
        rw [hshift] at hname
        exact ⟨k + 1, m', hk, hname⟩

variable {ss : List Surface}

/-- **There is a surface for every material**, under the name of that material. -/
lemma getElem?_of_build (h : build doc id template = .ok ss) {k : Nat}
    (hk : doc.materials[k]? = some m) : ∃ s, ss[k]? = some s ∧
      ofMaterial doc id (Document.materialName k m) template m = .ok s := by
  have hall := (of_buildFrom doc.materials h).2.1 k m hk
  rwa [List.length_nil, Nat.zero_add] at hall

/-- **No two surfaces have the same name.** -/
lemma nodup_of_build (h : build doc id template = .ok ss) : (ss.map (·.name)).Nodup :=
  (of_buildFrom doc.materials h).1 List.nodup_nil

/-- The names of surfaces are those of materials. -/
lemma exists_of_mem_build (h : build doc id template = .ok ss) (hs : s ∈ ss) :
    ∃ k m, doc.materials[k]? = some m ∧ s.name = Document.materialName k m := by
  obtain ⟨k, m, hk, hname⟩ := (of_buildFrom doc.materials h).2.2 s hs
  rw [List.length_nil, Nat.zero_add] at hname
  exact ⟨k, m, hk, hname⟩

end Surface

end SceneForge
