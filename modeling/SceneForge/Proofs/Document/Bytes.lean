import SceneForge.Proofs.Access.InRange
import SceneForge.Proofs.Gltf.Views

set_option autoImplicit false

/-!
# The bytes behind a view

The end of a view is the sum of two machine integers, computed before anything is known about them.
The check behind it is exact as long as the end is a machine integer itself. A view that starts and
extends upwards, but ends beyond all machine integers, seems to end below zero: it passes the check,
and the range that is cut out then is none. This is the only way in which reading an image or
validating a document breaks, and no document that was read from a file has such a view.

## Main definitions

* `SceneForge.Document.ViewHolds` — the bytes of a view, by their place in the buffer.
* `SceneForge.Document.ViewWraps` — a view whose end is too large for a machine integer.
* `SceneForge.Document.Breaks` — results of cutting out a range that is none.

## Main results

* `SceneForge.Document.viewData_eq_ok_iff`, `SceneForge.Document.viewData_breaks_iff` — one view.
* `SceneForge.Document.validate_breaks_iff` — validation.
* `SceneForge.Document.imageData_exact` — when images have their bytes, and when reading breaks.
-/

namespace SceneForge

namespace Document

variable {d : Document} {i j : Int} {v : View} {b : Buffer} {data : Bytes}

/-! ## The end of a view -/

/-- The bytes of a view: its buffer has them behind as many bytes as the view skips, and there are
as many as the view says. -/
def ViewHolds (d : Document) (i : Int) (data : Bytes) : Prop :=
  ∃ v b before after, at? d.views i = some v ∧ at? d.buffers v.buffer.toInt = some b ∧
    b.data = before ++ data ++ after ∧ before.length = v.offset.toInt ∧ data.length = v.length.toInt

/-- A view of an existing buffer that starts and extends upwards, and whose end is too large for a
machine integer. -/
def ViewWraps (d : Document) (i : Int) : Prop :=
  ∃ v b, at? d.views i = some v ∧ at? d.buffers v.buffer.toInt = some b ∧ 0 ≤ v.offset.toInt ∧
    0 ≤ v.length.toInt ∧ 2 ^ 63 ≤ v.offset.toInt + v.length.toInt

/-- Upwards, the machine sum is the end of the view, or it is negative because the end is too
large. -/
lemma View.end_cases (v : View) (hoffset : 0 ≤ v.offset.toInt) (hlength : 0 ≤ v.length.toInt) :
    (v.offset.toInt + v.length.toInt < 2 ^ 63 ∧
        (v.offset + v.length).toInt = v.offset.toInt + v.length.toInt) ∨
      (2 ^ 63 ≤ v.offset.toInt + v.length.toInt ∧ (v.offset + v.length).toInt < 0) := by
  have ho := v.offset.toInt_lt
  have hl := v.length.toInt_lt
  by_cases hend : v.offset.toInt + v.length.toInt < 2 ^ 63
  · exact Or.inl ⟨hend, View.EndFits.toInt_add ⟨by omega, hend⟩⟩
  · refine Or.inr ⟨not_lt.mp hend, ?_⟩
    rw [Int64.toInt_add, Int.bmod_def]
    split_ifs <;> omega

/-- A part of a list is what is left of it in front of its end, behind its start. -/
lemma take_drop_eq_iff {xs part : Bytes} {start size : Nat} (h : start + size ≤ xs.length) :
    (xs.drop start).take size = part ↔
      ∃ before after, xs = before ++ part ++ after ∧ before.length = start ∧ part.length = size := by
  constructor
  · rintro rfl
    refine ⟨xs.take start, xs.drop (start + size), ?_, ?_, ?_⟩
    · rw [List.append_assoc, ← List.drop_drop, List.take_append_drop, List.take_append_drop]
    · rw [List.length_take, min_eq_left (by omega)]
    · rw [List.length_take, List.length_drop, min_eq_left (by omega)]
  · rintro ⟨before, after, rfl, rfl, rfl⟩
    simp

/-- A view has bytes exactly if it lies within its buffer. -/
lemma exists_viewHolds_iff : (∃ data, d.ViewHolds i data) ↔ d.ViewWithin i := by
  constructor
  · rintro ⟨data, v, b, before, after, hv, hb, hdata, hoffset, hlength⟩
    have hsum := congrArg List.length hdata
    rw [List.length_append, List.length_append] at hsum
    exact ⟨v, b, hv, hb, by omega, by omega, by omega⟩
  · rintro ⟨v, b, hv, hb, hoffset, hlength, hend⟩
    have hle : v.offset.toInt.toNat + v.length.toInt.toNat ≤ b.data.length := by omega
    obtain ⟨before, after, hdata, hbefore, hpart⟩ := (take_drop_eq_iff hle).mp rfl
    exact ⟨_, v, b, before, after, hv, hb, hdata, by omega, by omega⟩

/-! ## Results that break -/

/-- The result of cutting out a range that is none, whatever contexts it passed through. -/
def Breaks {α : Type} (r : Except Failure α) : Prop := ∃ f, r = .error f ∧ f.cause = badSlice.cause

/-- A success does not break. -/
lemma not_breaks_ok {α : Type} (a : α) : ¬ Breaks (.ok a) := by
  simp [Breaks]

/-- A failure breaks by its cause. -/
lemma breaks_error_iff {α : Type} {f : Failure} :
    Breaks (.error f : Except Failure α) ↔ f.cause = badSlice.cause := by
  simp [Breaks]

/-- A refused reference does not break. -/
lemma badReference_cause_ne (text : String) : (badReference text).cause ≠ badSlice.cause := by
  simp [badReference, badSlice, Failure.plain]

/-! ## One view -/

/-- A view that has bytes gives them. -/
lemma viewData_of_viewHolds (hlen : ∀ b ∈ d.buffers, b.data.length < 2 ^ 63)
    (h : d.ViewHolds i data) : d.viewData i = .ok data := by
  obtain ⟨v, b, before, after, hv, hb, hdata, hoffset, hlength⟩ := h
  have hsize := hlen b (mem_of_at?_eq_some hb)
  have hsum := congrArg List.length hdata
  rw [List.length_append, List.length_append] at hsum
  obtain ⟨-, hstop⟩ | ⟨hwrap, -⟩ := v.end_cases (by omega) (by omega)
  · have hbad : ¬ ((v.offset.toInt < 0 ∨ v.length.toInt < 0) ∨
        (v.offset + v.length).toInt > b.data.length) := by omega
    have hback : ¬ (v.offset + v.length).toInt < v.offset.toInt := by omega
    have hsize' : ((v.offset + v.length).toInt - v.offset.toInt).toNat = v.length.toInt.toNat := by
      rw [hstop, add_sub_cancel_left]
    simp only [viewData, hv, hb, Bool.or_eq_true, decide_eq_true_eq, Int64.lt_iff_toInt_lt,
      Int64.toInt_zero, if_neg hbad, if_neg hback, hsize']
    exact congrArg Except.ok
      ((take_drop_eq_iff (by omega)).mpr ⟨before, after, hdata, by omega, by omega⟩)
  · omega

/-- A view whose end is too large passes the check of its range and breaks. -/
lemma viewData_of_viewWraps (h : d.ViewWraps i) : d.viewData i = .error badSlice := by
  obtain ⟨v, b, hv, hb, hoffset, hlength, hend⟩ := h
  obtain ⟨hfits, -⟩ | ⟨-, hstop⟩ := v.end_cases hoffset hlength
  · omega
  · have hbad : ¬ ((v.offset.toInt < 0 ∨ v.length.toInt < 0) ∨
        (v.offset + v.length).toInt > b.data.length) := by omega
    have hback : (v.offset + v.length).toInt < v.offset.toInt := by omega
    simp only [viewData, hv, hb, Bool.or_eq_true, decide_eq_true_eq, Int64.lt_iff_toInt_lt,
      Int64.toInt_zero, if_neg hbad, if_pos hback]

/-- Every other view is refused. -/
lemma exists_badReference_of_viewData (hwithin : ¬ d.ViewWithin i) (hwraps : ¬ d.ViewWraps i) :
    ∃ text, d.viewData i = .error (badReference text) := by
  unfold viewData
  cases hv : at? d.views i with
  | none => exact ⟨_, rfl⟩
  | some v =>
    cases hb : at? d.buffers v.buffer.toInt with
    | none =>
      simp only [hb]
      exact ⟨_, rfl⟩
    | some b =>
      have hbad : (v.offset.toInt < 0 ∨ v.length.toInt < 0) ∨
          (v.offset + v.length).toInt > b.data.length := by
        by_contra hgood
        obtain ⟨-, hstop⟩ | ⟨hend, -⟩ := v.end_cases (by omega) (by omega)
        · exact hwithin ⟨v, b, hv, hb, by omega, by omega, by omega⟩
        · exact hwraps ⟨v, b, hv, hb, by omega, by omega, hend⟩
      simp only [hb, Bool.or_eq_true, decide_eq_true_eq, Int64.lt_iff_toInt_lt, Int64.toInt_zero,
        if_pos hbad]
      exact ⟨_, rfl⟩

/-- **The bytes of a view** are what the view stands for. -/
lemma viewData_eq_ok_iff (hlen : ∀ b ∈ d.buffers, b.data.length < 2 ^ 63) :
    d.viewData i = .ok data ↔ d.ViewHolds i data := by
  refine ⟨fun h => ?_, viewData_of_viewHolds hlen⟩
  have hwraps : ¬ d.ViewWraps i := fun hwraps => by
    rw [viewData_of_viewWraps hwraps] at h
    cases h
  have hwithin : d.ViewWithin i := by
    by_contra hwithin
    obtain ⟨text, hrefused⟩ := exists_badReference_of_viewData hwithin hwraps
    rw [hrefused] at h
    cases h
  obtain ⟨data', hdata'⟩ := exists_viewHolds_iff.mpr hwithin
  rw [viewData_of_viewHolds hlen hdata'] at h
  rwa [← Except.ok.inj h]

/-- A view gives bytes exactly if it lies within its buffer. -/
lemma exists_viewData_iff (hlen : ∀ b ∈ d.buffers, b.data.length < 2 ^ 63) :
    (∃ data, d.viewData i = .ok data) ↔ d.ViewWithin i := by
  simp only [viewData_eq_ok_iff hlen, exists_viewHolds_iff]

/-- **A view breaks** exactly if its end is too large. -/
lemma viewData_breaks_iff (hlen : ∀ b ∈ d.buffers, b.data.length < 2 ^ 63) :
    Breaks (d.viewData i) ↔ d.ViewWraps i := by
  refine ⟨fun h => ?_, fun h => ⟨_, viewData_of_viewWraps h, rfl⟩⟩
  by_contra hwraps
  by_cases hwithin : d.ViewWithin i
  · obtain ⟨data, hdata⟩ := (exists_viewData_iff hlen).mpr hwithin
    rw [hdata] at h
    exact not_breaks_ok data h
  · obtain ⟨text, hrefused⟩ := exists_badReference_of_viewData hwithin hwraps
    rw [hrefused, breaks_error_iff] at h
    exact badReference_cause_ne text h

/-- An index is in range exactly if there is an entry. -/
lemma inRange_eq_isSome {α : Type} (xs : List α) (i : Int) :
    inRange i xs.length = (at? xs i).isSome := by
  rw [Bool.eq_iff_iff, inRange_iff, isSome_at?_iff]

/-- A view is cut out with a check if it does not break, and only then. -/
lemma viewData?_cases (d : Document) (i : Int) :
    d.viewData? i = some (d.viewData i) ∧ ¬ Breaks (d.viewData i) ∨
      d.viewData? i = none ∧ Breaks (d.viewData i) := by
  cases hr : d.viewData i with
  | ok data => exact Or.inl ⟨viewData?_eq_some hr, not_breaks_ok data⟩
  | error f =>
    rw [breaks_error_iff]
    simp only [viewData, viewData?, inRange_eq_isSome] at hr ⊢
    cases hv : at? d.views i with
    | none =>
      simp only [hv] at hr ⊢
      cases hr
      exact Or.inl ⟨rfl, badReference_cause_ne _⟩
    | some v =>
      cases hb : at? d.buffers v.buffer.toInt with
      | none =>
        simp only [hv, hb] at hr ⊢
        cases hr
        exact Or.inl ⟨by simp [hb], badReference_cause_ne _⟩
      | some b =>
        simp only [hv, hb, Option.isSome_some, Bool.not_true, Bool.false_eq_true, if_false,
          Option.bind_eq_bind, Option.bind_some] at hr ⊢
        split_ifs at hr ⊢ with hbad hback
        · cases hr
          exact Or.inl ⟨rfl, badReference_cause_ne _⟩
        · cases hr
          have hslice : slice? b.data v.offset.toInt (v.offset + v.length).toInt = none := by
            rw [slice?, if_neg]
            rw [Int64.lt_iff_toInt_lt] at hback
            omega
          rw [hslice]
          exact Or.inr ⟨rfl, rfl⟩

/-! ## Images -/

/-- An image has no bytes of its own, and a view that should have them. -/
def Behind (d : Document) (i j : Int) : Prop :=
  ∃ image, at? d.images i = some image ∧ image.data = [] ∧ image.view = some j

/-- An image behind a view gives what the view gives. -/
lemma Behind.imageData_eq (h : d.Behind i j) : d.imageData i = d.viewData j := by
  obtain ⟨image, himage, hdata, hview⟩ := h
  simp [imageData, himage, hdata, hview]

/-- An image behind a view is read with a check if the view is. -/
lemma Behind.imageData?_eq (h : d.Behind i j) : d.imageData? i = d.viewData? j := by
  obtain ⟨image, himage, hdata, hview⟩ := h
  simp [imageData?, inRange_eq_isSome, himage, hdata, hview]

/-- All other images are read without a view: their bytes are inline, or they are refused. -/
lemma imageData?_of_not_behind (h : ∀ j, ¬ d.Behind i j) :
    d.imageData? i = some (d.imageData i) ∧ ¬ Breaks (d.imageData i) := by
  cases himage : at? d.images i with
  | none =>
    simp [imageData, imageData?, inRange_eq_isSome, himage, breaks_error_iff, badReference_cause_ne]
  | some image =>
    by_cases hdata : image.data = []
    · cases hview : image.view with
      | some j => exact absurd ⟨image, himage, hdata, hview⟩ (h j)
      | none =>
        simp [imageData, imageData?, inRange_eq_isSome, himage, hdata, hview, breaks_error_iff,
          badSlice, Failure.plain]
    · simp [imageData, imageData?, inRange_eq_isSome, himage, hdata, not_breaks_ok]

/-- **Reading an image breaks** exactly if it lies behind a view whose end is too large. -/
lemma imageData_breaks_iff (hlen : ∀ b ∈ d.buffers, b.data.length < 2 ^ 63) :
    Breaks (d.imageData i) ↔ ∃ j, d.Behind i j ∧ d.ViewWraps j := by
  constructor
  · intro h
    by_contra hnone
    by_cases hbehind : ∃ j, d.Behind i j
    · obtain ⟨j, hj⟩ := hbehind
      rw [hj.imageData_eq, viewData_breaks_iff hlen] at h
      exact hnone ⟨j, hj, h⟩
    · exact (imageData?_of_not_behind (not_exists.mp hbehind)).2 h
  · rintro ⟨j, hj, hwraps⟩
    rwa [hj.imageData_eq, viewData_breaks_iff hlen]

/-- With a check, an image is read exactly if that does not break. -/
lemma imageData?_eq_none_iff : d.imageData? i = none ↔ Breaks (d.imageData i) := by
  by_cases hbehind : ∃ j, d.Behind i j
  · obtain ⟨j, hj⟩ := hbehind
    rw [hj.imageData_eq, hj.imageData?_eq]
    obtain ⟨hsome, hkept⟩ | ⟨hnone, hbroken⟩ := d.viewData?_cases j
    · exact iff_of_false (by simp [hsome]) hkept
    · exact iff_of_true hnone hbroken
  · obtain ⟨hsome, hkept⟩ := imageData?_of_not_behind (not_exists.mp hbehind)
    exact iff_of_false (by simp [hsome]) hkept

/-! ## Validation -/

/-- A check that finds refused references only. -/
def Refers (o : Option Failure) : Prop := ∀ f, o = some f → f.cause = .invalidReference

/-- A condition that does not hold is a refused reference. -/
lemma refers_faultUnless (ok : Bool) (text : String) : Refers (faultUnless ok text) := by
  intro f h
  unfold faultUnless at h
  split_ifs at h
  cases h
  rfl

/-- A check of one thing after the other. -/
lemma refers_findSome? {α : Type} {xs : List α} {f : α → Option Failure} (h : ∀ a, Refers (f a)) :
    Refers (xs.findSome? f) := by
  intro g hg
  obtain ⟨a, -, ha⟩ := List.exists_of_findSome?_eq_some hg
  exact h a g ha

/-- A check and then another. -/
lemma Refers.orElse {o o' : Option Failure} (h : Refers o) (h' : Refers o') : Refers (o <|> o') := by
  intro f hf
  rw [Option.orElse_eq_orElse, Option.orElse_eq_or, Option.or_eq_some_iff] at hf
  rcases hf with hf | ⟨-, hf⟩
  · exact h f hf
  · exact h' f hf

/-- Steps that fail with refused references only, one after the other. -/
lemma refers_foldlM {α β : Type} {step : α → β → Except Failure α}
    (h : ∀ a b f, step a b = .error f → f.cause = .invalidReference) (bs : List β) {a : α}
    {f : Failure} (hf : bs.foldlM step a = .error f) : f.cause = .invalidReference := by
  induction bs generalizing a with
  | nil => cases hf
  | cons b bs ih =>
    rw [List.foldlM_cons] at hf
    cases hstep : step a b with
    | error g =>
      rw [hstep] at hf
      cases hf
      exact h a b f hstep
    | ok a' =>
      rw [hstep] at hf
      exact ih hf

/-- The search for cycles fails with refused references only. -/
lemma refers_explore (d : Document) (fuel : Nat) : ∀ (marks : List Mark) (i : Int) (f : Failure),
    explore d fuel marks i = .error f → f.cause = .invalidReference := by
  induction fuel with
  | zero =>
    intro marks i f h
    cases h
    rfl
  | succ fuel ih =>
    intro marks i f h
    unfold explore at h
    split at h
    · cases h
      rfl
    · simp only at h
      split at h
      · rename_i hfold
        cases h
        exact refers_foldlM ih _ hfold
      · cases h
    · cases h

/-- No check but that of the images finds anything else than refused references. -/
lemma refers_faults (d : Document) : Refers d.textureFault? ∧ Refers d.materialFault? ∧
    Refers (d.shapeFault? <|> d.nodeFault? <|> d.skinFault? <|> d.sceneFault? <|> d.cycleFault?) := by
  have hshape : Refers d.shapeFault? := refers_findSome? fun _ => refers_findSome? fun _ =>
    (refers_faultUnless _ _).orElse (refers_findSome? fun _ => refers_faultUnless _ _)
  have hnode : Refers d.nodeFault? := refers_findSome? fun _ =>
    (refers_faultUnless _ _).orElse ((refers_faultUnless _ _).orElse
      (refers_findSome? fun _ => refers_faultUnless _ _))
  have hskin : Refers d.skinFault? := refers_findSome? fun _ =>
    refers_findSome? fun _ => refers_faultUnless _ _
  have hscene : Refers d.sceneFault? := (refers_faultUnless _ _).orElse
    (refers_findSome? fun _ => refers_findSome? fun _ => refers_faultUnless _ _)
  have hcycle : Refers d.cycleFault? := by
    intro f hf
    unfold cycleFault? at hf
    simp only at hf
    split at hf
    · cases hf
    · rename_i hfold
      cases hf
      exact refers_foldlM (refers_explore d _) _ hfold
  refine ⟨refers_findSome? fun _ => refers_faultUnless _ _, refers_findSome? fun _ =>
    refers_findSome? fun _ => refers_faultUnless _ _, ?_⟩
  exact hshape.orElse (hnode.orElse (hskin.orElse (hscene.orElse hcycle)))

/-- Entries with their positions, up to an entry and from there on. -/
lemma numbered_append_cons {α : Type} (before after : List α) (a : α) :
    numbered (before ++ a :: after) = numbered before ++ (before.length, a) ::
      (after.zipIdx (before.length + 1)).map fun p => (p.2, p.1) := by
  simp [numbered, List.zipIdx_append]

/-- The check of entries with their positions finds what it finds in the first entry at fault. -/
lemma findSome?_numbered_eq_some_iff {α β : Type} {xs : List α} {f : Nat × α → Option β} {b : β} :
    (numbered xs).findSome? f = some b ↔ ∃ before a after, xs = before ++ a :: after ∧
      f (before.length, a) = some b ∧ (numbered before).findSome? f = none := by
  simp only [List.findSome?_eq_some_iff, List.findSome?_eq_none_iff]
  constructor
  · rintro ⟨before, p, after, heq, hp, hnone⟩
    have hxs := congrArg (List.map Prod.snd) heq
    have hsnd : (numbered xs).map Prod.snd = xs := by simp [numbered, Function.comp_def]
    rw [hsnd, List.map_append, List.map_cons] at hxs
    rw [hxs, numbered_append_cons] at heq
    obtain ⟨hbefore, hafter⟩ := List.append_inj heq (by simp [numbered])
    obtain ⟨hp', -⟩ := List.cons.inj hafter
    exact ⟨_, p.2, _, hxs, by rw [hp', hp], by rwa [hbefore]⟩
  · rintro ⟨before, a, after, rfl, ha, hnone⟩
    exact ⟨_, _, _, numbered_append_cons before after a, ha, hnone⟩

/-- The first image at fault lies behind a view whose end is too large. -/
def WrapsFirst (d : Document) : Prop :=
  ∃ before image after j, d.images = before ++ image :: after ∧ image.view = some j ∧
    d.ViewWraps j ∧ ∀ m ∈ before, ∀ k, m.view = some k → d.ViewWithin k

/-- **The check of the images breaks** exactly if the first image at fault lies behind a view whose
end is too large. -/
lemma imageFault?_breaks_iff (hlen : ∀ b ∈ d.buffers, b.data.length < 2 ^ 63) :
    (∃ f, d.imageFault? = some f ∧ f.cause = badSlice.cause) ↔ d.WrapsFirst := by
  -- the check up to an image is the check of a document that has no more images
  have hnone : ∀ before, { d with images := before }.imageFault? = none ↔
      ∀ m ∈ before, ∀ k, m.view = some k → d.ViewWithin k := by
    intro before
    simp only [← exists_viewData_iff hlen]
    exact imageFault?_eq_none_iff_viewData
  simp only [imageFault?, WrapsFirst, findSome?_numbered_eq_some_iff]
  constructor
  · rintro ⟨f, ⟨before, image, after, hsplit, hf, hbefore⟩, hcause⟩
    obtain ⟨j, hview, hf⟩ := Option.bind_eq_some_iff.mp hf
    refine ⟨before, image, after, j, hsplit, hview, (viewData_breaks_iff hlen).mp ?_,
      (hnone before).mp hbefore⟩
    cases hdata : d.viewData j with
    | ok data => simp [hdata] at hf
    | error g =>
      simp only [hdata, Option.some.injEq] at hf
      rw [breaks_error_iff, ← hcause, ← hf]
      rfl
  · rintro ⟨before, image, after, j, hsplit, hview, hwraps, hbefore⟩
    refine ⟨badSlice.within s!"image {before.length}",
      ⟨before, image, after, hsplit, ?_, (hnone before).mpr hbefore⟩, rfl⟩
    simp [hview, viewData_of_viewWraps hwraps]

/-- **Validation breaks** exactly if textures and materials pass, and the first image at fault lies
behind a view whose end is too large. -/
lemma validate_breaks_iff (hlen : ∀ b ∈ d.buffers, b.data.length < 2 ^ 63) :
    Breaks d.validate ↔ (∀ t ∈ d.textures, RefWithin t.source d.images.length) ∧
      (∀ m ∈ d.materials, RefWithin m.baseColorTexture d.textures.length ∧
        RefWithin m.metallicRoughnessTexture d.textures.length ∧
        RefWithin m.normalTexture d.textures.length) ∧ d.WrapsFirst := by
  have hfault : Breaks d.validate ↔ ∃ f, d.firstFault? = some f ∧ f.cause = badSlice.cause := by
    unfold validate
    cases d.firstFault? <;> simp [Breaks]
  have hrefused : ∀ {o f}, Refers o → o = some f → f.cause ≠ badSlice.cause := by
    intro o f ho hf
    rw [ho f hf]
    simp [badSlice, Failure.plain]
  obtain ⟨htextures, hmaterials, hrest⟩ := d.refers_faults
  rw [hfault, ← imageFault?_breaks_iff hlen, ← textureFault?_eq_none_iff, ← materialFault?_eq_none_iff]
  simp only [firstFault?, Option.orElse_eq_orElse, Option.orElse_eq_or, Option.or_eq_some_iff]
    at hrest ⊢
  constructor
  · rintro ⟨f, hf | ⟨ht, hf | ⟨hm, hf | ⟨-, hf⟩⟩⟩, hcause⟩
    · exact absurd hcause (hrefused htextures hf)
    · exact absurd hcause (hrefused hmaterials hf)
    · exact ⟨ht, hm, f, hf, hcause⟩
    · refine absurd hcause (hrefused hrest ?_)
      simpa only [Option.or_eq_some_iff] using hf
  · rintro ⟨ht, hm, f, hf, hcause⟩
    exact ⟨f, Or.inr ⟨ht, Or.inr ⟨hm, Or.inl hf⟩⟩, hcause⟩

/-! ## All images of a document -/

/-- **When images have their bytes.** Lengths of buffers are machine integers; offsets and lengths
of views are any. An image behind a view gives the bytes of the view and nothing else, and it gives
them exactly if the view lies within its buffer. Reading an image, or validating a document, cuts
out a range that is none exactly if it comes to a view that starts and extends upwards and whose end
is too large for a machine integer. That does not happen if all ends are machine integers, as they
are in every document from a file.

**Proof sketch.** A view that does not go down has its sum as its end, or a negative one
  (`View.end_cases`). In the first case the check of the range decides whether the view lies within
  its buffer, and in the second it lets the view pass, but the end lies before the start. -/
theorem imageData_exact (d : Document) (hlen : ∀ b ∈ d.buffers, b.data.length < 2 ^ 63) :
    (∀ i j, d.Behind i j → (∀ data, d.imageData i = .ok data ↔ d.ViewHolds j data) ∧
      ((∃ data, d.imageData i = .ok data) ↔ d.ViewWithin j)) ∧
    (∀ i, (d.imageData? i = none ↔ Breaks (d.imageData i)) ∧
      (Breaks (d.imageData i) ↔ ∃ j, d.Behind i j ∧ d.ViewWraps j)) ∧
    (Breaks d.validate ↔ (∀ t ∈ d.textures, RefWithin t.source d.images.length) ∧
      (∀ m ∈ d.materials, RefWithin m.baseColorTexture d.textures.length ∧
        RefWithin m.metallicRoughnessTexture d.textures.length ∧
        RefWithin m.normalTexture d.textures.length) ∧ d.WrapsFirst) ∧
    ((∀ v ∈ d.views, v.EndFits) → (∀ i, ¬ Breaks (d.imageData i)) ∧ ¬ Breaks d.validate) ∧
    ∀ v buffers, Gltf.documentShape v = true → Gltf.assemble v buffers = .ok d →
      ∀ w ∈ d.views, w.EndFits := by
  refine ⟨fun i j h => ?_, fun i => ⟨imageData?_eq_none_iff, imageData_breaks_iff hlen⟩,
    validate_breaks_iff hlen, fun hends => ?_, fun v buffers => Gltf.endFits_of_assemble⟩
  · rw [h.imageData_eq]
    exact ⟨fun data => viewData_eq_ok_iff hlen, exists_viewData_iff hlen⟩
  · have hnever : ∀ j, ¬ d.ViewWraps j := by
      rintro j ⟨v, b, hv, -, -, -, hend⟩
      exact absurd (hends v (mem_of_at?_eq_some hv)).2 (not_lt.mpr hend)
    constructor
    · intro i h
      obtain ⟨j, -, hwraps⟩ := (imageData_breaks_iff hlen).mp h
      exact hnever j hwraps
    · intro h
      obtain ⟨-, -, -, -, -, j, -, -, hwraps, -⟩ := (validate_breaks_iff hlen).mp h
      exact hnever j hwraps

/-- Two images behind views of one buffer: one up to its end, and one of a single byte that is as
far away as a machine integer can say. -/
def farByte : Document where
  images := [{ view := some 0 }, { view := some 1 }]
  views := [{ offset := 1, length := 2 }, { offset := 9223372036854775807, length := 1 }]
  buffers := [{ data := [1, 2, 3] }]

/-- The first image has its bytes; reading the second one breaks, and so does validation. -/
theorem imageData_exact_farByte :
    (∀ b ∈ farByte.buffers, b.data.length < 2 ^ 63) ∧ farByte.Behind 0 0 ∧
      farByte.imageData 0 = .ok [2, 3] ∧ farByte.Behind 1 1 ∧ ¬ farByte.ViewWithin 1 ∧
      Breaks (farByte.imageData 1) ∧ farByte.imageData? 1 = none ∧ Breaks farByte.validate := by
  have hlen : ∀ b ∈ farByte.buffers, b.data.length < 2 ^ 63 := by decide
  obtain ⟨hbytes, hbreaks, hvalidate, -⟩ := imageData_exact farByte hlen
  have hfirst : farByte.Behind 0 0 := ⟨_, rfl, rfl, rfl⟩
  have hsecond : farByte.Behind 1 1 := ⟨_, rfl, rfl, rfl⟩
  have hholds : farByte.ViewHolds 0 [2, 3] := ⟨_, _, [1], [], rfl, rfl, rfl, by decide, by decide⟩
  have hwraps : farByte.ViewWraps 1 := ⟨_, _, rfl, rfl, by decide, by decide, by decide⟩
  have hbroken : Breaks (farByte.imageData 1) := (hbreaks 1).2.mpr ⟨1, hsecond, hwraps⟩
  refine ⟨hlen, hfirst, ((hbytes 0 0 hfirst).1 _).mpr hholds, hsecond, ?_, hbroken,
    (hbreaks 1).1.mpr hbroken, hvalidate.mpr ⟨by simp [farByte], by simp [farByte],
      [_], _, [], 1, rfl, rfl, hwraps, ?_⟩⟩
  · intro hwithin
    obtain ⟨data, hdata⟩ := (hbytes 1 1 hsecond).2.mpr hwithin
    rw [hdata] at hbroken
    exact not_breaks_ok data hbroken
  · intro m hm k hk
    obtain rfl := List.mem_singleton.mp hm
    obtain rfl := Option.some.inj hk
    exact exists_viewHolds_iff.mp ⟨_, hholds⟩

end Document

end SceneForge
