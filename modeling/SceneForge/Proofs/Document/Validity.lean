import SceneForge.Document.Validity
import SceneForge.Proofs.Document.Hierarchy

set_option autoImplicit false

/-!
# Validation is exact

The search for cycles carries a mark for every node. Finished nodes are closed under children and
lie on no cycle; every active node reaches the node that is searched from. The fuel and the active
nodes together are one more than the nodes, so the fuel never runs out. Hence the search fails
exactly if there is a cycle, and validation passes exactly if every reference leads to an existing
entry and there is none.

## Main definitions

* `SceneForge.Document.Sound` — what the marks say about the nodes that carry them.
* `SceneForge.Document.Grows` — what the search from a node may do to the marks.
* `SceneForge.Document.Wired`, `SceneForge.Document.Valid` — every reference leads somewhere and no
  node reaches itself; the latter with the bytes of images.

## Main results

* `SceneForge.Document.explore_outcome` — the search from one node.
* `SceneForge.Document.cycleFault?_eq_none_iff` — the search of a document.
* `SceneForge.Document.validate_eq_ok_iff` — validation is exact.
-/

namespace SceneForge.Document

variable {d : Document}

/-! ## Marks -/

/-- A node that the search is done with, or none of the document. -/
def Clear (marks : List Mark) (i : Int) : Prop :=
  at? marks i = some .finished ∨ at? marks i = none

/-- What the marks say: finished nodes have only clear children and lie on no cycle. -/
structure Sound (d : Document) (marks : List Mark) : Prop where
  /-- Every node has a mark. -/
  length : marks.length = d.nodes.length
  /-- The children of finished nodes are clear. -/
  closed : ∀ i j, at? marks i = some .finished → d.Child i j → Clear marks j
  /-- Finished nodes lie on no cycle. -/
  acyclic : ∀ i, at? marks i = some .finished → ¬ Relation.TransGen d.Child i i

/-- What a search may do to the marks: it finishes nodes and leaves the active ones as they are. -/
structure Grows (marks marks' : List Mark) : Prop where
  /-- Every node keeps a mark. -/
  length : marks'.length = marks.length
  /-- The same nodes are active. -/
  active : ∀ i, at? marks' i = some .active ↔ at? marks i = some .active
  /-- Finished nodes stay finished. -/
  finished : ∀ i, at? marks i = some .finished → at? marks' i = some .finished
  /-- As many nodes are active. -/
  count : marks'.count .active = marks.count .active

/-- A search may leave the marks alone. -/
lemma Grows.refl (marks : List Mark) : Grows marks marks :=
  ⟨rfl, fun _ => Iff.rfl, fun _ h => h, rfl⟩

/-- One search may follow another. -/
lemma Grows.trans {m₁ m₂ m₃ : List Mark} (h : Grows m₁ m₂) (h' : Grows m₂ m₃) : Grows m₁ m₃ :=
  ⟨h'.length.trans h.length, fun i => (h'.active i).trans (h.active i),
    fun i hi => h'.finished i (h.finished i hi), h'.count.trans h.count⟩

/-- Clear nodes stay clear. -/
lemma Clear.mono {marks marks' : List Mark} {i : Int} (h : Clear marks i)
    (hg : Grows marks marks') : Clear marks' i := by
  rcases h with h | h
  · exact Or.inl (hg.finished i h)
  · refine Or.inr ?_
    rw [← Option.not_isSome_iff_eq_none, isSome_at?_iff] at h ⊢
    rwa [hg.length]

/-- Everything that a clear node reaches is clear. -/
lemma Sound.clear_of_reaches {marks : List Mark} (hs : Sound d marks) {i j : Int}
    (hi : Clear marks i) (h : Relation.TransGen d.Child i j) : Clear marks j := by
  -- a clear node with a child is finished, because the others are not in the document
  have step : ∀ {a b}, Clear marks a → d.Child a b → Clear marks b := by
    intro a b ha hab
    rcases ha with ha | ha
    · exact hs.closed a b ha hab
    · have hr := hab.inRange
      rw [← hs.length, ← isSome_at?_iff, ha] at hr
      simp at hr
  induction h with
  | single hab => exact step hi hab
  | tail _ hbc ih => exact step ih hbc

/-- The marks after one of them is set, at any index. -/
lemma at?_set {marks : List Mark} {i : Int} {m : Mark} (hi : at? marks i = some m) (m' : Mark)
    (j : Int) : at? (marks.set i.toNat m') j = if j = i then some m' else at? marks j := by
  obtain ⟨k, rfl, hk⟩ := at?_eq_some_iff.mp hi
  obtain ⟨hlt, -⟩ := List.getElem?_eq_some_iff.mp hk
  by_cases hj : j < 0
  · have hne : j ≠ k := by omega
    simp [at?, hj, hne]
  · obtain ⟨l, rfl⟩ := Int.eq_ofNat_of_zero_le (not_lt.mp hj)
    simp only [at?_natCast, Int.toNat_natCast, List.getElem?_set, Nat.cast_inj]
    by_cases hlk : l = k
    · simp [hlk, hlt]
    · simp [hlk, Ne.symm hlk]

/-! ## The search -/

/-- What a search does: it ends with sound marks under which the nodes it was started from are
clear, or there is a cycle. -/
def Outcome (d : Document) (marks : List Mark) (starts : List Int) :
    Except Failure (List Mark) → Prop
  | .ok marks' => Sound d marks' ∧ Grows marks marks' ∧ ∀ i ∈ starts, Clear marks' i
  | .error _ => ¬ d.Acyclic

/-- What a search needs: the marks are sound, every active node reaches the node to search from, and
the fuel bounds the nodes that are not active. -/
structure Ready (d : Document) (fuel : Nat) (marks : List Mark) (i : Int) : Prop where
  /-- The marks are sound. -/
  sound : Sound d marks
  /-- Every active node reaches the node. -/
  reaches : ∀ a, at? marks a = some .active → Relation.TransGen d.Child a i
  /-- The fuel and the active nodes are one more than the nodes. -/
  fuel : marks.count .active + fuel = d.nodes.length + 1

/-- Searches one after the other, if each of them ends as it should.

**Proof sketch.** Induction on the searches. The first one leaves sound marks that have only grown,
so the others are as ready as before, and what is clear after the first stays clear. -/
lemma foldlM_outcome {fuel : Nat}
    (h : ∀ marks i, Ready d fuel marks i → Outcome d marks [i] (explore d fuel marks i)) :
    ∀ (starts : List Int) (marks : List Mark), Sound d marks →
      (∀ i ∈ starts, Ready d fuel marks i) →
      Outcome d marks starts (starts.foldlM (explore d fuel) marks) := by
  intro starts
  induction starts with
  | nil =>
    intro marks hs _
    exact ⟨hs, Grows.refl marks, by simp⟩
  | cons i starts ih =>
    intro marks hs hready
    have hi := h marks i (hready i (by simp))
    rw [List.foldlM_cons]
    cases hr : explore d fuel marks i with
    | error f =>
      rw [hr] at hi
      exact hi
    | ok marks' =>
      rw [hr] at hi
      obtain ⟨hs', hg, hclear⟩ := hi
      have hrest := ih marks' hs' fun j hj => by
        have hj' := hready j (by simp [hj])
        exact ⟨hs', fun a ha => hj'.reaches a ((hg.active a).mp ha), hg.count ▸ hj'.fuel⟩
      change Outcome d marks (i :: starts) (starts.foldlM (explore d fuel) marks')
      cases hr' : starts.foldlM (explore d fuel) marks' with
      | error f =>
        rw [hr'] at hrest
        exact hrest
      | ok marks'' =>
        rw [hr'] at hrest
        obtain ⟨hs'', hg', hclear'⟩ := hrest
        refine ⟨hs'', hg.trans hg', fun j hj => ?_⟩
        rcases List.mem_cons.mp hj with rfl | hj
        · exact (hclear j (by simp)).mono hg'
        · exact hclear' j hj

/-- How many nodes are active after a mark is set. -/
lemma count_set_active {marks : List Mark} {i : Int} {m : Mark} (h : at? marks i = some m)
    (m' : Mark) :
    (marks.set i.toNat m').count .active + (if m = .active then 1 else 0) =
      marks.count .active + if m' = .active then 1 else 0 := by
  obtain ⟨k, rfl, hk⟩ := at?_eq_some_iff.mp h
  obtain ⟨hlt, hm⟩ := List.getElem?_eq_some_iff.mp hk
  rw [Int.toNat_natCast, List.count_set hlt, hm]
  simp only [beq_iff_eq]
  by_cases hact : m = .active
  · have hpos : 0 < marks.count .active :=
      List.count_pos_iff.mpr (hact ▸ hm ▸ List.getElem_mem hlt)
    rw [if_pos hact]
    omega
  · simp [hact]

/-- The marks with a new node active are sound again. -/
lemma Sound.activate {marks : List Mark} (hs : Sound d marks) {i : Int}
    (hi : at? marks i = some .unseen) : Sound d (marks.set i.toNat .active) := by
  have hset := at?_set hi .active
  have hold : ∀ {a}, at? (marks.set i.toNat .active) a = some .finished →
      at? marks a = some .finished := by
    intro a ha
    rw [hset] at ha
    split_ifs at ha with hai
    · cases ha
    · exact ha
  refine ⟨by simp [hs.length], fun a b ha hab => ?_, fun a ha => hs.acyclic a (hold ha)⟩
  have hb := hs.closed a b (hold ha) hab
  have hne : b ≠ i := by
    rintro rfl
    rcases hb with hb | hb <;> simp [hi] at hb
  simpa only [Clear, hset, if_neg hne] using hb

/-- The marks with an active node finished are sound again if all its children are clear.

**Proof sketch.** The node is not clear while it is active, and what its children reach is, so it
lies on no cycle. -/
lemma Sound.finish {marks : List Mark} (hs : Sound d marks) {i : Int}
    (hi : at? marks i = some .active) (hc : ∀ c, d.Child i c → Clear marks c) :
    Sound d (marks.set i.toNat .finished) := by
  have hset := at?_set hi .finished
  have hclear : ∀ {a}, Clear marks a → Clear (marks.set i.toNat .finished) a := by
    intro a ha
    have hne : a ≠ i := by
      rintro rfl
      rcases ha with ha | ha <;> simp [hi] at ha
    simpa only [Clear, hset, if_neg hne] using ha
  have hnot : ¬ Clear marks i := by
    rintro (h | h) <;> simp [hi] at h
  refine ⟨by simp [hs.length], fun a b ha hab => ?_, fun a ha hcycle => ?_⟩
  · by_cases hai : a = i
    · subst hai
      exact hclear (hc b hab)
    · rw [hset, if_neg hai] at ha
      exact hclear (hs.closed a b ha hab)
  · by_cases hai : a = i
    · subst hai
      rcases Relation.TransGen.head'_iff.mp hcycle with ⟨c, hac, hca⟩
      rcases Relation.reflTransGen_iff_eq_or_transGen.mp hca with rfl | hca
      · exact hnot (hc _ hac)
      · exact hnot (hs.clear_of_reaches (hc c hac) hca)
    · rw [hset, if_neg hai] at ha
      exact hs.acyclic a ha hcycle

/-- A search that made a node active and finished it has grown the marks. -/
lemma Grows.around {marks marks' : List Mark} {i : Int} (hi : at? marks i = some .unseen)
    (hg : Grows (marks.set i.toNat .active) marks') :
    Grows marks (marks'.set i.toNat .finished) := by
  have hset := at?_set hi .active
  have hact : at? marks' i = some .active := (hg.active i).mpr (by simp [hset])
  have hset' := at?_set hact .finished
  refine ⟨by simp [hg.length], fun a => ?_, fun a ha => ?_, ?_⟩
  · by_cases hai : a = i
    · subst hai
      simp [hset', hi]
    · rw [hset', if_neg hai, hg.active, hset, if_neg hai]
  · by_cases hai : a = i
    · subst hai
      simp [hset']
    · rw [hset', if_neg hai]
      exact hg.finished a (by rw [hset, if_neg hai, ha])
  · have h1 := count_set_active hi .active
    have h2 := count_set_active hact .finished
    have h3 := hg.count
    simp only [reduceCtorEq, if_true, if_false] at h1 h2
    omega

/-- **The search from one node** ends as it should.

**Proof sketch.** Induction on the fuel, which is not zero because at most all nodes are active. An
active node reaches itself. An unseen one is made active: every active node reaches its children, so
the searches from them end as they should; afterwards they are all clear and the node is finished.
-/
lemma explore_outcome (d : Document) :
    ∀ (fuel : Nat) (marks : List Mark) (i : Int), Ready d fuel marks i →
      Outcome d marks [i] (explore d fuel marks i) := by
  intro fuel
  induction fuel with
  | zero =>
    intro marks i hr
    have hle := List.count_le_length (a := Mark.active) (l := marks)
    have hlen := hr.sound.length
    have hfuel := hr.fuel
    omega
  | succ fuel ih =>
    intro marks i hr
    cases hm : at? marks i with
    | none =>
      simp only [explore, hm]
      exact ⟨hr.sound, Grows.refl marks, by simp [Clear, hm]⟩
    | some m =>
      cases m with
      | active =>
        simp only [explore, hm]
        exact fun ha => ha i (hr.reaches i hm)
      | finished =>
        simp only [explore, hm]
        exact ⟨hr.sound, Grows.refl marks, by simp [Clear, hm]⟩
      | unseen =>
        have hnode : (at? d.nodes i).isSome := by
          rw [isSome_at?_iff, ← hr.sound.length, ← isSome_at?_iff, hm]
          rfl
        obtain ⟨n, hn⟩ := Option.isSome_iff_exists.mp hnode
        have hset := at?_set hm .active
        have hready : ∀ c ∈ n.children, Ready d fuel (marks.set i.toNat .active) c := by
          intro c hc
          have hchild : d.Child i c := ⟨n, hn, hc⟩
          refine ⟨hr.sound.activate hm, fun a ha => ?_, ?_⟩
          · rw [hset] at ha
            split_ifs at ha with hai
            · exact hai ▸ .single hchild
            · exact (hr.reaches a ha).tail hchild
          · have hcount := count_set_active hm .active
            have hfuel := hr.fuel
            simp only [reduceCtorEq, if_true, if_false] at hcount
            omega
        have hfold := foldlM_outcome ih n.children _ (hr.sound.activate hm) hready
        simp only [explore, hm, hn, Option.map_some, Option.getD_some]
        cases hres : n.children.foldlM (explore d fuel) (marks.set i.toNat .active) with
        | error f =>
          rw [hres] at hfold
          exact hfold
        | ok marks' =>
          rw [hres] at hfold
          obtain ⟨hs', hg, hclear⟩ := hfold
          have hact : at? marks' i = some .active := (hg.active i).mpr (by simp [hset])
          refine ⟨hs'.finish hact fun c hc => ?_, hg.around hm, ?_⟩
          · obtain ⟨n', hn', hc⟩ := hc
            rw [hn] at hn'
            cases hn'
            exact hclear c hc
          · simp [Clear, at?_set hact]

/-- Before the search every mark is unseen. -/
lemma at?_replicate {n : Nat} {i : Int} {m : Mark}
    (h : at? (List.replicate n Mark.unseen) i = some m) : m = .unseen :=
  List.eq_of_mem_replicate (mem_of_at?_eq_some h)

/-- **The search of a document** finds a fault exactly if some node reaches itself.

**Proof sketch.** Before the search no node is active or finished, so it ends as it should from
every node in turn. Where it succeeds every node is clear, hence finished, hence on no cycle. -/
lemma cycleFault?_eq_none_iff (d : Document) : d.cycleFault? = none ↔ d.Acyclic := by
  have hs : Sound d (List.replicate d.nodes.length .unseen) :=
    ⟨by simp, fun _ _ h _ => (nomatch at?_replicate h), fun _ h => (nomatch at?_replicate h)⟩
  have hready : ∀ i ∈ (List.range d.nodes.length).map Int.ofNat,
      Ready d (d.nodes.length + 1) (List.replicate d.nodes.length .unseen) i := by
    intro i _
    exact ⟨hs, fun _ h => (nomatch at?_replicate h), by simp [List.count_replicate]⟩
  have hfold := foldlM_outcome (explore_outcome d _) _ _ hs hready
  simp only [cycleFault?]
  cases hres : ((List.range d.nodes.length).map Int.ofNat).foldlM
      (explore d (d.nodes.length + 1)) (List.replicate d.nodes.length .unseen) with
  | error f =>
    rw [hres] at hfold
    exact iff_of_false (by simp) hfold
  | ok marks =>
    rw [hres] at hfold
    obtain ⟨hs', -, hclear⟩ := hfold
    refine iff_of_true rfl fun i hcycle => ?_
    obtain ⟨c, hic, -⟩ := Relation.TransGen.head'_iff.mp hcycle
    obtain ⟨k, rfl⟩ := Int.eq_ofNat_of_zero_le hic.inRange.1
    have hk : k < d.nodes.length := by
      have := hic.inRange.2
      omega
    rcases hclear k (List.mem_map.mpr ⟨k, by simpa using hk, rfl⟩) with h | h
    · exact hs'.acyclic k h hcycle
    · have hsome : (at? marks (k : Int)).isSome := by
        rw [isSome_at?_iff, hs'.length]
        omega
      simp [h] at hsome

/-! ## References -/

/-- A reference is absent or lies within a sequence of length `n`. -/
def RefWithin (r : Ref) (n : Nat) : Prop := ∀ i, r = some i → 0 ≤ i ∧ i < n

/-- The check of a reference decides whether it lies within. -/
lemma validFor_iff {r : Ref} {n : Nat} : r.validFor n ↔ RefWithin r n := by
  cases r <;> simp [Ref.validFor, RefWithin]

/-- A view exists, names an existing buffer and lies within its data. -/
def ViewWithin (d : Document) (i : Int) : Prop :=
  ∃ v b, at? d.views i = some v ∧ at? d.buffers v.buffer.toInt = some b ∧ 0 ≤ v.offset.toInt ∧
    0 ≤ v.length.toInt ∧ v.offset.toInt + v.length.toInt ≤ b.data.length

/-- The end of a view is a machine integer. -/
def View.EndFits (v : View) : Prop :=
  -2 ^ 63 ≤ v.offset.toInt + v.length.toInt ∧ v.offset.toInt + v.length.toInt < 2 ^ 63

/-- The machine sum of a view whose end fits is the sum. -/
lemma View.EndFits.toInt_add {v : View} (h : v.EndFits) :
    (v.offset + v.length).toInt = v.offset.toInt + v.length.toInt := by
  rw [Int64.toInt_add]
  exact Int.bmod_eq_of_le h.1 h.2

/-- The bytes of a view are there exactly if the view lies within its buffer. -/
lemma viewData_ok_iff (hsum : ∀ v ∈ d.views, v.EndFits) (i : Int) :
    (∃ data, d.viewData i = .ok data) ↔ d.ViewWithin i := by
  unfold viewData ViewWithin
  cases hv : at? d.views i with
  | none => simp
  | some v =>
    cases hb : at? d.buffers v.buffer.toInt with
    | none => simp [hb]
    | some b =>
      have hend := (hsum v (mem_of_at?_eq_some hv)).toInt_add
      simp only [hb, Bool.or_eq_true, decide_eq_true_eq, Int64.lt_iff_toInt_lt, Int64.toInt_zero,
        hend, Option.some.injEq, exists_and_left, exists_eq_left']
      split_ifs with hbad hback
      · simp only [exists_false, false_iff]
        omega
      · omega
      · simp only [Except.ok.injEq, exists_eq', true_iff]
        omega

/-! ## Validation -/

/-- A document is wired if every reference between its entries leads to an existing one and no node
reaches itself. -/
structure Wired (d : Document) : Prop where
  /-- The source of a texture is an image. -/
  textures : ∀ t ∈ d.textures, RefWithin t.source d.images.length
  /-- The slots of a material are textures. -/
  materials : ∀ m ∈ d.materials, RefWithin m.baseColorTexture d.textures.length ∧
    RefWithin m.metallicRoughnessTexture d.textures.length ∧
    RefWithin m.normalTexture d.textures.length
  /-- The material of a primitive exists, and so do the vertices that it draws. -/
  primitives : ∀ m ∈ d.meshes, ∀ p ∈ m.primitives, RefWithin p.material d.materials.length ∧
    ∀ k ∈ p.indices.getD [], k.toNat < p.positions.length
  /-- Mesh, skin and children of a node exist. -/
  nodes : ∀ n ∈ d.nodes, RefWithin n.mesh d.meshes.length ∧ RefWithin n.skin d.skins.length ∧
    ∀ c ∈ n.children, 0 ≤ c ∧ c < d.nodes.length
  /-- The joints of a skin are nodes. -/
  skins : ∀ s ∈ d.skins, ∀ j ∈ s.joints, 0 ≤ j ∧ j < d.nodes.length
  /-- The default scene exists. -/
  defaultScene : RefWithin d.defaultScene d.scenes.length
  /-- The roots of a scene are nodes. -/
  scenes : ∀ s ∈ d.scenes, ∀ i ∈ s.nodes, 0 ≤ i ∧ i < d.nodes.length
  /-- No node reaches itself. -/
  acyclic : d.Acyclic

/-- A document is valid if it is wired and its images have their bytes. -/
structure Valid (d : Document) : Prop extends Wired d where
  /-- The view of an image lies within its buffer. -/
  images : ∀ image ∈ d.images, ∀ i, image.view = some i → d.ViewWithin i

/-- A check passes exactly if its condition holds. -/
@[simp] lemma faultUnless_eq_none_iff {ok : Bool} {text : String} :
    faultUnless ok text = none ↔ ok := by
  cases ok <;> simp [faultUnless]

/-- The check of an index decides whether it lies within. -/
@[simp] lemma inRange_iff {i : Int} {n : Nat} : inRange i n ↔ 0 ≤ i ∧ i < n := by
  simp [inRange]

/-- No entry of a sequence is at fault exactly if each passes its own check, whatever its position.
-/
lemma findSome?_numbered_eq_none_iff {α : Type} {xs : List α} {f : Nat × α → Option Failure}
    {P : α → Prop} (h : ∀ i a, f (i, a) = none ↔ P a) :
    (numbered xs).findSome? f = none ↔ ∀ a ∈ xs, P a := by
  rw [List.findSome?_eq_none_iff]
  constructor
  · intro hall a ha
    obtain ⟨i, hi, rfl⟩ := List.getElem_of_mem ha
    refine (h i xs[i]).mp (hall (i, xs[i]) (List.mem_map.mpr ⟨(xs[i], i), ?_, rfl⟩))
    exact List.mem_zipIdx_iff_getElem?.mpr (by simp [hi])
  · intro hall p hp
    obtain ⟨q, hq, rfl⟩ := List.mem_map.mp hp
    exact (h q.2 q.1).mpr (hall q.1 (List.fst_mem_of_mem_zipIdx hq))

/-- No texture is at fault. -/
lemma textureFault?_eq_none_iff : d.textureFault? = none ↔
    ∀ t ∈ d.textures, RefWithin t.source d.images.length :=
  findSome?_numbered_eq_none_iff fun i t => by simp [validFor_iff]

/-- No material is at fault. -/
lemma materialFault?_eq_none_iff : d.materialFault? = none ↔
    ∀ m ∈ d.materials, RefWithin m.baseColorTexture d.textures.length ∧
      RefWithin m.metallicRoughnessTexture d.textures.length ∧
      RefWithin m.normalTexture d.textures.length :=
  findSome?_numbered_eq_none_iff fun i m => by simp [validFor_iff]

/-- No image is at fault if the views of all images give bytes. -/
lemma imageFault?_eq_none_iff_viewData : d.imageFault? = none ↔
    ∀ image ∈ d.images, ∀ i, image.view = some i → ∃ data, d.viewData i = .ok data := by
  refine findSome?_numbered_eq_none_iff fun i image => ?_
  simp only [Option.bind_eq_none_iff]
  refine forall₂_congr fun v _ => ?_
  cases d.viewData v <;> simp

/-- No image is at fault. -/
lemma imageFault?_eq_none_iff (hsum : ∀ v ∈ d.views, v.EndFits) : d.imageFault? = none ↔
    ∀ image ∈ d.images, ∀ i, image.view = some i → d.ViewWithin i := by
  simp only [imageFault?_eq_none_iff_viewData, viewData_ok_iff hsum]

/-- No primitive is at fault. -/
lemma shapeFault?_eq_none_iff : d.shapeFault? = none ↔
    ∀ m ∈ d.meshes, ∀ p ∈ m.primitives, RefWithin p.material d.materials.length ∧
      ∀ k ∈ p.indices.getD [], k.toNat < p.positions.length :=
  findSome?_numbered_eq_none_iff fun i m => findSome?_numbered_eq_none_iff fun j p => by
    simp [validFor_iff]

/-- No node is at fault. -/
lemma nodeFault?_eq_none_iff : d.nodeFault? = none ↔
    ∀ n ∈ d.nodes, RefWithin n.mesh d.meshes.length ∧ RefWithin n.skin d.skins.length ∧
      ∀ c ∈ n.children, 0 ≤ c ∧ c < d.nodes.length :=
  findSome?_numbered_eq_none_iff fun i n => by simp [validFor_iff]

/-- No skin is at fault. -/
lemma skinFault?_eq_none_iff : d.skinFault? = none ↔
    ∀ s ∈ d.skins, ∀ j ∈ s.joints, 0 ≤ j ∧ j < d.nodes.length :=
  findSome?_numbered_eq_none_iff fun i s => by simp

/-- No scene is at fault. -/
lemma sceneFault?_eq_none_iff : d.sceneFault? = none ↔
    RefWithin d.defaultScene d.scenes.length ∧
      ∀ s ∈ d.scenes, ∀ i ∈ s.nodes, 0 ≤ i ∧ i < d.nodes.length := by
  simp only [sceneFault?, Option.orElse_eq_orElse, Option.orElse_eq_or, Option.or_eq_none_iff,
    faultUnless_eq_none_iff, validFor_iff]
  exact and_congr_right' (findSome?_numbered_eq_none_iff fun i s => by simp)

/-- A document passes exactly if it is wired and no image is at fault. -/
lemma validate_eq_ok_iff_wired : d.validate = .ok () ↔ d.Wired ∧ d.imageFault? = none := by
  have hfault : d.validate = .ok () ↔ d.firstFault? = none := by
    unfold validate
    cases d.firstFault? <;> simp
  simp only [hfault, firstFault?, Option.orElse_eq_orElse, Option.orElse_eq_or,
    Option.or_eq_none_iff, textureFault?_eq_none_iff, materialFault?_eq_none_iff,
    shapeFault?_eq_none_iff, nodeFault?_eq_none_iff, skinFault?_eq_none_iff,
    sceneFault?_eq_none_iff, cycleFault?_eq_none_iff]
  constructor
  · rintro ⟨ht, hm, hi, hp, hn, hs, ⟨hd, hr⟩, ha⟩
    exact ⟨⟨ht, hm, hp, hn, hs, hd, hr, ha⟩, hi⟩
  · rintro ⟨⟨ht, hm, hp, hn, hs, hd, hr, ha⟩, hi⟩
    exact ⟨ht, hm, hi, hp, hn, hs, ⟨hd, hr⟩, ha⟩

/-- **Validation is exact**: a document passes exactly if every reference leads to an existing entry
and no node reaches itself; and the search for cycles finds a fault exactly if there is a cycle
anywhere. The ends of views are machine integers. -/
theorem validate_eq_ok_iff (d : Document) (hsum : ∀ v ∈ d.views, v.EndFits) :
    (d.validate = .ok () ↔ d.Valid) ∧ (d.cycleFault? = none ↔ d.Acyclic) := by
  refine ⟨?_, cycleFault?_eq_none_iff d⟩
  rw [validate_eq_ok_iff_wired, imageFault?_eq_none_iff hsum]
  exact ⟨fun h => ⟨h.1, h.2⟩, fun h => ⟨h.toWired, h.images⟩⟩

/-- A document in which a child is listed twice and another is shared. -/
def sharedChild : Document where
  nodes := [{ children := [1, 1, 2] }, { children := [3], mesh := some 0 }, { children := [3] }, {}]
  meshes := [{ primitives := [{ positions := [.zero], indices := some [0, 0, 0] }] }]
  images := [{ view := some 0 }]
  views := [{ offset := 1, length := 2 }]
  buffers := [{ data := [1, 2, 3] }]
  scenes := [{ nodes := [0] }]
  defaultScene := some 0

/-- A document with a cycle that no root leads to. -/
def strayCycle : Document where
  nodes := [{}, { children := [2] }, { children := [1] }]
  scenes := [{ nodes := [0] }]

/-- Shared children are valid, and a cycle is found wherever it is. -/
theorem validate_eq_ok_iff_sharedChild :
    (∀ v ∈ sharedChild.views, v.EndFits) ∧ sharedChild.Valid ∧ ¬ strayCycle.Valid := by
  have hsum : ∀ v ∈ sharedChild.views, v.EndFits := by
    intro v hv
    rw [List.mem_singleton.mp hv]
    exact ⟨by decide, by decide⟩
  refine ⟨hsum, (validate_eq_ok_iff sharedChild hsum).1.mp rfl, fun hvalid => ?_⟩
  exact nomatch (validate_eq_ok_iff strayCycle (fun _ hv => nomatch hv)).1.mpr hvalid

end SceneForge.Document
