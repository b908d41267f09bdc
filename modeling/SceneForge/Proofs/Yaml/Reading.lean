import Mathlib.Data.List.Forall2
import Mathlib.Data.List.Nodup
import SceneForge.Yaml.Reader
import SceneForge.Yaml.Writer

set_option autoImplicit false

/-!
# Reading back what was written

What the layout of a text has to do with the nodes that are read from it is the business of YAML: a
document *reads back* if the nodes of its text say what was written, a number as the same number and
a text as the same text. What a record makes of such nodes is not: this module follows a decoder
through nodes that say known values, key by key and item by item, up to the record that is read.

## Main definitions

* `SceneForge.Yaml.Value.saidBy` — nodes that say what was written.
* `SceneForge.Yaml.ReadsBack` — documents whose text is read as what was written.
* `SceneForge.Yaml.Reading.Gives` — readings that give a value and complain of nothing.
* `SceneForge.Yaml.Decoder.Reads` — decoders that read what was written.
* `SceneForge.Yaml.Fills` — entries that make one record of another.

## Main results

* `SceneForge.Yaml.record_reads` — a record is read from nodes that say its entries.
* `SceneForge.Yaml.decode_of_readsBack` — a record is read from the text of its entries.
-/

namespace SceneForge.Yaml

/-! ## Nodes that say what was written -/

/-- The text that a scalar stands for, if it stands for one. -/
def Scalar.text? : Scalar → Option String
  | text s => some s
  | _ => none

namespace Bare

/-- Whether the reading of a scalar is what was written: the same number after rounding, the same
integer within 64 bits, the same truth value. -/
def readAs : Bare → Scalar → Bool
  | single a, .int i => Single.ofDouble (Float.ofInt i) == a
  | single a, .float x => Single.ofDouble x == a
  | int n, .int i => i == n && decide (i < 0x8000000000000000)
  | bool b, .bool c => c == b
  | _, _ => false

/-- Whether a node is a scalar without quotes and tag that says what was written. -/
def saidBy (b : Bare) : Node → Bool
  | .scalar s tag plain _ => tag == "" && plain && b.readAs (Scalar.ofText s)
  | _ => false

end Bare

/-- Whether a node is a key that was written. -/
def keySaidBy (k : String) : Node → Bool
  | .scalar s tag plain _ => s == k && (Scalar.resolve tag plain s).bind Scalar.text? == some k
  | _ => false

/-- Whether nodes say short scalars that were written in one line. -/
def rowSaidBy : List Bare → List Node → Bool
  | [], [] => true
  | b :: bs, n :: ns => b.saidBy n && rowSaidBy bs ns
  | _, _ => false

mutual

/-- Whether a node says what was written. -/
def Value.saidBy : Value → Node → Bool
  | .bare b, n => b.saidBy n
  | .text t, .scalar s tag plain _ => (Scalar.resolve tag plain s).bind Scalar.text? == some t
  | .row items, .seq ns _ => rowSaidBy items ns
  | .seq items, .seq ns _ => itemsSaidBy items ns
  | .map entries, .map ns _ => entriesSaidBy entries ns
  | _, _ => false

/-- Whether nodes say the items of a sequence. -/
def itemsSaidBy : List Value → List Node → Bool
  | [], [] => true
  | v :: vs, n :: ns => v.saidBy n && itemsSaidBy vs ns
  | _, _ => false

/-- Whether nodes say the entries of a mapping. -/
def entriesSaidBy : List (String × Value) → List (Node × Node) → Bool
  | [], [] => true
  | (k, v) :: es, (key, n) :: ns => keySaidBy k key && v.saidBy n && entriesSaidBy es ns
  | _, _ => false

end

/-- A document that reads back: the nodes of its text say what was written. -/
def ReadsBack (best : Nat) (entries : List (String × Value)) : Prop :=
  ∃ n, Node.read? (utf8 (render best entries)) = some (some n) ∧ (Value.map entries).saidBy n = true

/-- Whether a document reads back is found out by reading it. -/
instance (best : Nat) (entries : List (String × Value)) : Decidable (ReadsBack best entries) :=
  match h : Node.read? (utf8 (render best entries)) with
  | some (some n) =>
    if hsaid : (Value.map entries).saidBy n then .isTrue ⟨n, h, hsaid⟩
    else .isFalse fun ⟨_, hn, hback⟩ => hsaid (Option.some.inj (Option.some.inj (h.symm.trans hn)) ▸ hback)
  | some none => .isFalse fun ⟨_, hn, _⟩ => nomatch h.symm.trans hn
  | none => .isFalse fun ⟨_, hn, _⟩ => nomatch h.symm.trans hn

variable {α β σ : Type} {n : Node} {s tag t type : String} {plain : Bool} {line : Nat}

/-- A row says what a sequence of its scalars says. -/
lemma row_saidBy (bs : List Bare) : (Value.row bs).saidBy n = (Value.seq (bs.map .bare)).saidBy n := by
  have hitems : ∀ ns, rowSaidBy bs ns = itemsSaidBy (bs.map .bare) ns := by
    induction bs with
    | nil => exact fun ns => by cases ns <;> rfl
    | cons b bs ih => exact fun ns => by cases ns <;> simp [rowSaidBy, itemsSaidBy, Value.saidBy, ih]
  cases n with
  | seq ns line => exact hitems ns
  | _ => rfl

/-- Nodes say the items of a sequence one by one. -/
lemma itemsSaidBy_iff {vs : List Value} {ns : List Node} :
    itemsSaidBy vs ns = true ↔ List.Forall₂ (fun v n => Value.saidBy v n = true) vs ns := by
  induction vs generalizing ns with
  | nil => cases ns <;> simp [itemsSaidBy]
  | cons v vs ih => cases ns <;> simp [itemsSaidBy, ih]

/-- A key that was written is an ordinary scalar. -/
lemma exists_of_keySaidBy {k : String} (h : keySaidBy k n = true) : ∃ tag plain line,
    n = .scalar k tag plain line ∧ Scalar.resolve tag plain k = some (.text k) := by
  cases n with
  | scalar s tag plain line =>
    simp only [keySaidBy, Bool.and_eq_true, beq_iff_eq, Option.bind_eq_some_iff] at h
    obtain ⟨rfl, v, hv, htext⟩ := h
    cases v <;> cases htext
    exact ⟨tag, plain, line, rfl, hv⟩
  | _ => simp [keySaidBy] at h

/-- A text that was written is a scalar that stands for it. -/
lemma exists_of_text_saidBy (h : (Value.text t).saidBy n = true) : ∃ s tag plain line,
    n = .scalar s tag plain line ∧ Scalar.resolve tag plain s = some (.text t) := by
  cases n with
  | scalar s tag plain line =>
    simp only [Value.saidBy, beq_iff_eq, Option.bind_eq_some_iff] at h
    obtain ⟨v, hv, htext⟩ := h
    cases v <;> cases htext
    exact ⟨s, tag, plain, line, rfl, hv⟩
  | _ => simp [Value.saidBy] at h

/-- A scalar that was written as it stands is read as it stands. -/
lemma exists_of_bare_saidBy {b : Bare} (h : (Value.bare b).saidBy n = true) : ∃ s line v,
    n = .scalar s "" true line ∧ Scalar.resolve "" true s = some v ∧ b.readAs v = true := by
  rw [Value.saidBy] at h
  cases n with
  | scalar s tag plain line =>
    simp only [Bare.saidBy, Bool.and_eq_true, beq_iff_eq] at h
    obtain ⟨⟨rfl, rfl⟩, h⟩ := h
    exact ⟨s, line, _, rfl, rfl, h⟩
  | _ => simp [Bare.saidBy] at h

/-! ## Readings that complain of nothing -/

/-- A reading that gives a value and complains of nothing. -/
def Reading.Gives (r : Reading α) (a : α) : Prop :=
  ∀ complaints, r.run complaints = .ok (a, complaints)

/-- A decoder that reads what was written, in place of an old value. -/
def Decoder.Reads (d : Decoder α) (v : Value) (old a : α) : Prop :=
  ∀ n, v.saidBy n = true → (d n old).Gives (some a)

namespace Reading

/-- A value without reading. -/
lemma gives_pure (a : α) : Gives (pure a) a := fun _ => rfl

/-- Looking at the complaints so far. -/
lemma run_get (complaints : List String) :
    (get : Reading (List String)).run complaints = .ok (complaints, complaints) := rfl

/-- A reading goes on with what was read. -/
lemma run_bind_of_run {r : Reading α} {f : α → Reading β} {a : α} {cs cs' : List String}
    (h : r.run cs = .ok (a, cs')) : (r >>= f).run cs = (f a).run cs' := by
  rw [StateT.run_bind, h]
  rfl

/-- Readings one after the other. -/
lemma Gives.bind {r : Reading α} {f : α → Reading β} {a : α} {b : β} (hr : r.Gives a)
    (hf : (f a).Gives b) : Gives (r >>= f) b := fun complaints =>
  (run_bind_of_run (hr complaints)).trans (hf complaints)

/-- A reading that gives a value has it as its outcome. -/
lemma Gives.outcome {r : Reading α} {a : α} (h : r.Gives a) : r.outcome = .ok a := by
  rw [Reading.outcome, h]

/-- Items are read one after the other. -/
lemma gives_mapM {f : α → Reading β} {xs : List α} {ys : List β}
    (h : List.Forall₂ (fun x y => (f x).Gives y) xs ys) : Gives (xs.mapM f) ys := by
  induction h with
  | nil => exact gives_pure []
  | cons hx _ ih =>
    rw [List.mapM_cons]
    exact hx.bind (ih.bind (gives_pure _))

end Reading

open Reading (gives_pure gives_mapM)

/-! ## Scalars -/

/-- What a scalar stands for is read. -/
lemma scalarOf_gives {v : Scalar} (h : Scalar.resolve tag plain s = some v) :
    (scalarOf s tag plain).Gives v := by
  rw [scalarOf, h]
  exact gives_pure v

/-- Nothing that was written is null. -/
lemma isNull_gives {v : Value} (hsaid : v.saidBy n = true) : (isNull n).Gives false := by
  cases n with
  | scalar s tag plain line =>
    cases v with
    | text t =>
      obtain ⟨s, tag, plain, line, heq, hv⟩ := exists_of_text_saidBy hsaid
      rw [heq]
      exact (scalarOf_gives hv).bind (gives_pure false)
    | bare b =>
      obtain ⟨s, line, v, heq, hv, has⟩ := exists_of_bare_saidBy hsaid
      rw [heq]
      refine (scalarOf_gives hv).bind ?_
      cases v with
      | null => cases b <;> cases has
      | _ => exact gives_pure false
    | _ => simp [Value.saidBy] at hsaid
  | _ => exact gives_pure false

/-- A text is read by anything that takes it. -/
lemma scalar_reads_text {read : String → Scalar → Except String (Option α)} {old a : α}
    (hread : read t (.text t) = .ok (some a)) : (scalar type read).Reads (.text t) old a := by
  intro n hsaid
  obtain ⟨s, tag, plain, line, rfl, hv⟩ := exists_of_text_saidBy hsaid
  refine (scalarOf_gives hv).bind ?_
  simp only [hread, Except.map]
  exact gives_pure _

/-- A scalar that was written as it stands is read by anything that takes what it is read as. -/
lemma scalar_reads_bare {read : String → Scalar → Except String (Option α)} {b : Bare} {old a : α}
    (hread : ∀ s v, b.readAs v = true → read s v = .ok (some a)) :
    (scalar type read).Reads (.bare b) old a := by
  intro n hsaid
  obtain ⟨s, line, v, rfl, hv, has⟩ := exists_of_bare_saidBy hsaid
  refine (scalarOf_gives hv).bind ?_
  have hread := hread s v has
  cases v with
  | null => cases b <;> cases has
  | text t => cases b <;> cases has
  | _ =>
    simp only [hread, Except.map]
    exact gives_pure _

/-- A text is read as it is. -/
lemma text_reads (t old : String) : text.Reads (.text t) old t := scalar_reads_text rfl

/-- A text with a grammar of its own. -/
lemma parsed_reads {parse : String → Except String α} {old a : α} (hparse : parse t = .ok a) :
    (parsed parse).Reads (.text t) old a := scalar_reads_text (by rw [hparse]; rfl)

/-- A number is read as it is. -/
lemma single_reads (a old : Single) : single.Reads (.single a) old a := by
  refine scalar_reads_bare fun s v h => ?_
  cases v <;> simp_all [Bare.readAs]

/-- An integer is read as it is. -/
lemma int_reads (i old : Int) : int.Reads (.int i) old i := by
  refine scalar_reads_bare fun s v h => ?_
  cases v with
  | int j =>
    simp only [Bare.readAs, Bool.and_eq_true, beq_iff_eq, decide_eq_true_eq] at h
    obtain ⟨rfl, h⟩ := h
    simp only [if_pos h]
  | _ => simp [Bare.readAs] at h

/-- A key is read as it is. -/
lemma text_gives_key {k old : String} (h : keySaidBy k n = true) : (text n old).Gives (some k) := by
  obtain ⟨tag, plain, line, rfl, hv⟩ := exists_of_keySaidBy h
  exact text_reads k old _ (by simp [Value.saidBy, hv, Scalar.text?])

/-! ## Collections -/

section Collections

variable {d : Decoder α} {start : α} {vs : List Value} {as : List α}

/-- A value that may be absent, but is not. -/
lemma optional_reads {v : Value} {old : Option α} {a : α} (h : d.Reads v (old.getD start) a) :
    (optional start d).Reads v old (some a) := fun n hsaid =>
  (isNull_gives hsaid).bind ((h n hsaid).bind (gives_pure _))

/-- Items are read from nodes that say them. -/
lemma items_give (h : List.Forall₂ (fun v a => d.Reads v start a) vs as) {ns : List Node}
    (hsaid : itemsSaidBy vs ns = true) : (ns.mapM fun item => d item start).Gives (as.map some) := by
  rw [itemsSaidBy_iff] at hsaid
  refine gives_mapM (List.forall₂_map_right_iff.mpr ?_)
  induction h generalizing ns with
  | nil =>
    cases hsaid
    exact .nil
  | cons hread _ ih =>
    cases hsaid with
    | cons hfirst hrest => exact .cons (hread _ hfirst) (ih hrest)

/-- The items of a list that are not null are all of them. -/
lemma filterMap_some (as : List α) : (as.map some).filterMap id = as := by
  simp [List.filterMap_map]

/-- A list is read item by item. -/
lemma list_reads {old : List α} (h : List.Forall₂ (fun v a => d.Reads v start a) vs as) :
    (list start d).Reads (.seq vs) old as := by
  intro n hsaid
  cases n with
  | seq ns line =>
    refine (items_give h hsaid).bind ?_
    rw [filterMap_some]
    exact gives_pure _
  | _ => simp [Value.saidBy] at hsaid

/-- A list of fixed length is read item by item. -/
lemma vector_reads {old : List α} (h : List.Forall₂ (fun v a => d.Reads v start a) vs as)
    (hlength : as.length = old.length) : (vector start d).Reads (.seq vs) old as := by
  intro n hsaid
  cases n with
  | seq ns line =>
    have hcount : (ns.length != old.length) = false := by
      rw [← hlength, ← h.length_eq, (itemsSaidBy_iff.mp hsaid).length_eq, bne_self_eq_false]
    rw [vector]
    simp only [hcount, Bool.false_eq_true, if_false]
    refine (items_give h hsaid).bind ?_
    rw [filterMap_some, hlength, List.drop_length, List.append_nil]
    exact gives_pure _
  | _ => simp [Value.saidBy] at hsaid

/-- A list of fixed length may also stand in one line. -/
lemma vector_reads_row {bs : List Bare} {old : List α}
    (h : List.Forall₂ (fun b a => d.Reads (.bare b) start a) bs as)
    (hlength : as.length = old.length) : (vector start d).Reads (.row bs) old as := by
  intro n hsaid
  rw [row_saidBy] at hsaid
  exact vector_reads (List.forall₂_map_left_iff.mpr h) hlength n hsaid

end Collections

/-! ## Records -/

/-- What the entries of a mapping make of a record, one after the other. -/
inductive Fills (fields : List (Field σ)) : List (String × Value) → σ → σ → Prop where
  /-- Without entries the record stays. -/
  | nil (s : σ) : Fills fields [] s s
  /-- The field of the first key reads its value, and the other entries follow. -/
  | cons {k : String} {v : Value} {es : List (String × Value)} {s s' s'' : σ} {f : Field σ}
      (find : fields.find? (fun f => f.name == k) = some f)
      (update : ∀ n, v.saidBy n = true → (f.update n s).Gives s') (rest : Fills fields es s' s'') :
      Fills fields ((k, v) :: es) s s''

/-- An entry whose value is one component of the record. -/
lemma Fills.field {fields : List (Field σ)} {k : String} {v : Value} {es : List (String × Value)}
    {s s' : σ} {name : String} {get : σ → α} {put : σ → α → σ} {d : Decoder α} {a : α}
    (find : fields.find? (fun f => f.name == k) = some (Yaml.field name get put d))
    (hread : d.Reads v (get s) a) (rest : Fills fields es (put s a) s') :
    Fills fields ((k, v) :: es) s s' :=
  .cons find (fun n hsaid => (hread n hsaid).bind (gives_pure _)) rest

/-- Entries one part after the other. -/
lemma Fills.append {fields : List (Field σ)} {es es' : List (String × Value)} {s s' s'' : σ}
    (h : Fills fields es s s') (h' : Fills fields es' s' s'') : Fills fields (es ++ es') s s'' := by
  induction h with
  | nil => exact h'
  | cons find update _ ih => exact .cons find update (ih h')

/-- Keys of a record: all different, and none that brings in another mapping. -/
def OrdinaryKeys (ks : List String) : Prop := ks.Nodup ∧ "<<" ∉ ks

instance (ks : List String) : Decidable (OrdinaryKeys ks) :=
  inferInstanceAs (Decidable (ks.Nodup ∧ "<<" ∉ ks))

/-- The keys of nodes that say entries are the keys of the entries. -/
lemma map_keyIdentity : ∀ {es : List (String × Value)} {ns : List (Node × Node)},
    entriesSaidBy es ns = true →
      (ns.map (·.1)).map keyIdentity = (es.map (·.1)).map fun k => (0, k)
  | [], [], _ => rfl
  | (k, v) :: es, (key, n) :: ns, h => by
    simp only [entriesSaidBy, Bool.and_eq_true] at h
    obtain ⟨tag, plain, line, rfl, -⟩ := exists_of_keySaidBy h.1.1
    simp only [List.map_cons, map_keyIdentity h.2, keyIdentity]

/-- Different keys are not repeated. -/
lemma repeated_eq_nil {ns : List Node} (h : (ns.map keyIdentity).Nodup) : repeated ns = [] := by
  induction ns with
  | nil => rfl
  | cons n ns ih =>
    rw [List.map_cons, List.nodup_cons] at h
    have hfirst : ns.filter (fun l => keyIdentity l == keyIdentity n) = [] := by
      rw [List.filter_eq_nil_iff]
      intro l hl heq
      exact h.1 (beq_iff_eq.mp heq ▸ List.mem_map_of_mem hl)
    rw [repeated, hfirst, ih h.2]
    rfl

/-- A key that asks for the entries of another mapping is a scalar of this text. -/
lemma keyIdentity_of_isMerge (h : isMerge n = true) : keyIdentity n = (0, "<<") := by
  unfold isMerge at h
  split at h
  · rfl
  · cases h

/-- Entries that were written are all there is: none is repeated, and none brings in others. -/
lemma entriesOf_gives {es : List (String × Value)} {ns : List (Node × Node)}
    (hsaid : entriesSaidBy es ns = true) (hordinary : OrdinaryKeys (es.map (·.1))) :
    (entriesOf ns).Gives (some ns) := by
  have hkeys := map_keyIdentity hsaid
  have hpair : Function.Injective fun k : String => (0, k) := fun _ _ h => (Prod.mk.inj h).2
  have hrepeated : repeated (ns.map (·.1)) = [] :=
    repeated_eq_nil (hkeys ▸ hordinary.1.map hpair)
  have hplain : ∀ e ∈ ns, isMerge e.1 = false := by
    intro e he
    rw [← Bool.not_eq_true]
    intro h
    have hmem := List.mem_map_of_mem (f := keyIdentity) (List.mem_map_of_mem (f := (·.1)) he)
    rw [hkeys, keyIdentity_of_isMerge h, List.mem_map_of_injective hpair] at hmem
    exact hordinary.2 hmem
  have hown : ns.filter (fun e => !isMerge e.1) = ns :=
    List.filter_eq_self.mpr fun e he => by rw [hplain e he, Bool.not_false]
  have hnone : ns.filter (fun e => isMerge e.1) = [] :=
    List.filter_eq_nil_iff.mpr fun e he => by simp [hplain e he]
  simp only [entriesOf, hrepeated, hown, hnone, List.isEmpty_nil, Bool.not_true, Bool.false_eq_true,
    if_false, List.getLast?_nil]
  exact gives_pure _

/-- **A record is read** from nodes that say its entries.

**Proof sketch.** Induction along the entries: each key is found again among the fields of the
  record, whose decoder reads the value of the key. -/
lemma record_reads {fields : List (Field σ)} {strict : Bool} {es : List (String × Value)} {s s' : σ}
    {ks : List String} (hkeys : es.map (·.1) = ks) (hordinary : OrdinaryKeys ks)
    (hfills : Fills fields es s s') : (record type strict fields).Reads (.map es) s s' := by
  subst hkeys
  intro n hsaid
  cases n with
  | map ns line =>
    refine (entriesOf_gives hsaid hordinary).bind (Reading.Gives.bind ?_ (gives_pure _))
    rw [Value.saidBy] at hsaid
    clear hordinary
    induction hfills generalizing ns with
    | nil s =>
      cases ns with
      | nil => exact gives_pure s
      | cons => simp [entriesSaidBy] at hsaid
    | cons find update _ ih =>
      cases ns with
      | nil => simp [entriesSaidBy] at hsaid
      | cons e ns =>
        simp only [entriesSaidBy, Bool.and_eq_true] at hsaid
        obtain ⟨⟨hkey, hvalue⟩, hrest⟩ := hsaid
        rw [List.foldlM_cons]
        refine Reading.Gives.bind ((text_gives_key hkey).bind ?_) (ih ns hrest)
        simp only [find]
        exact update _ hvalue
  | _ => simp [Value.saidBy] at hsaid

/-! ## Texts -/

/-- **What was written is read** from its text, if the document reads back. -/
lemma decode_of_readsBack {d : Decoder α} {best : Nat} {es : List (String × Value)} {start a : α}
    (hback : ReadsBack best es) (hread : d.Reads (.map es) start a) :
    decode d start (utf8 (render best es)) = .ok a := by
  obtain ⟨n, hn, hsaid⟩ := hback
  have hgives : Reading.Gives (do return some ((← d n start).getD start)) (some a) :=
    (hread n hsaid).bind (gives_pure (some a))
  rw [decode, decode?, hn]
  exact congrArg (Except.map (·.getD start)) hgives.outcome

end SceneForge.Yaml
