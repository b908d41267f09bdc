import SceneForge.Proofs.Asset.Disjoint
import SceneForge.Proofs.Export.Coupled

set_option autoImplicit false

/-!
# Several parties on one depot

Several parties export assets on one depot, each with a session, a path and scratch names of its
own. A party owns its artifacts and its workspaces with everything in them, and looks at nothing
else but sources. If the artifacts of all parties are apart, and if they never come up with the same
scratch name, then what one party owns or looks at is out of reach of all others.

## Main definitions

* `SceneForge.Order` — what a party is to do.
* `SceneForge.Order.Names`, `SceneForge.Order.Owns` — where a party writes.
* `SceneForge.Order.window` — what a party looks at.
* `SceneForge.Unrelated` — parties whose artifacts are apart.

## Main results

* `SceneForge.Unrelated.not_prefix` — what two parties write is on different branches.
* `SceneForge.Unrelated.shown` — parties look at nothing outside their windows.
* `SceneForge.Unrelated.not_owns`, `SceneForge.Unrelated.not_above` — other parties do not reach a
  window.
-/

namespace SceneForge

open Assigns (below)

/-- With the parent directory as category there is one directory for textures and surfaces. -/
lemma AssetId.reaches_of_category_parent {path : String} (h : (ofPath path).category = "..")
    (root : String) : (below root).Reaches ((ofPath path).artifact .textures)
      ((ofPath path).artifact .surfaces) := by
  obtain ⟨v, name, hv, hartifact⟩ := exists_artifact_ofPath path
  have hparent : (ofPath path).category.toList = Path.dotDot := by rw [h]; rfl
  rw [hparent] at hv
  obtain ⟨top, htop⟩ := Assigns.exists_find?_below root
  have hback : '\\' ∉ v.toList := Path.Shallow.noBackslash ⟨Path.dotDot, Or.inr (Or.inl rfl), hv⟩
  have hresolve : ∀ k : Artifact, (∃ last : String, k.area.place = ["export", last]) →
      (below root).resolve ((ofPath path).artifact k) = .ok (String.ofList (Path.join
        (top ++ ["export".toList] ++ [(name ++ k.ending (ofPath path).ext).toList]))) := by
    rintro k ⟨last, hplace⟩
    obtain ⟨hfind, htidy, hds⟩ := htop k.area
    obtain ⟨hname, huri⟩ := hartifact k
    have hlast : last.toList ≠ Path.dotDot :=
      (Assigns.ordinary_of_mem_place (by simp [hplace] : last ∈ k.area.place)).ne_dotDot
    have hparent : (Path.push false (top ++ k.area.place.map String.toList).reverse
        Path.dotDot).reverse = top ++ ["export".toList] := by
      have hstack : (top ++ k.area.place.map String.toList).reverse =
          last.toList :: "export".toList :: top.reverse := by simp [hplace]
      have hup : Path.push false (last.toList :: "export".toList :: top.reverse) Path.dotDot =
          "export".toList :: top.reverse := if_neg hlast
      rw [hstack, hup]
      simp
    have hne : top ++ k.area.place.map String.toList ≠ [] := by simp [hplace]
    rw [huri, Assigns.resolve_uri_of_tidy ⟨by simp, by simpa using hname⟩ hfind htidy hds hne hback,
      Path.cleanParts_element htidy hne (by decide) hv, hparent]
    rfl
  exact ⟨_, _, hresolve .textures ⟨"textures", rfl⟩, hresolve .surfaces ⟨"surfaces", rfl⟩,
    List.prefix_refl _⟩

/-! ## Orders -/

/-- What a party is to do on a depot. -/
structure Order where
  /-- The tools for its textures. -/
  tools : Texture.Tools := {}
  /-- The session that it has. -/
  session : Session
  /-- The source that it exports. -/
  path : String
  /-- The settings of the export. -/
  settings : Settings := {}
  /-- The names of its workspaces, in order of use. -/
  names : Nat → String

namespace Order

variable {o : Order} {a : Assigns} {loc : Location}

/-- The asset that a party exports. -/
def asset (o : Order) : AssetId := AssetId.ofPath o.path

/-- The location texts that a party writes at. -/
inductive Names (o : Order) : String → Prop where
  /-- An artifact. -/
  | artifact (k : Artifact) : Names o (o.asset.artifact k)
  /-- A workspace. -/
  | workspace (n : Nat) : Names o (Texture.workspaceRoot ++ "/" ++ o.names n)

/-- The locations that a party owns: what it writes at, and everything in there. -/
def Owns (o : Order) (a : Assigns) (loc : Location) : Prop :=
  ∃ uri l, o.Names uri ∧ a.Leads uri l ∧ l <+: loc

/-- What a party looks at: what it owns, and sources. -/
def window (o : Order) (a : Assigns) : Window where
  assigns := a
  scratch := o.names
  shows loc := o.Owns a loc ∨ a.Source loc

/-- A location text that a party writes at shows in its window. -/
lemma Names.shows {uri : String} (h : o.Names uri) : (o.window a).Shows uri := fun loc hloc =>
  Or.inl ⟨uri, loc, h, hloc, List.prefix_refl loc⟩

/-- A directory that a party writes at shows in its window, with what is in it. -/
lemma Names.isOpen {uri : String} (h : o.Names uri) (hanchored : Anchored uri) :
    Texture.Open (o.window a) uri where
  here := h.shows
  inside name hname loc hloc := by
    obtain ⟨l, hl, rfl⟩ := hanchored a name loc hname hloc
    exact Or.inl ⟨uri, l, h, hl, List.prefix_append l [name]⟩

/-- Everything that an export may write is written by its party. -/
lemma names_of_mem_uris {d d' : Depot} (hscratch : d.world.scratch = o.names) {uri : String}
    (h : uri ∈ (o.asset.zone.upTo d d').uris) : o.Names uri := by
  rcases AssetId.mem_uris_upTo.mp h with huri | huri
  · obtain ⟨k, rfl⟩ := AssetId.exists_artifact_of_mem_zone huri
    exact .artifact k
  · obtain ⟨n, -, -, rfl⟩ := Depot.mem_workspaces.mp huri
    rw [hscratch]
    exact .workspace n

/-- An export covers nothing that its party does not own. -/
lemma clear_of_not_owns {d d' : Depot} (hscratch : d.world.scratch = o.names)
    (h : ¬ o.Owns a loc) : (o.asset.zone.upTo d d').Clear a loc := fun uri huri l hl hle =>
  h ⟨uri, l, names_of_mem_uris hscratch huri, hl, hle⟩

end Order

/-- A location text that leads above or to where another one leads reaches it. -/
lemma Assigns.Leads.reaches {a : Assigns} {uri uri' : String} {l l' : Location} (h : a.Leads uri l)
    (h' : a.Leads uri' l') (hne : l ≠ []) (hle : l <+: l') : a.Reaches uri uri' := by
  obtain ⟨path, hpath, hl⟩ := h
  obtain ⟨path', hpath', hl'⟩ := h'
  have hsplit : ∀ {p : String} {loc : Location}, Depot.locate p = some loc → loc ≠ [] →
      Path.split p.toList = loc.map String.toList := by
    intro p loc hloc hsome
    rcases Depot.exists_of_locate hloc with ⟨-, rfl⟩ | ⟨ps, hps, hplain, rfl, rfl⟩
    · exact absurd rfl hsome
    · rw [String.toList_ofList, Path.split_join (fun q hq => (hplain q hq).noSlash) hps]
      simp [Function.comp_def]
  refine ⟨path, path', hpath, hpath', ?_⟩
  rw [hsplit hl hne, hsplit hl' (hle.ne_nil hne)]
  exact hle.map _

/-! ## Parties that are apart -/

/-- **Parties that have nothing to do with each other**: no artifact of any of them reaches another
one, and scratch names are ordinary and never come up twice. -/
structure Unrelated {ι : Type} (a : Assigns) (orders : ι → Order) : Prop where
  /-- Artifacts are different, and none is in another one. -/
  artifacts : ∀ i j k l, (i, k) ≠ (j, l) →
    ¬ a.Reaches ((orders i).asset.artifact k) ((orders j).asset.artifact l)
  /-- Scratch names are ordinary. -/
  ordinary : ∀ i n, Path.Ordinary ((orders i).names n).toList
  /-- Different parties take different scratch names. -/
  distinct : ∀ i j, i ≠ j → ∀ m n, (orders i).names m ≠ (orders j).names n

namespace Unrelated

variable {ι : Type} {root : String} {orders : ι → Order} {i j : ι} {loc : Location}

/-- No category is the parent directory. -/
lemma category_ne_parent (h : Unrelated (below root) orders) (i : ι) :
    (orders i).asset.category ≠ ".." := fun hparent =>
  h.artifacts i i .textures .surfaces (by simp) (AssetId.reaches_of_category_parent hparent root)

/-- What a party writes lies on the branch of exports or on that of workspaces. -/
lemma exists_branches (h : Unrelated (below root) orders) : ∃ top : Location,
    (∀ src, (below root).Leads "src:" src → src = top ++ ["assets"]) ∧
    (∀ i k l, (below root).Leads ((orders i).asset.artifact k) l → top ++ ["export"] <+: l) ∧
    ∀ i n l, (below root).Leads (Texture.workspaceRoot ++ "/" ++ (orders i).names n) l →
      top ++ ["temp"] <+: l := by
  obtain ⟨top, htop, hzone, hworkspace⟩ := Assigns.exists_branches root
  refine ⟨top, htop, fun i k l hl => hzone (orders i).path _ l ?_ hl,
    fun i n l hl => hworkspace _ l (h.ordinary i n) hl⟩
  cases k <;> simp [AssetId.zone, AssetId.artifact, Order.asset]

/-- **What two parties write is on different branches.** -/
lemma not_prefix (h : Unrelated (below root) orders) (hij : i ≠ j) {uri uri' : String}
    {l l' : Location} (huri : (orders i).Names uri) (huri' : (orders j).Names uri')
    (hl : (below root).Leads uri l) (hl' : (below root).Leads uri' l') : ¬ l <+: l' := by
  intro hle
  obtain ⟨top, -, hartifact, hworkspace⟩ := h.exists_branches
  cases huri with
  | artifact k =>
    have hbranch := hartifact i k l hl
    cases huri' with
    | artifact k' =>
      have hne : l ≠ [] := hbranch.ne_nil (by simp)
      exact h.artifacts i j k k' (by simp [hij]) (hl.reaches hl' hne hle)
    | workspace n =>
      have heq := Location.branch_unique (hbranch.trans hle) (hworkspace j n l' hl')
      exact absurd heq (by decide)
  | workspace m =>
    have hbranch := hworkspace i m l hl
    cases huri' with
    | artifact k' =>
      have heq := Location.branch_unique (hbranch.trans hle) (hartifact j k' l' hl')
      exact absurd heq (by decide)
    | workspace n =>
      -- all workspaces are in one directory, so they differ in their names
      rw [Texture.workspace_eq_uri] at hl hl'
      have hnames : ∀ i n, OrdinaryNames [(orders i).names n] := fun i n =>
        ⟨by simp, by simpa using h.ordinary i n⟩
      rcases (below root).exists_top_uri .temp "textureconverter" with hnone | ⟨t, ht⟩
      · exact hnone _ (hnames i m) l hl
      · rw [(ht _ (hnames i m) l).mp hl, (ht _ (hnames j n) l').mp hl'] at hle
        exact h.distinct i j hij m n (Location.branch_unique hle (List.prefix_refl _))

/-- **Parties look at nothing outside their windows.** -/
lemma shown (h : Unrelated (below root) orders) (i : ι) :
    (orders i).asset.Shown ((orders i).window (below root)) := by
  have hcategory := h.category_ne_parent i
  have hext := AssetId.noSeparator_ext_ofPath (orders i).path
  have hnames := fun k => Order.Names.artifact (o := orders i) k
  refine ⟨fun loc hloc => Or.inr (AssetId.source_located hcategory ?_ hloc),
    fun name hname loc hloc => Or.inr (AssetId.source_beside hcategory hname hloc),
    fun loc hloc => Or.inr (AssetId.source_located hcategory (by decide) hloc),
    fun n => (Order.Names.workspace n).isOpen (Texture.anchored_workspace (h.ordinary i n)),
    (hnames .textures).isOpen (AssetId.anchored_ofPath _ .texture),
    (hnames .surfaces).isOpen (AssetId.anchored_ofPath _ .surface),
    (hnames .mesh).shows, (hnames .physicsMesh).shows, (hnames .model).shows,
    (hnames .physicsModel).shows⟩
  simp [Order.asset, hext]

/-- What decides whether a party has something to do shows in its window. -/
lemma shows_dependencies (h : Unrelated (below root) orders) (i : ι)
    {check : String × String × String} (hcheck : check ∈ (orders i).asset.dependencies) :
    ((orders i).window (below root)).Shows check.2.1 ∧
      ((orders i).window (below root)).Shows check.2.2 := by
  have hshown := h.shown i
  have hsource : ∀ ending : String, '/' ∉ ending.toList ∧ '\\' ∉ ending.toList →
      ((orders i).window (below root)).Shows ((orders i).asset.located .source ending) :=
    fun ending hending loc hloc =>
      Or.inr (AssetId.source_located (h.category_ne_parent i) hending hloc)
  simp only [AssetId.dependencies, List.mem_cons, List.not_mem_nil, or_false] at hcheck
  rcases hcheck with rfl | rfl | rfl | rfl | rfl | rfl
  · exact ⟨hshown.source, hshown.model⟩
  · exact ⟨hsource ".constants" (by decide), hshown.model⟩
  · exact ⟨hsource ".attributes" (by decide), hshown.model⟩
  · exact ⟨hshown.physics, hshown.physicsModel⟩
  · exact ⟨hshown.source, hshown.mesh⟩
  · exact ⟨hshown.physics, hshown.mesh⟩

/-- What parties write lies below the directory above all sources, and not where sources are. -/
lemma exists_top (h : Unrelated (below root) orders) : ∃ top : Location,
    (∀ src, (below root).Leads "src:" src → src = top ++ ["assets"]) ∧
    ∀ j uri l, (orders j).Names uri → (below root).Leads uri l →
      ∃ b, b ≠ "assets" ∧ top ++ [b] <+: l := by
  obtain ⟨top, htop, hartifact, hworkspace⟩ := h.exists_branches
  refine ⟨top, htop, fun j uri l huri hl => ?_⟩
  cases huri with
  | artifact k => exact ⟨"export", by decide, hartifact j k l hl⟩
  | workspace n => exact ⟨"temp", by decide, hworkspace j n l hl⟩

/-- No party owns the directory above all sources. -/
lemma not_owns_dropLast (h : Unrelated (below root) orders) {src : Location}
    (hsrc : (below root).Leads "src:" src) (j : ι) : ¬ (orders j).Owns (below root) src.dropLast := by
  rintro ⟨uri, l, huri, hl, hle⟩
  obtain ⟨top, htop, hbranches⟩ := h.exists_top
  obtain ⟨b, -, hbranch⟩ := hbranches j uri l huri hl
  rw [htop src hsrc, List.dropLast_concat] at hle
  have hlen := (hbranch.trans hle).length_le
  rw [List.length_append, List.length_singleton] at hlen
  omega

/-- **What a party looks at belongs to no other party.** -/
lemma not_owns (h : Unrelated (below root) orders) (hij : i ≠ j)
    (hloc : ((orders i).window (below root)).shows loc) : ¬ (orders j).Owns (below root) loc := by
  rcases hloc with ⟨uri', l', huri', hl', hle'⟩ | ⟨src, hsrc, hloc | rfl⟩
  · rintro ⟨uri, l, huri, hl, hle⟩
    exact (List.prefix_or_prefix_of_prefix hle hle').elim
      (h.not_prefix hij.symm huri huri' hl hl') (h.not_prefix hij huri' huri hl' hl)
  · rintro ⟨uri, l, huri, hl, hle⟩
    obtain ⟨top, htop, hbranches⟩ := h.exists_top
    obtain ⟨b, hne, hbranch⟩ := hbranches j uri l huri hl
    rw [htop src hsrc] at hloc
    exact hne (Location.branch_unique (hbranch.trans hle) hloc)
  · exact h.not_owns_dropLast hsrc j

/-- What other parties write at is not below a location of a window, unless that is the directory
above all sources. -/
lemma not_above (h : Unrelated (below root) orders) (hij : i ≠ j)
    (hloc : ((orders i).window (below root)).shows loc)
    (hne : ∀ src, (below root).Leads "src:" src → loc ≠ src.dropLast) {uri : String}
    {l : Location} (huri : (orders j).Names uri) (hl : (below root).Leads uri l) : ¬ loc <+: l := by
  intro hle
  rcases hloc with ⟨uri', l', huri', hl', hle'⟩ | ⟨src, hsrc, hloc⟩
  · exact h.not_prefix hij huri' huri hl' hl (hle'.trans hle)
  · obtain ⟨top, htop, hbranches⟩ := h.exists_top
    obtain ⟨b, hb, hbranch⟩ := hbranches j uri l huri hl
    rcases hloc with hloc | hloc
    · rw [htop src hsrc] at hloc
      exact hb (Location.branch_unique hbranch (hloc.trans hle))
    · exact hne src hsrc hloc

end Unrelated

end SceneForge
