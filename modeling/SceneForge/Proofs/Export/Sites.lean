import SceneForge.Proofs.Depot.Layout
import SceneForge.Proofs.Depot.Outcome
import SceneForge.Proofs.Export.Footprint

set_option autoImplicit false

/-!
# Where an export takes place

Every event of an export takes place at a site that is named by the asset. What a depot holds at one
site is kept by everything that happens at sites on other branches, so a file that was written once
is still there when the export has ended.

## Main definitions

* `SceneForge.Event.Among` — an event at one of some ordinary sites.
* `SceneForge.Depot.Holds` — a file with some contents is there.
* `SceneForge.AssetId.site`, `SceneForge.Site.child` — the sites of an asset, and what lies in them.

## Main results

* `SceneForge.Depot.Evolves.stat?_of_apart` — a site is kept by whatever happens on other branches.
* `SceneForge.AssetId.site_uri`, `SceneForge.Site.uri_child` — the location texts of sites.
* `SceneForge.AssetId.Last.among` — the sites of the second phase.
-/

namespace SceneForge

/-! ## What happens elsewhere -/

namespace Event

/-- An event takes place at one of some ordinary sites. -/
def Among (P : Site → Prop) (e : Event) : Prop := ∃ s : Site, P s ∧ s.Ordinary ∧ e.uri = s.uri

/-- An event at one of some sites is one at one of more. -/
lemma Among.mono {P Q : Site → Prop} {e : Event} (h : e.Among P) (hPQ : ∀ s, P s → Q s) :
    e.Among Q := by
  obtain ⟨s, hs, hs'⟩ := h
  exact ⟨s, hPQ s hs, hs'⟩

end Event

namespace Depot

/-- A file with some contents is there. -/
def Holds (d : Depot) (uri : String) (data : Bytes) : Prop :=
  ∃ time, d.stat? uri = some (.file data time)

variable {d d' : Depot} {P : Site → Prop} {s : Site} {top : Location}

/-- An event at an ordinary site that is apart has its location on another branch. -/
lemma incomparable_of_among (htop : d.assigns.Rooted top) (hapart : ∀ t, P t → t.Apart s) {e : Event}
    {path : String} {loc : Location} (he : e.Among P) (hpath : d.assigns.resolve e.uri = .ok path)
    (hloc : locate path = some loc) :
    ¬ loc <+: s.location top ∧ ¬ s.location top <+: loc := by
  obtain ⟨t, ht, ht', heq⟩ := he
  obtain ⟨path', hpath', hloc'⟩ := htop t ht'
  rw [heq, hpath'] at hpath
  cases hpath
  rw [hloc'] at hloc
  cases hloc
  exact ⟨(hapart t ht).not_above top, (hapart t ht).symm.not_above top⟩

/-- **A site is kept** by whatever happens on other branches.

**Proof sketch.** What an event makes lies at its site or above, and what it removes lies there or
below; neither is the location of a site that is apart. -/
lemma Evolves.stat?_of_apart (h : Evolves (Event.Among P) d d') (htop : d.assigns.Rooted top)
    (hs : s.Ordinary) (hapart : ∀ t, P t → t.Apart s) : d'.stat? s.uri = d.stat? s.uri := by
  obtain ⟨path, hpath, hloc⟩ := htop s hs
  have hpath' : d'.assigns.resolve s.uri = .ok path := by rw [h.assigns, hpath]
  rw [stat?_eq_find? hpath hloc, stat?_eq_find? hpath' hloc]
  obtain ⟨events, hevents, hkind⟩ := h.journal
  have hamong : ∀ {j : Nat} {e : Event}, d.journal.length ≤ j → d'.journal[j]? = some e →
      e.Among P := by
    intro j e hj he
    rw [hevents, List.getElem?_append_right hj] at he
    exact hkind e (List.mem_of_getElem? he)
  cases h.fate (s.location top) with
  | kept same => exact same
  | removed since event removes gone =>
    cases removes with
    | directory resolved located below =>
      exact absurd below (incomparable_of_among htop hapart (hamong since event) resolved located).1
  | made since event makes holds time =>
    have he := hamong since event
    cases makes with
    | file resolved located =>
      exact absurd List.prefix_rfl (incomparable_of_among htop hapart he resolved located).1
    | holder resolved located above =>
      -- a directory made for a file lies right above the file
      obtain ⟨t, -, ht', heq⟩ := id he
      obtain ⟨p, hp, hl⟩ := htop t ht'
      rw [← heq, Event.uri, resolved] at hp
      cases hp
      have hdir := locate_dir hl
      rw [located] at hdir
      cases hdir
      exact absurd (above.trans (List.dropLast_prefix _))
        (incomparable_of_among htop hapart he resolved hl).2
    | directory resolved located above =>
      exact absurd above (incomparable_of_among htop hapart he resolved located).2

/-- A file is kept by whatever happens on other branches. -/
lemma Holds.of_apart {data : Bytes} (hfile : d.Holds s.uri data)
    (h : Evolves (Event.Among P) d d') (htop : d.assigns.Rooted top) (hs : s.Ordinary)
    (hapart : ∀ t, P t → t.Apart s) : d'.Holds s.uri data := by
  obtain ⟨time, htime⟩ := hfile
  exact ⟨time, by rw [h.stat?_of_apart htop hs hapart, htime]⟩

/-- A file that was written is there. -/
lemma holds_of_writeAll {uri : String} {data : Bytes}
    (h : (Job.writeAll uri data).run d = (.ok (), d')) : d'.Holds uri data :=
  ⟨_, (Job.stat?_of_writeAll h).1⟩

end Depot

/-! ## Sites of an asset -/

namespace Site

/-- A name in a site. -/
def child (s : Site) (name : String) : Site := { s with names := s.names ++ [name] }

variable {s : Site}

/-- A name in a site lies in the same area. -/
@[simp] lemma area_child (name : String) : (s.child name).area = s.area := rfl

/-- The location text of a name in a site. -/
lemma uri_child (h : s.names ≠ []) (name : String) : (s.child name).uri = s.uri ++ "/" ++ name := by
  have hjoin : Path.join (s.names.map String.toList ++ [name.toList]) =
      Path.join (s.names.map String.toList) ++ '/' :: name.toList :=
    Path.join_append (by simpa using h) (by simp)
  rw [← String.toList_inj]
  simp [uri, child, hjoin]

/-- An ordinary name in an ordinary site. -/
lemma Ordinary.child (h : s.Ordinary) {name : String} (hname : Path.Ordinary name.toList) :
    (s.child name).Ordinary where
  ne_nil := by simp [Site.child]
  names := by
    simp only [Site.child, List.forall_mem_append, List.forall_mem_singleton]
    exact ⟨h.names, hname⟩

/-- Different names in a site are apart. -/
lemma child_apart {name name' : String} (h : name ≠ name') : (s.child name).Apart (s.child name') :=
  apart_of_length (by simp [child]) (by simp [child, h])

end Site

namespace AssetId

variable {id : AssetId}

/-- The site of an asset in an area. -/
def site (id : AssetId) (area : Area) (ending : String) : Site :=
  ⟨area, [id.category, id.name ++ ending]⟩

/-- The area of a site of an asset. -/
@[simp] lemma area_site (id : AssetId) (area : Area) (ending : String) :
    (id.site area ending).area = area := rfl

/-- The location text of a site of an asset. -/
lemma site_uri (id : AssetId) (area : Area) (ending : String) :
    (id.site area ending).uri = id.located area ending := by
  rw [← String.toList_inj]
  simp [Site.uri, site, located, Path.join]

/-- The sites of an ordinary asset are ordinary. -/
lemma Ordinary.site (h : id.Ordinary) (area : Area) {ending : String}
    (hending : '/' ∉ ending.toList ∧ '\\' ∉ ending.toList) : (id.site area ending).Ordinary where
  ne_nil := by simp [AssetId.site]
  names := by
    simp only [AssetId.site, List.forall_mem_cons, List.not_mem_nil, false_imp_iff, implies_true,
      and_true, String.toList_append]
    exact ⟨h.category, h.name.append hending⟩

/-- The sites of an asset for which different endings are used are apart. -/
lemma site_apart {area : Area} {ending ending' : String} (h : ending ≠ ending') :
    (id.site area ending).Apart (id.site area ending') := by
  refine Site.apart_of_length rfl fun heq => h ?_
  have hnames : id.name ++ ending = id.name ++ ending' := by simpa [site] using heq
  simpa [← String.toList_inj] using hnames

/-- An event that takes place at a site and below one of an asset takes place in its area. -/
lemma area_of_below {area : Area} {ending : String} {e : Event} {s : Site} (he : e.uri = s.uri)
    (hbelow : e.Below (id.located area ending)) : s.area = area := by
  have hchars : ∃ rest, s.uri.toList = area.tag.toList ++ ':' :: rest := by
    rw [← he]
    cases hbelow with
    | here h => exact ⟨_, by rw [h]; simp [located]; rfl⟩
    | inside rest h => exact ⟨_, by rw [h]; simp [located]; rfl⟩
  obtain ⟨rest, hrest⟩ := hchars
  have hcut := Assigns.cutColon_uri s
  rw [hrest, Path.cutColon_append (by cases area <;> decide)] at hcut
  have htag : area.tag.toList = s.area.tag.toList := (Prod.mk.inj (Option.some.inj hcut)).1
  revert htag
  cases area <;> cases s.area <;> decide

/-- The sites of the second phase. -/
def LastSite (id : AssetId) (s : Site) : Prop :=
  s = id.site .model ".model" ∨ s = id.site .mesh "_ph.mesh" ∨ s = id.site .physics ".physmodel"

/-- **The second phase** takes place at three sites. -/
lemma Last.among {e : Event} (hid : id.Ordinary) (h : id.Last e) : e.Among id.LastSite := by
  have hsite : ∀ (area : Area) (ending : String),
      '/' ∉ ending.toList ∧ '\\' ∉ ending.toList → id.LastSite (id.site area ending) →
      (Event.create (id.located area ending)).Among id.LastSite := fun area ending hending hlast =>
    ⟨_, hlast, hid.site area hending, (site_uri id area ending).symm⟩
  cases h with
  | model h =>
    rw [h]
    exact hsite .model ".model" (by decide) (Or.inl rfl)
  | physicsMesh h =>
    rw [h]
    exact hsite .mesh "_ph.mesh" (by decide) (Or.inr (Or.inl rfl))
  | physicsModel h =>
    rw [h]
    exact hsite .physics ".physmodel" (by decide) (Or.inr (Or.inr rfl))

end AssetId

end SceneForge
