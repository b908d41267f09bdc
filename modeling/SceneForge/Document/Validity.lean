import SceneForge.Document.Basic

set_option autoImplicit false

/-!
# Validity of documents

A document is valid if every reference leads to an existing entry and no node is its own ancestor.
The checks are made in a fixed order and the first fault is reported.

## Main definitions

* `SceneForge.Document.firstFault?` — the first fault of a document.
* `SceneForge.Document.validate` — fails with the first fault.
* `SceneForge.Document.explore` — the depth-first search that finds cycles.
-/

namespace SceneForge.Document

/-- Entries with their positions. -/
def numbered {α : Type} (xs : List α) : List (Nat × α) := xs.zipIdx.map fun p => (p.2, p.1)

/-- A fault, unless a condition holds. -/
def faultUnless (ok : Bool) (text : String) : Option Failure :=
  if ok then none else some (badReference text)

/-- Whether an index lies within a sequence of length `n`. -/
def inRange (i : Int) (n : Nat) : Bool := 0 ≤ i && i < n

/-- A texture has an existing image. -/
def textureFault? (d : Document) : Option Failure :=
  (numbered d.textures).findSome? fun (i, t) =>
    faultUnless (t.source.validFor d.images.length) s!"texture {i}: source {t.source.text}"

/-- A material has existing textures. -/
def materialFault? (d : Document) : Option Failure :=
  (numbered d.materials).findSome? fun (i, m) =>
    [("baseColorTexture", m.baseColorTexture),
      ("metallicRoughnessTexture", m.metallicRoughnessTexture),
      ("normalTexture", m.normalTexture)].findSome? fun (slot, r) =>
        faultUnless (r.validFor d.textures.length) s!"material {i} ({m.name}): {slot} {r.text}"

/-- An image behind a view has its bytes. -/
def imageFault? (d : Document) : Option Failure :=
  (numbered d.images).findSome? fun (i, image) =>
    image.view.bind fun v =>
      match d.viewData v with
      | .ok _ => none
      | .error f => some (f.within s!"image {i}")

/-- A primitive has an existing material and draws existing vertices. -/
def shapeFault? (d : Document) : Option Failure :=
  (numbered d.meshes).findSome? fun (i, m) =>
    (numbered m.primitives).findSome? fun (j, p) =>
      faultUnless (p.material.validFor d.materials.length)
          s!"mesh {i} primitive {j}: material {p.material.text}" <|>
        (p.indices.getD []).findSome? fun k =>
          faultUnless (k.toNat < p.positions.length)
            s!"mesh {i} primitive {j}: vertex index {k.toNat} of {p.positions.length}"

/-- A node has an existing mesh, an existing skin and existing children. -/
def nodeFault? (d : Document) : Option Failure :=
  (numbered d.nodes).findSome? fun (i, n) =>
    faultUnless (n.mesh.validFor d.meshes.length) s!"node {i}: mesh {n.mesh.text}" <|>
      faultUnless (n.skin.validFor d.skins.length) s!"node {i}: skin {n.skin.text}" <|>
      n.children.findSome? fun c => faultUnless (inRange c d.nodes.length) s!"node {i}: child {c}"

/-- A skin has existing joints. -/
def skinFault? (d : Document) : Option Failure :=
  (numbered d.skins).findSome? fun (i, s) =>
    s.joints.findSome? fun j => faultUnless (inRange j d.nodes.length) s!"skin {i}: joint {j}"

/-- The default scene exists, and every scene has existing roots. -/
def sceneFault? (d : Document) : Option Failure :=
  faultUnless (d.defaultScene.validFor d.scenes.length) s!"default scene {d.defaultScene.text}" <|>
    (numbered d.scenes).findSome? fun (i, s) =>
      s.nodes.findSome? fun n => faultUnless (inRange n d.nodes.length) s!"scene {i}: node {n}"

/-! ## Cycles -/

/-- How far the search for cycles has come with a node. -/
inductive Mark where
  /-- Not seen. -/
  | unseen
  /-- On the current path. -/
  | active
  /-- Finished: no cycle can be reached. -/
  | finished
deriving DecidableEq, Inhabited

/-- The search from a node, depth first, carrying the marks of all nodes. The fuel bounds the length
of the current path, whose nodes are all different. -/
def explore (d : Document) : Nat → List Mark → Int → Except Failure (List Mark)
  | 0, _, i => .error (badReference s!"node {i}: cycle in hierarchy")
  | fuel + 1, marks, i =>
    match at? marks i with
    | some .active => .error (badReference s!"node {i}: cycle in hierarchy")
    | some .unseen =>
      let children := ((at? d.nodes i).map (·.children)).getD []
      match children.foldlM (explore d fuel) (marks.set i.toNat .active) with
      | .error f => .error f
      | .ok marks => .ok (marks.set i.toNat .finished)
    | _ => .ok marks

/-- No node is its own ancestor. -/
def cycleFault? (d : Document) : Option Failure :=
  let n := d.nodes.length
  match ((List.range n).map Int.ofNat).foldlM (explore d (n + 1)) (List.replicate n .unseen) with
  | .ok _ => none
  | .error f => some f

/-- The first fault of a document. -/
def firstFault? (d : Document) : Option Failure :=
  d.textureFault? <|> d.materialFault? <|> d.imageFault? <|> d.shapeFault? <|> d.nodeFault? <|>
    d.skinFault? <|> d.sceneFault? <|> d.cycleFault?

/-- A document passes if it has no fault. -/
def validate (d : Document) : Except Failure Unit :=
  match d.firstFault? with
  | none => .ok ()
  | some f => .error f

end SceneForge.Document
