import SceneForge.Yaml.Scalar

set_option autoImplicit false

/-!
# YAML nodes

The tokens of a text put together: scalars, sequences and mappings. Only the first document of a
text is read.

## Main definitions

* `SceneForge.Yaml.Node` — scalars, sequences and mappings, with anchors resolved.
* `SceneForge.Yaml.Node.ofTokens?` — the first document, if the tokens form one.
* `SceneForge.Yaml.Node.read?` — the first document of a text; a text may have none.
-/

namespace SceneForge.Yaml

/-- A part of a YAML document, with the line on which it starts. -/
inductive Node where
  /-- A scalar with its tag, and whether it was written without quotes. -/
  | scalar (text tag : String) (plain : Bool) (line : Nat)
  /-- A sequence. -/
  | seq (items : List Node) (line : Nat)
  /-- A mapping; keys may be any node. -/
  | map (entries : List (Node × Node)) (line : Nat)
  /-- A reference to a collection from inside it. -/
  | cycle
deriving Inhabited

/-- The state of putting tokens together. -/
structure Assembly where
  /-- The tokens that are left. -/
  input : List Token
  /-- The nodes that have names, the latest first. -/
  anchors : List (String × Node) := []
  /-- The tag handles and what they stand for. -/
  handles : List (String × String) := []

/-- Putting tokens together, or finding that they do not fit. -/
abbrev Assemble (α : Type) := StateT Assembly Option α

namespace Assemble

/-- The next token. A text that breaks off within the next three tokens has none. -/
def peek : Assemble Token := do
  let s ← get
  if (s.input.take 3).contains .broken then failure
  else return s.input.headD .streamEnd

/-- The next token is used up. -/
def skip : Assemble Unit := modify fun s => { s with input := s.input.drop 1 }

/-- The node is named. -/
def bind (name : Option String) (node : Node) : Assemble Unit :=
  match name with
  | some n => modify fun s => { s with anchors := (n, node) :: s.anchors }
  | none => return ()

/-- The node of a name. -/
def lookup (name : String) : Assemble Node := do
  match (← get).anchors.find? fun a => a.1 == name with
  | some (_, node) => return node
  | none => failure

/-- A tag in full. -/
def fullTag (handle suffix : String) : Assemble String := do
  if handle.isEmpty then return suffix
  match (← get).handles.find? fun h => h.1 == handle with
  | some (_, expansion) => return expansion ++ suffix
  | none =>
    if handle == "!" then return "!" ++ suffix
    else if handle == "!!" then return Scalar.standard ++ suffix
    else failure

/-- An anchor and a tag in front of a node, in any order. -/
def properties : Assemble (Option String × String) := do
  match ← peek with
  | .anchor name =>
    skip
    match ← peek with
    | .tag handle suffix => skip; return (some name, ← fullTag handle suffix)
    | _ => return (some name, "")
  | .tag handle suffix =>
    skip
    match ← peek with
    | .anchor name => skip; return (some name, ← fullTag handle suffix)
    | _ => return (none, ← fullTag handle suffix)
  | _ => return (none, "")

end Assemble

open Assemble

/-- A node that is not written out. -/
def Node.empty : Node := .scalar "" "" true 0

/-- Tokens that end a block entry. -/
def endsEntry (t : Token) : Bool := t == .entry || t == .blockEnd

/-- Tokens that end a key or value of a block mapping. -/
def endsPair (t : Token) : Bool := t == .key || t == .value || t == .blockEnd

/-- Tokens that end a key in brackets. -/
def endsFlowKey (close t : Token) : Bool := t == .value || t == .flowEntry || t == close

/-- Tokens that end a value in brackets. -/
def endsFlowValue (close t : Token) : Bool := t == .flowEntry || t == close

/-- Whether a block mapping or a block sequence starts, and on which line. -/
def Token.blockStart? : Token → Option (Bool × Nat)
  | .seqStart line => some (false, line)
  | .mapStart line => some (true, line)
  | _ => none

mutual

/-- A node; block collections and sequences without indentation only where they may stand. -/
def node (block compact : Bool) : Nat → Assemble Node
  | 0 => failure
  | fuel + 1 => do
    match ← peek with
    | .alias name => skip; lookup name
    | _ =>
      let (name, tag) ← properties
      let collect (body : Assemble Node) : Assemble Node := do
        Assemble.bind name .cycle
        let n ← body
        Assemble.bind name n
        return n
      match ← peek with
      | .scalar text plain line =>
        skip
        let n := Node.scalar text tag plain line
        Assemble.bind name n
        return n
      | .flowSeqStart line => collect do skip; return .seq (← flowItems true [] fuel) line
      | .flowMapStart line => collect do skip; return .map (← flowPairs true [] fuel) line
      | t =>
        let start := if block then t.blockStart? else none
        if compact && t == .entry then collect do return .seq (← compactItems [] fuel) 0
        else if let some (false, line) := start then
          collect do skip; return .seq (← blockItems [] fuel) line
        else if let some (true, line) := start then
          collect do skip; return .map (← blockPairs [] fuel) line
        else if name.isSome || tag != "" then
          let n := Node.scalar "" tag true 0
          Assemble.bind name n
          return n
        else failure

/-- The entries of a block sequence. -/
def blockItems (acc : List Node) : Nat → Assemble (List Node)
  | 0 => failure
  | fuel + 1 => do
    match ← peek with
    | .entry =>
      skip
      let item ← if endsEntry (← peek) then pure Node.empty else node true false fuel
      blockItems (item :: acc) fuel
    | .blockEnd => skip; return acc.reverse
    | _ => failure

/-- The entries of a block sequence that is not indented below its key. -/
def compactItems (acc : List Node) : Nat → Assemble (List Node)
  | 0 => failure
  | fuel + 1 => do
    match ← peek with
    | .entry =>
      skip
      let t ← peek
      let item ← if endsEntry t || endsPair t then pure Node.empty else node true false fuel
      compactItems (item :: acc) fuel
    | _ => return acc.reverse

/-- The pairs of a block mapping. -/
def blockPairs (acc : List (Node × Node)) : Nat → Assemble (List (Node × Node))
  | 0 => failure
  | fuel + 1 => do
    match ← peek with
    | .key =>
      skip
      let key ← if endsPair (← peek) then pure Node.empty else node true true fuel
      let value ← match ← peek with
        | .value =>
          skip
          if endsPair (← peek) then pure Node.empty else node true true fuel
        | _ => pure Node.empty
      blockPairs ((key, value) :: acc) fuel
    | .blockEnd => skip; return acc.reverse
    | _ => failure

/-- The items between square brackets; a pair is a mapping of its own. -/
def flowItems (first : Bool) (acc : List Node) : Nat → Assemble (List Node)
  | 0 => failure
  | fuel + 1 => do
    if (← peek) == .flowSeqEnd then skip; return acc.reverse
    if !first then
      if (← peek) == .flowEntry then skip else failure
    match ← peek with
    | .flowSeqEnd => skip; return acc.reverse
    | .key =>
      skip
      let key ← if endsFlowKey .flowSeqEnd (← peek) then skip; pure Node.empty
        else node false false fuel
      let value ← match ← peek with
        | .value =>
          skip
          if endsFlowValue .flowSeqEnd (← peek) then pure Node.empty else node false false fuel
        | _ => pure Node.empty
      flowItems false (.map [(key, value)] 0 :: acc) fuel
    | _ => flowItems false ((← node false false fuel) :: acc) fuel

/-- The pairs between braces. -/
def flowPairs (first : Bool) (acc : List (Node × Node)) : Nat → Assemble (List (Node × Node))
  | 0 => failure
  | fuel + 1 => do
    if (← peek) == .flowMapEnd then skip; return acc.reverse
    if !first then
      if (← peek) == .flowEntry then skip else failure
    match ← peek with
    | .flowMapEnd => skip; return acc.reverse
    | .key =>
      skip
      let key ← if endsFlowKey .flowMapEnd (← peek) then pure Node.empty else node false false fuel
      let value ← match ← peek with
        | .value =>
          skip
          if endsFlowValue .flowMapEnd (← peek) then pure Node.empty else node false false fuel
        | _ => pure Node.empty
      flowPairs false ((key, value) :: acc) fuel
    | _ => flowPairs false ((← node false false fuel, Node.empty) :: acc) fuel

end

/-- The directives in front of a document: at most one version, which has to be 1.1, and each tag
handle once. -/
def directives (versioned : Bool) : Nat → Assemble Unit
  | 0 => failure
  | fuel + 1 => do
    match ← peek with
    | .version major minor =>
      if versioned || major != 1 || minor != 1 then failure
      skip
      directives true fuel
    | .shorthand handle expansion =>
      if (← get).handles.any fun h => h.1 == handle then failure
      modify fun s => { s with handles := (handle, expansion) :: s.handles }
      skip
      directives versioned fuel
    | _ => return ()

/-- The first document, or none if the text has none. -/
def document (fuel : Nat) : Assemble (Option Node) := do
  let body : Assemble (Option Node) := do
    let n ← node true false fuel
    let _ ← peek
    return some n
  match ← peek with
  | .streamEnd => return none
  | .version _ _ | .shorthand _ _ | .docStart =>
    directives false fuel
    if (← peek) != .docStart then failure
    skip
    match ← peek with
    | .version _ _ | .shorthand _ _ | .docStart | .docEnd | .streamEnd => return some Node.empty
    | _ => body
  | _ => body

namespace Node

/-- The first document of a list of tokens: `none` if they do not form one, and no node if there is
no document at all. -/
def ofTokens? (ts : List Token) : Option (Option Node) :=
  ((document (2 * ts.length + 8)).run { input := ts }).map (·.1)

/-- The first document of a text. -/
def read? (text : Bytes) : Option (Option Node) := ofTokens? (tokens text)

end Node

end SceneForge.Yaml
