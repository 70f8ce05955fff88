import Brokerage.Yaml.Token

/-! # Nodes of a YAML document

Tokens are read as a tree of scalars, sequences and mappings. An alias stands for the node that
was anchored under its name.
-/

namespace Brokerage.Yaml

inductive Node where
  /-- A document without anything in it. -/
  | void
  | scalar (text : String) (style : Style) (tag : Option String)
  | sequence (items : List Node) (tag : Option String)
  | mapping (entries : List (Node × Node)) (tag : Option String)

namespace Node

instance : Inhabited Node := ⟨.void⟩

/-- The scalar that stands where nothing was written. -/
def missing : Node := .scalar "" .plain none

/-- The anchored nodes, newest first. -/
abbrev Anchors := List (String × Node)

/-- What is left after a piece of a document. -/
structure Rest where
  tokens : List Token
  anchors : Anchors

/-- The anchor and the tag in front of a node, in either order. -/
def properties : List Token → Option String × Option String × List Token
  | .anchor name :: .tag tag :: rest | .tag tag :: .anchor name :: rest => (name, tag, rest)
  | .anchor name :: rest => (name, none, rest)
  | .tag tag :: rest => (none, tag, rest)
  | rest => (none, none, rest)

/-- Whether nothing was written before one of these tokens. -/
def startsWith (ends : List Token) (r : Rest) : Bool := r.tokens.head?.any ends.contains

mutual

/-- A node. Outside of brackets it may be a block; the value of a key may be a sequence whose
entries stand in the column of the key. -/
def parse (block indentless : Bool) : Nat → Rest → Option (Node × Rest)
  | 0, _ => none
  | fuel + 1, r =>
    match r.tokens with
    | .alias name :: rest => (r.anchors.lookup name).map fun node => (node, ⟨rest, r.anchors⟩)
    | tokens =>
      let (anchor, tag, tokens) := properties tokens
      let content : Option (Node × Rest) :=
        match tokens with
        | .blockEntry :: _ =>
          if indentless then
            (parseIndentless fuel ⟨tokens, r.anchors⟩).map fun (items, r) =>
              (.sequence items tag, r)
          else if anchor.isSome || tag.isSome then
            some (.scalar "" .plain tag, ⟨tokens, r.anchors⟩)
          else none
        | .scalar text style :: rest => some (.scalar text style tag, ⟨rest, r.anchors⟩)
        | .flowSequenceStart :: rest =>
          (parseFlowItems true fuel ⟨rest, r.anchors⟩).map fun (items, r) =>
            (.sequence items tag, r)
        | .flowMappingStart :: rest =>
          (parseFlowEntries true fuel ⟨rest, r.anchors⟩).map fun (entries, r) =>
            (.mapping entries tag, r)
        | .blockSequenceStart :: rest =>
          if block then
            (parseItems fuel ⟨rest, r.anchors⟩).map fun (items, r) => (.sequence items tag, r)
          else none
        | .blockMappingStart :: rest =>
          if block then
            (parseEntries fuel ⟨rest, r.anchors⟩).map fun (entries, r) => (.mapping entries tag, r)
          else none
        | tokens =>
          if anchor.isSome || tag.isSome then some (.scalar "" .plain tag, ⟨tokens, r.anchors⟩)
          else none
      match content, anchor with
      | some (node, r), some name => some (node, ⟨r.tokens, (name, node) :: r.anchors⟩)
      | content, _ => content

/-- A node, or a missing one before the tokens given. -/
def parseOr (ends : List Token) (block indentless : Bool) : Nat → Rest → Option (Node × Rest)
  | 0, _ => none
  | fuel + 1, r =>
    if startsWith ends r then some (missing, r) else parse block indentless fuel r

/-- The items of a block sequence. -/
def parseItems : Nat → Rest → Option (List Node × Rest)
  | 0, _ => none
  | fuel + 1, r =>
    match r.tokens with
    | .blockEntry :: rest => do
      let (item, r) ← parseOr [.blockEntry, .blockEnd] true false fuel ⟨rest, r.anchors⟩
      let (items, r) ← parseItems fuel r
      return (item :: items, r)
    | .blockEnd :: rest => some ([], ⟨rest, r.anchors⟩)
    | _ => none

/-- The items of a sequence in the column of its key. -/
def parseIndentless : Nat → Rest → Option (List Node × Rest)
  | 0, _ => none
  | fuel + 1, r =>
    match r.tokens with
    | .blockEntry :: rest => do
      let (item, r) ←
        parseOr [.blockEntry, .key, .value, .blockEnd] true false fuel ⟨rest, r.anchors⟩
      let (items, r) ← parseIndentless fuel r
      return (item :: items, r)
    | _ => some ([], r)

/-- The entries of a block mapping. -/
def parseEntries : Nat → Rest → Option (List (Node × Node) × Rest)
  | 0, _ => none
  | fuel + 1, r => do
    let ends : List Token := [.key, .value, .blockEnd]
    match r.tokens with
    | .blockEnd :: rest => return ([], ⟨rest, r.anchors⟩)
    | .key :: rest =>
      let (key, r) ← parseOr ends true true fuel ⟨rest, r.anchors⟩
      let (value, r) ←
        match r.tokens with
        | .value :: rest => parseOr ends true true fuel ⟨rest, r.anchors⟩
        | _ => some (missing, r)
      let (entries, r) ← parseEntries fuel r
      return ((key, value) :: entries, r)
    | _ => none

/-- The items of a sequence in brackets; an item may be a mapping of one entry. -/
def parseFlowItems (first : Bool) : Nat → Rest → Option (List Node × Rest)
  | 0, _ => none
  | fuel + 1, r => do
    match r.tokens with
    | .flowSequenceEnd :: rest => return ([], ⟨rest, r.anchors⟩)
    | tokens =>
      let tokens ←
        if first then some tokens
        else
          match tokens with
          | .flowEntry :: rest => some rest
          | _ => none
      match tokens with
      | .flowSequenceEnd :: rest => return ([], ⟨rest, r.anchors⟩)
      | .key :: rest =>
        let (key, r) ←
          parseOr [.value, .flowEntry, .flowSequenceEnd] false false fuel ⟨rest, r.anchors⟩
        let (value, r) ←
          match r.tokens with
          | .value :: rest =>
            parseOr [.flowEntry, .flowSequenceEnd] false false fuel ⟨rest, r.anchors⟩
          | _ => some (missing, r)
        let (items, r) ← parseFlowItems false fuel r
        return (.mapping [(key, value)] none :: items, r)
      | tokens =>
        let (item, r) ← parse false false fuel ⟨tokens, r.anchors⟩
        let (items, r) ← parseFlowItems false fuel r
        return (item :: items, r)

/-- The entries of a mapping in braces; an entry may lack its value. -/
def parseFlowEntries (first : Bool) : Nat → Rest → Option (List (Node × Node) × Rest)
  | 0, _ => none
  | fuel + 1, r => do
    match r.tokens with
    | .flowMappingEnd :: rest => return ([], ⟨rest, r.anchors⟩)
    | tokens =>
      let tokens ←
        if first then some tokens
        else
          match tokens with
          | .flowEntry :: rest => some rest
          | _ => none
      match tokens with
      | .flowMappingEnd :: rest => return ([], ⟨rest, r.anchors⟩)
      | .key :: rest =>
        let (key, r) ←
          parseOr [.value, .flowEntry, .flowMappingEnd] false false fuel ⟨rest, r.anchors⟩
        let (value, r) ←
          match r.tokens with
          | .value :: rest =>
            parseOr [.flowEntry, .flowMappingEnd] false false fuel ⟨rest, r.anchors⟩
          | _ => some (missing, r)
        let (entries, r) ← parseFlowEntries false fuel r
        return ((key, value) :: entries, r)
      | tokens =>
        let (key, r) ← parse false false fuel ⟨tokens, r.anchors⟩
        let (entries, r) ← parseFlowEntries false fuel r
        return ((key, missing) :: entries, r)

end

/-- The one document of some tokens. Without a marker it begins with its content. -/
def ofTokens? (tokens : List Token) : Option Node := do
  let fuel := 3 * tokens.length + 3
  let finish (node : Node) (r : Rest) : Option Node :=
    if r.tokens.all (· = .documentEnd) then some node else none
  match tokens.dropWhile (· = .directive) with
  | [] => if tokens = [] then return .void else none
  | [.documentStart] => return missing
  | .documentStart :: rest =>
    let (node, r) ←
      parseOr [.directive, .documentStart, .documentEnd] true false fuel ⟨rest, []⟩
    finish node r
  | _ =>
    if tokens.head? = some .directive then none
    let (node, r) ← parse true false fuel ⟨tokens, []⟩
    finish node r

/-- The one document of a text; none if the text is broken or has several. -/
def ofText? (text : String) : Option Node := (Token.ofText? text).bind ofTokens?

end Node
end Brokerage.Yaml
