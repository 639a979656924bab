import EntitySchema.Yaml.Lexer

/-!
# Nodes of a YAML document

A document is a tree of scalars, sequences and mappings.  An alias refers to a node by the slot
that an anchor gave it; the nodes of the slots are kept beside the tree, because an alias may also
stand inside the node it refers to.
-/

namespace EntitySchema
namespace Yaml

/-- A node of a document. -/
inductive Node
  | scalar (tag : Option String) (style : ScalarStyle) (text : String)
  | sequence (items : List Node)
  | mapping (entries : List (Node × Node))
  | alias (slot : Nat)

namespace Node

/-- The plain scalar without text, which stands where a node is left out. -/
def empty : Node := .scalar none .plain ""

end Node

/-- A node that an anchor gave a slot. -/
structure AnchoredNode where
  /-- The slot of the node. -/
  slot : Nat
  /-- The number of anchors before it in the document. -/
  order : Nat
  /-- The node. -/
  node : Node

/-- A document: its root node, if it has one, and the nodes that aliases refer to. -/
structure YamlDocument where
  /-- The root node. -/
  root : Option Node
  /-- The nodes with a slot. -/
  anchored : List AnchoredNode

namespace YamlDocument

/-- The node of a slot: of several nodes the one whose anchor comes last. -/
def nodeOf? (document : YamlDocument) (slot : Nat) : Option Node :=
  let later : Option AnchoredNode -> AnchoredNode -> Option AnchoredNode := fun best candidate =>
    match best with
    | some known => if known.order < candidate.order then some candidate else best
    | none => some candidate
  ((document.anchored.filter fun entry => entry.slot == slot).foldl later none).map
    AnchoredNode.node

end YamlDocument

/-! ## From tokens to nodes -/

/-- The state of building nodes from tokens. -/
structure Builder where
  /-- The tokens that are still to be used. -/
  tokens : List Token
  /-- The meaning of the tag handles. -/
  handles : List (String × String) := [("!", "!"), ("!!", "tag:yaml.org,2002:")]
  /-- The slots of the anchor names, the latest first. -/
  slots : List (String × Nat) := []
  /-- The number of anchors so far. -/
  anchorCount : Nat := 0
  /-- The finished nodes with a slot. -/
  anchored : List AnchoredNode := []

namespace Builder

/-- A step that builds something from tokens, unless they are in no valid order. -/
abbrev Step (α : Type) := StateT Builder Option α

/-- The next token. -/
def peek : Step Token := do
  return (← get).tokens.head?.getD .streamEnd

/-- Pass over the next token. -/
def skip : Step Unit :=
  modify fun builder => { builder with tokens := builder.tokens.drop 1 }

/-- Give up. -/
def fail : Step α := fun _ => none

/-- Pass over the next token, which must be the given one. -/
def expect (token : Token) : Step Unit := do
  if (← peek) = token then skip else fail

/-! ## Anchors and tags -/

/-- The number of distinct anchor names so far. -/
def nameCount (builder : Builder) : Nat :=
  (builder.slots.map Prod.fst).eraseDups.length

/-- Give a node that starts here the slot of a new anchor, and return how to finish the node. -/
def openAnchor (name : String) : Step (Node -> Step Unit) := do
  let builder ← get
  let slot := builder.nameCount
  let order := builder.anchorCount
  set { builder with slots := (name, slot) :: builder.slots, anchorCount := order + 1 }
  return fun node =>
    modify fun builder => { builder with anchored := ⟨slot, order, node⟩ :: builder.anchored }

/-- The node of an alias, whose anchor must come before it. -/
def aliasNode (name : String) : Step Node := do
  match (← get).slots.lookup name with
  | some slot => return .alias slot
  | none => fail

/-- The full tag for a handle and a suffix. -/
def fullTag (handle suffix : String) : Step String := do
  if handle.isEmpty then return suffix
  else
    match (← get).handles.lookup handle with
    | some meaning => return meaning ++ suffix
    | none => fail

/-- Read an anchor, if there is one. -/
def readAnchor : Step (Option String) := do
  match ← peek with
  | .anchor name => skip; return some name
  | _ => return none

/-- Read a tag, if there is one. -/
def readTagToken : Step (Option (String × String)) := do
  match ← peek with
  | .tag handle suffix => skip; return some (handle, suffix)
  | _ => return none

/-- Read the anchor and the tag of a node, in either order. -/
def readProperties : Step (Option String × Option (String × String)) := do
  match ← readAnchor with
  | some name => return (some name, ← readTagToken)
  | none =>
      let tag ← readTagToken
      if tag.isSome then return (← readAnchor, tag) else return (none, none)

/-! ## Collections -/

/-- Whether a token may not start a node of a block mapping. -/
def endsBlockEntry : Token -> Bool
  | .key => true
  | .value => true
  | .blockEnd => true
  | _ => false

mutual

/-- Build a node.  In a block, block collections are allowed, and as part of a mapping also a
sequence that is not indented further. -/
def buildNode : Nat -> Bool -> Bool -> Step Node
  | 0, _, _ => fail
  | fuel + 1, inBlock, unindented => do
      match ← peek with
      | .alias name => skip; aliasNode name
      | _ =>
          let (anchor, tagParts) ← readProperties
          let tag ← tagParts.mapM fun parts => fullTag parts.1 parts.2
          let finish ←
            match anchor with
            | some name => openAnchor name
            | none => pure fun _ => pure ()
          let node ← buildContent fuel inBlock unindented (anchor.isSome || tag.isSome)
            (tag.filter fun text => !text.isEmpty)
          finish node
          return node

/-- Build the content of a node after its properties. -/
def buildContent : Nat -> Bool -> Bool -> Bool -> Option String -> Step Node
  | 0, _, _, _, _ => fail
  | fuel + 1, inBlock, unindented, hasProperties, tag => do
      match ← peek with
      | .blockEntry =>
          if unindented then return .sequence (← buildUnindented fuel [])
          else if hasProperties then return .scalar tag .plain "" else fail
      | .scalar style text => skip; return .scalar tag style text
      | .flowSequenceStart => skip; return .sequence (← buildFlowSequence fuel true [])
      | .flowMappingStart => skip; return .mapping (← buildFlowMapping fuel true [])
      | .blockSequenceStart =>
          if inBlock then do skip; return .sequence (← buildBlockSequence fuel [])
          else if hasProperties then return .scalar tag .plain "" else fail
      | .blockMappingStart =>
          if inBlock then do skip; return .mapping (← buildBlockMapping fuel [])
          else if hasProperties then return .scalar tag .plain "" else fail
      | _ => if hasProperties then return .scalar tag .plain "" else fail

/-- Build the items of a block sequence. -/
def buildBlockSequence : Nat -> List Node -> Step (List Node)
  | 0, _ => fail
  | fuel + 1, reversed => do
      match ← peek with
      | .blockEntry => do
          skip
          match ← peek with
          | .blockEntry => buildBlockSequence fuel (.empty :: reversed)
          | .blockEnd => buildBlockSequence fuel (.empty :: reversed)
          | _ =>
              let item ← buildNode fuel true false
              buildBlockSequence fuel (item :: reversed)
      | .blockEnd => skip; return reversed.reverse
      | _ => fail

/-- Build the items of a sequence that is not indented further than its mapping. -/
def buildUnindented : Nat -> List Node -> Step (List Node)
  | 0, _ => fail
  | fuel + 1, reversed => do
      match ← peek with
      | .blockEntry => do
          skip
          let next ← peek
          if next = .blockEntry || endsBlockEntry next then
            buildUnindented fuel (.empty :: reversed)
          else
            let item ← buildNode fuel true false
            buildUnindented fuel (item :: reversed)
      | _ => return reversed.reverse

/-- Build a part of an entry of a block mapping, which may be left out. -/
def buildBlockPart : Nat -> Step Node
  | 0 => fail
  | fuel + 1 => do
      if endsBlockEntry (← peek) then return .empty else buildNode fuel true true

/-- Build the entries of a block mapping. -/
def buildBlockMapping : Nat -> List (Node × Node) -> Step (List (Node × Node))
  | 0, _ => fail
  | fuel + 1, reversed => do
      match ← peek with
      | .key => do
          skip
          let key ← buildBlockPart fuel
          match ← peek with
          | .value => do
              skip
              let value ← buildBlockPart fuel
              buildBlockMapping fuel ((key, value) :: reversed)
          | _ => buildBlockMapping fuel ((key, .empty) :: reversed)
      | .blockEnd => skip; return reversed.reverse
      | _ => fail

/-- Build the items of a flow sequence. -/
def buildFlowSequence : Nat -> Bool -> List Node -> Step (List Node)
  | 0, _, _ => fail
  | fuel + 1, first, reversed => do
      if (← peek) = .flowSequenceEnd then do skip; return reversed.reverse
      else
        if !first then expect .flowEntry
        match ← peek with
        | .flowSequenceEnd => skip; return reversed.reverse
        | .key => do
            skip
            let pair ← buildFlowPair fuel
            buildFlowSequence fuel false (.mapping [pair] :: reversed)
        | _ =>
            let item ← buildNode fuel false false
            buildFlowSequence fuel false (item :: reversed)

/-- Build a single entry of a mapping inside a flow sequence. -/
def buildFlowPair : Nat -> Step (Node × Node)
  | 0 => fail
  | fuel + 1 => do
      let next ← peek
      let key ←
        if next = .value || next = .flowEntry || next = .flowSequenceEnd then do
          skip
          pure Node.empty
        else buildNode fuel false false
      if (← peek) = .value then
        skip
        let following ← peek
        if following = .flowEntry || following = .flowSequenceEnd then return (key, .empty)
        else return (key, ← buildNode fuel false false)
      else return (key, .empty)

/-- Build the entries of a flow mapping. -/
def buildFlowMapping : Nat -> Bool -> List (Node × Node) -> Step (List (Node × Node))
  | 0, _, _ => fail
  | fuel + 1, first, reversed => do
      if (← peek) = .flowMappingEnd then do skip; return reversed.reverse
      else
        if !first then expect .flowEntry
        match ← peek with
        | .flowMappingEnd => skip; return reversed.reverse
        | .key => do
            skip
            let next ← peek
            let key ←
              if next = .value || next = .flowEntry || next = .flowMappingEnd then
                pure Node.empty
              else buildNode fuel false false
            let value ← buildFlowValue fuel
            buildFlowMapping fuel false ((key, value) :: reversed)
        | _ =>
            let key ← buildNode fuel false false
            buildFlowMapping fuel false ((key, .empty) :: reversed)

/-- Build the value of an entry of a flow mapping, which may be left out. -/
def buildFlowValue : Nat -> Step Node
  | 0 => fail
  | fuel + 1 => do
      if (← peek) = .value then
        skip
        let next ← peek
        if next = .flowEntry || next = .flowMappingEnd then return .empty
        else buildNode fuel false false
      else return .empty

end

/-! ## Documents -/

/-- Read the directives of a document; nothing may be said twice. -/
def readDirectives : Nat -> Bool -> List String -> Step Unit
  | 0, _, _ => fail
  | fuel + 1, versionSeen, handlesSeen => do
      match ← peek with
      | .version major minor =>
          if versionSeen || major != 1 || (minor != 1 && minor != 2) then fail
          else do skip; readDirectives fuel true handlesSeen
      | .tagHandle handle meaning =>
          if handlesSeen.contains handle then fail
          else do
            skip
            modify fun builder => { builder with handles := (handle, meaning) :: builder.handles }
            readDirectives fuel versionSeen (handle :: handlesSeen)
      | _ => return ()

/-- Whether a token leaves the content of a document out. -/
def endsDocument : Token -> Bool
  | .version _ _ => true
  | .tagHandle _ _ => true
  | .documentStart => true
  | .documentEnd => true
  | .streamEnd => true
  | _ => false

/-- Pass over the marks at the end of a document and make sure that nothing follows. -/
def expectEnd : Nat -> Step Unit
  | 0 => fail
  | fuel + 1 => do
      match ← peek with
      | .documentEnd => skip; expectEnd fuel
      | .streamEnd => return ()
      | _ => fail

/-- Whether a token starts a document with marks. -/
def startsExplicitly : Token -> Bool
  | .version _ _ => true
  | .tagHandle _ _ => true
  | .documentStart => true
  | _ => false

/-- Build the only document of a list of tokens, with the given bound on the number of steps. -/
def buildDocument (bound : Nat) : Step (Option Node) := do
  let first ← peek
  if first = .streamEnd then return none
  else if startsExplicitly first then
    readDirectives bound false []
    expect .documentStart
    let root ←
      if endsDocument (← peek) then pure Node.empty else buildNode bound true false
    expectEnd bound
    return some root
  else
    let root ← buildNode bound true false
    expectEnd bound
    return some root

end Builder

/-- Read a text that holds at most one document. -/
def YamlDocument.read? (text : String) : Option YamlDocument := do
  let tokens ← tokens? text
  let (root, builder) ← (Builder.buildDocument (3 * tokens.length + 3)).run { tokens }
  some { root, anchored := builder.anchored }

end Yaml
end EntitySchema
