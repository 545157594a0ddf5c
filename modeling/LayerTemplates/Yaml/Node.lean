/-
  LayerTemplates.Yaml.Node
  ────────────────────────
  The nodes of a YAML document, and how tokens are put together to nodes.

  An alias stands for the node with its anchor, and the document is the tree in which
  all aliases are replaced.  A document is refused whose aliases multiply without
  measure or whose nodes are nested too deeply.
-/
import LayerTemplates.Yaml.Layout

namespace LayerTemplates.Yaml

/-! ## §1. Nodes. -/

/-- A node of a document. -/
inductive Node where
  | scalar (text : String) (form : ScalarForm) (tag : Option String)
  | list (items : List Node) (tag : Option String)
  | map (fields : List (Node × Node)) (tag : Option String)
  /-- A node that contains itself: an alias inside of the node it stands for. -/
  | endless
  deriving Repr, Inhabited

namespace Node

/-- A node that is left out. -/
def leftOut : Node := .scalar "" .plain none

mutual

/-- How many collections are nested in a node. -/
def height : Node → Nat
  | .list items _ => heightOfItems items + 1
  | .map fields _ => heightOfFields fields + 1
  | _ => 0

/-- The largest height of the items of a list. -/
def heightOfItems : List Node → Nat
  | [] => 0
  | item :: rest => max item.height (heightOfItems rest)

/-- The largest height of the keys and values of a map. -/
def heightOfFields : List (Node × Node) → Nat
  | [] => 0
  | (key, value) :: rest => max (max key.height value.height) (heightOfFields rest)

end

end Node

/-! ## §2. Reading tokens. -/

/-- An anchor: its node, and how many aliases the node replaces. -/
structure Anchor where
  name : String
  node : Node
  replaced : Nat
  deriving Inhabited

/-- The tokens that are left, and what was met among the tokens before. -/
structure NodeReader where
  tokens : List Token
  /-- What the handles of tags stand for. -/
  handles : List (String × String)
  anchors : Array Anchor := #[]
  /-- How many aliases were replaced so far, those inside of replacements included. -/
  replaced : Nat := 0
  /-- How many scalars, aliases and ends of collections were met. -/
  met : Nat := 0

/-- A step in reading nodes. -/
abbrev Reading := StateT NodeReader Option

namespace Reading

/-- Whether the next token is one of some kinds. -/
def nextIs (kind : Token → Bool) : Reading Bool := do
  return ((← get).tokens.head?.map kind).getD false

/-- Goes on behind the next token. -/
def skip : Reading Unit := modify fun r => { r with tokens := r.tokens.drop 1 }

/-- Goes on behind the next token if it is one of some kinds. -/
def skipIf (kind : Token → Bool) : Reading Bool := do
  if ← nextIs kind then do
    skip
    return true
  else return false

/-- Counts what was met. -/
def count (n : Nat) : Reading Unit := modify fun r => { r with met := r.met + n }

/-- A node that is left out. -/
def leftOut : Reading Node := do
  count 1
  return Node.leftOut

/-- The anchor before a node. -/
def anchor? : Reading (Option String) := do
  match (← get).tokens with
  | .anchor name :: _ => do
      skip
      return some name
  | _ => return none

/-- The tag before a node.  Its handle has to stand for something. -/
def tag? : Reading (Option String) := do
  let r ← get
  match r.tokens with
  | .tag handle suffix :: _ => do
      skip
      if handle.isEmpty then return some suffix
      else
        match r.handles.lookup handle with
        | some meaning => return some (meaning ++ suffix)
        | none => failure
  | _ => return none

/-- The node that an alias stands for: the last one so far with its name. -/
def replacement (name : String) : Reading Node := do
  count 1
  let r ← get
  match r.anchors.toList.reverse.find? (·.name == name) with
  | some anchor => do
      set { r with replaced := r.replaced + 1 + anchor.replaced }
      return anchor.node
  | none => failure

/-- Reads a node that may have an anchor.  While it is read, its anchor stands for a node
without end. -/
def anchored (name : Option String) (read : Reading Node) : Reading Node := do
  match name with
  | none => read
  | some name => do
      let before ← get
      set { before with anchors := before.anchors.push { name, node := .endless, replaced := 0 } }
      let node ← read
      modify fun r =>
        { r with anchors := r.anchors.setIfInBounds before.anchors.size
                   { name, node, replaced := r.replaced - before.replaced } }
      return node

end Reading

/-! ## §3. Nodes from tokens. -/

open Reading

/-- Whether a token ends an entry of a block map. -/
def endsEntry : Token → Bool
  | .key | .value | .blockEnd => true
  | _ => false

/-- Whether a token ends an item of a block list. -/
def endsItem : Token → Bool
  | .item | .blockEnd => true
  | _ => false

/-- Whether a token is the comma or the bracket behind an entry. -/
def endsFlowEntry (close : Token) (token : Token) : Bool := token == .comma || token == close

mutual

/-- A node.  In a block it can be a collection that is given by its indentation, and
below a key also a list whose dashes stand no further in than the key. -/
def readNode (fuel : Nat) (inBlock belowKey : Bool) : Reading Node :=
  match fuel with
  | 0 => failure
  | fuel + 1 => do
      match (← get).tokens with
      | .alias name :: _ => do
          skip
          replacement name
      | _ => do
          let anchor ← anchor?
          let tag ← tag?
          let anchor ← if anchor.isNone then anchor? else pure anchor
          anchored anchor (readContent fuel inBlock belowKey (anchor.isSome || tag.isSome) tag)

/-- A node behind its anchor and tag. -/
def readContent (fuel : Nat) (inBlock belowKey hasProperty : Bool) (tag : Option String) :
    Reading Node :=
  match fuel with
  | 0 => failure
  | fuel + 1 => do
      match (← get).tokens with
      | .scalar text form :: _ => do
          skip
          count 1
          return .scalar text form (if tag = some "!" then none else tag)
      | .openList :: _ => do
          skip
          count 2
          return .list (← readFlowList fuel true) tag
      | .openMap :: _ => do
          skip
          count 2
          return .map (← readFlowMap fuel true) tag
      | token :: _ => do
          if belowKey && token == .item then do
            count 2
            return .list (← readLevelList fuel) tag
          else if inBlock && token == .listStart then do
            skip
            count 2
            return .list (← readList fuel) tag
          else if inBlock && token == .mapStart then do
            skip
            count 2
            return .map (← readMap fuel) tag
          else if hasProperty then do
            count 1
            return .scalar "" .plain tag
          else failure
      | [] => failure

/-- The items of a list that indentation ends. -/
def readList (fuel : Nat) : Reading (List Node) :=
  match fuel with
  | 0 => failure
  | fuel + 1 => do
      if ← skipIf (· == .item) then do
        let item ← if ← nextIs endsItem then leftOut else readNode fuel true false
        return item :: (← readList fuel)
      else if ← skipIf (· == .blockEnd) then return []
      else failure

/-- The items of a list that ends with its last dash. -/
def readLevelList (fuel : Nat) : Reading (List Node) :=
  match fuel with
  | 0 => failure
  | fuel + 1 => do
      if ← skipIf (· == .item) then do
        let ended ← nextIs fun token => endsItem token || endsEntry token
        let item ← if ended then leftOut else readNode fuel true false
        return item :: (← readLevelList fuel)
      else return []

/-- The entries of a block map. -/
def readMap (fuel : Nat) : Reading (List (Node × Node)) :=
  match fuel with
  | 0 => failure
  | fuel + 1 => do
      if ← skipIf (· == .key) then do
        let key ← if ← nextIs endsEntry then leftOut else readNode fuel true true
        let value ←
          if ← skipIf (· == .value) then
            if ← nextIs endsEntry then leftOut else readNode fuel true true
          else leftOut
        return (key, value) :: (← readMap fuel)
      else if ← skipIf (· == .blockEnd) then return []
      else failure

/-- The value of an entry between brackets. -/
def readFlowValue (fuel : Nat) (close : Token) : Reading Node :=
  match fuel with
  | 0 => failure
  | fuel + 1 => do
      if ← skipIf (· == .value) then
        if ← nextIs (endsFlowEntry close) then leftOut else readNode fuel false false
      else leftOut

/-- The items of a list in brackets. -/
def readFlowList (fuel : Nat) (first : Bool) : Reading (List Node) :=
  match fuel with
  | 0 => failure
  | fuel + 1 => do
      if ← skipIf (· == .closeList) then return []
      else do
        let separated ← if first then pure true else skipIf (· == .comma)
        if !separated then failure
        else if ← skipIf (· == .closeList) then return []
        else if ← skipIf (· == .key) then do
          count 2
          let ended ← nextIs fun token => token == .value || endsFlowEntry .closeList token
          let key ←
            if ended then do
              skip
              leftOut
            else readNode fuel false false
          let value ← readFlowValue fuel .closeList
          return .map [(key, value)] none :: (← readFlowList fuel false)
        else do
          let item ← readNode fuel false false
          return item :: (← readFlowList fuel false)

/-- The entries of a map in brackets. -/
def readFlowMap (fuel : Nat) (first : Bool) : Reading (List (Node × Node)) :=
  match fuel with
  | 0 => failure
  | fuel + 1 => do
      if ← skipIf (· == .closeMap) then return []
      else do
        let separated ← if first then pure true else skipIf (· == .comma)
        if !separated then failure
        else if ← skipIf (· == .closeMap) then return []
        else if ← skipIf (· == .key) then do
          let ended ← nextIs fun token => token == .value || endsFlowEntry .closeMap token
          let key ← if ended then leftOut else readNode fuel false false
          let value ← readFlowValue fuel .closeMap
          return (key, value) :: (← readFlowMap fuel false)
        else do
          let key ← readNode fuel false false
          let value ← leftOut
          return (key, value) :: (← readFlowMap fuel false)

end

/-! ## §4. Documents. -/

/-- The meaning of the handles that every document has. -/
def standardHandles : List (String × String) := [("!", "!"), ("!!", "tag:yaml.org,2002:")]

/-- The directives at the front of a document: the handles they name, and the tokens
behind them.  There is one version at most, and it is 1.1 or 1.2. -/
def readDirectives (hasVersion : Bool) (handles : List (String × String)) :
    List Token → Option (List (String × String) × List Token)
  | .version major minor :: rest =>
      if hasVersion || major != 1 || (minor != 1 && minor != 2) then none
      else readDirectives true handles rest
  | .handle name meaning :: rest =>
      if (handles.lookup name).isSome then none
      else readDirectives hasVersion ((name, meaning) :: handles) rest
  | rest => some (handles, rest)

/-- Whether a document has no content before a token. -/
def endsDocument : Token → Bool
  | .version .. | .handle .. | .documentStart | .documentEnd => true
  | _ => false

/-- Whether nothing comes after a document. -/
def isLastDocument (tokens : List Token) : Bool := tokens.all (· == .documentEnd)

/-- Whether the aliases of a document are in proportion to it, and its nesting too. -/
def isMeasured (node : Node) (r : NodeReader) : Bool :=
  r.replaced ≤ 100 * r.met && node.height ≤ 128

/-- The node of a text that holds a single document.  A text without any is like a
document whose node is left out. -/
def Node.ofText? (text : String) : Option Node := do
  let tokens ← tokens? (← place? text)
  if tokens.isEmpty then return Node.leftOut
  else
    let (handles, content) ← readDirectives false [] tokens
    let (marked, content) := match content with
      | .documentStart :: rest => (true, rest)
      | content => (false, content)
    let bare := marked && (content.head?.map endsDocument).getD true
    if !marked && content.length < tokens.length then none
    else
      let reader : NodeReader := { tokens := content, handles := handles ++ standardHandles }
      let (node, r) ←
        (if bare then Reading.leftOut else readNode (4 * tokens.length + 4) true false).run reader
      if isLastDocument r.tokens && isMeasured node r then some node else none

end LayerTemplates.Yaml
