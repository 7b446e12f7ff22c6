import LineRuns.Document.Token

/-!
# Nodes of documents

A document is a tree of lists and mappings with scalars at its leaves, in block style or in flow
style. Plain scalars keep their text: what they stand for is settled later
(`LineRuns.Document.Scalar`). A reference is the node that it refers to. The tokens must be those
of one document; whatever is left out of an entry or an item is an absent node.
-/

namespace LineRuns.Document

/-- A node of a document. A tagged scalar has a tag of the standard handle; a node with any other
tag that is not its own kind's is `unknown`. -/
inductive Node
  | plain (t : Text)
  | text (t : Text)
  | tagged (kind t : Text)
  | list (items : List Node)
  | map (entries : List (Node × Node))
  | unknown
  deriving Repr

/-- The node of what is left out. -/
def Node.absent : Node :=
  .plain []

/-! ## The state of reading -/

/-- Tokens that are left, the nodes that have names, the handles for tags, and how many lists and
mappings are under way. A node under way has its name already. -/
structure Pending where
  tokens : List Token
  names : List (Text × Option Node)
  handles : List Text
  depth : Nat

/-- Reading of tokens. -/
abbrev NodeReader := StateT Pending Result

/-- Gives up at the next token. -/
def refuse {α : Type} : NodeReader α := do
  match (← get).tokens with
  | .broken e :: _ => throw e
  | _ => throw .malformed

/-- The next token. -/
def next? : NodeReader (Option Token) :=
  return (← get).tokens.head?

/-- Whether the next token is one of these. -/
def nextIs (tokens : List Token) : NodeReader Bool :=
  return (← get).tokens.head?.any tokens.contains

/-- Takes the next token. -/
def advance : NodeReader Unit :=
  modify fun s => { s with tokens := s.tokens.drop 1 }

/-- Takes a token that has to come next. -/
def expect (token : Token) : NodeReader Unit := do
  if ← nextIs [token] then advance else refuse

/-- The most lists and mappings that may be inside each other. -/
def depthLimit : Nat := 485

/-- Reads what is inside a list or a mapping, unless there are too many around it. -/
def inside {α : Type} (read : NodeReader α) : NodeReader α := do
  if depthLimit ≤ (← get).depth then throw (.content .tooDeep)
  modify fun s => { s with depth := s.depth + 1 }
  let found ← read
  modify fun s => { s with depth := s.depth - 1 }
  return found

/-! ## Names and tags -/

/-- The node of a name. -/
def referred (name : Text) : NodeReader Node := do
  match (← get).names.lookup name with
  | some (some node) => return node
  | _ => refuse

/-- A name for a node that is about to be read; no two nodes have one name. -/
def declare (name : Text) : NodeReader Unit := do
  if ((← get).names.lookup name).isSome then refuse
  else modify fun s => { s with names := (name, none) :: s.names }

/-- The node of a name is read. -/
def define (name : Text) (node : Node) : NodeReader Unit :=
  modify fun s => { s with names := (name, some node) :: s.names }

/-- What a tag says. -/
inductive Tag
  | lone
  | standard (kind : Text)
  | foreign
  deriving DecidableEq, Repr

/-- The tag of its name. A handle must be known; the first two need not be defined, and defined
anew they are foreign too. -/
def tagOf (name : TagName) : NodeReader Tag := do
  let handles := (← get).handles
  match name with
  | .lone => return .lone
  | .whole name => return if name = "!" then .lone else .foreign
  | .under handle kind =>
    if handles.contains handle || handle = "!" then return .foreign
    else if handle = "!!" then return .standard kind
    else refuse

/-- The name and the tag in front of a node, in either order. -/
def properties : NodeReader (Option Text × Option Tag) := do
  match ← next? with
  | some (.name name) =>
    advance
    match ← next? with
    | some (.tag tag) => advance; return (some name, some (← tagOf tag))
    | _ => return (some name, none)
  | some (.tag tag) =>
    advance
    match ← next? with
    | some (.name name) => advance; return (some name, some (← tagOf tag))
    | _ => return (none, some (← tagOf tag))
  | _ => return (none, none)

/-- The kinds that a tag of the standard handle can give a scalar. -/
def scalarKinds : List Text :=
  ["str", "null", "bool", "int", "float", "timestamp"].map Text.ofString

/-- A scalar under its tag. A lone exclamation mark makes it plain. -/
def Node.ofScalar (tag : Option Tag) (isPlain : Bool) (t : Text) : Node :=
  match tag with
  | none => if isPlain then .plain t else .text t
  | some .lone => .plain t
  | some (.standard kind) => if scalarKinds.contains kind then .tagged kind t else .unknown
  | some .foreign => .unknown

/-- A list or mapping under its tag. -/
def Node.ofCollection (tag : Option Tag) (kind : Text) (node : Node) : Node :=
  match tag with
  | none | some .lone => node
  | some tag => if tag = .standard kind then node else .unknown

/-! ## Nodes -/

/-- Where a node stands: inside brackets, in a block, or in an entry of a mapping, where the items
of a list may stand as deep as the entry itself. -/
inductive Setting
  | flow
  | block
  | entry
  deriving DecidableEq, Repr

mutual

/-- A node with its name and its tag. -/
def node (fuel : Nat) (setting : Setting) : NodeReader Node :=
  match fuel with
  | 0 => refuse
  | fuel + 1 => do
    match ← next? with
    | some (.reference name) =>
      advance
      referred name
    | _ =>
      let (name, tag) ← properties
      name.forM declare
      let found ← content fuel setting tag (name.isSome || tag.isSome)
      name.forM fun name => define name found
      return found

/-- A node after its name and its tag; with one of them it may be left out. -/
def content (fuel : Nat) (setting : Setting) (tag : Option Tag) (mayBeAbsent : Bool) :
    NodeReader Node :=
  match fuel with
  | 0 => refuse
  | fuel + 1 => do
    let inBlock := setting != .flow
    match ← next? with
    | some (.scalar isPlain t) =>
      advance
      return .ofScalar tag isPlain t
    | some .listOpen =>
      advance
      return .ofCollection tag "seq" (.list (← inside (flowItems fuel true)))
    | some .mapOpen =>
      advance
      return .ofCollection tag "map" (.map (← inside (flowEntries fuel true)))
    | token =>
      if token = some .item && setting == .entry then
        return .ofCollection tag "seq" (.list (← inside (items fuel false)))
      else if token = some .blockList && inBlock then
        advance
        return .ofCollection tag "seq" (.list (← inside (items fuel true)))
      else if token = some .blockMap && inBlock then
        advance
        return .ofCollection tag "map" (.map (← inside (entries fuel)))
      else if mayBeAbsent then return .ofScalar tag true []
      else refuse

/-- A node that may be left out before some tokens. -/
def nodeBefore (fuel : Nat) (setting : Setting) (ends : List Token) : NodeReader Node :=
  match fuel with
  | 0 => refuse
  | fuel + 1 => do if ← nextIs ends then return .absent else node fuel setting

/-- The items of a list in block style, up to the end of a block of its own. -/
def items (fuel : Nat) (ownBlock : Bool) : NodeReader (List Node) :=
  match fuel with
  | 0 => refuse
  | fuel + 1 => do
    if ← nextIs [.item] then
      advance
      let ends := if ownBlock then [.item, .blockEnd] else [.item, .key, .value, .blockEnd]
      let first ← nodeBefore fuel .block ends
      return first :: (← items fuel ownBlock)
    else if ownBlock then
      expect .blockEnd
      return []
    else return []

/-- The entries of a mapping in block style, up to the end of its block. -/
def entries (fuel : Nat) : NodeReader (List (Node × Node)) :=
  match fuel with
  | 0 => refuse
  | fuel + 1 => do
    if ← nextIs [.key, .value] then
      let ends := [.key, .value, .blockEnd]
      let key ← if ← nextIs [.key] then do advance; nodeBefore fuel .entry ends else refuse
      let value ←
        if ← nextIs [.value] then do advance; nodeBefore fuel .entry ends else pure .absent
      return (key, value) :: (← entries fuel)
    else
      expect .blockEnd
      return []

/-- The items of a list in flow style, up to its closing bracket. An item with a key is a mapping
with one entry. -/
def flowItems (fuel : Nat) (isFirst : Bool) : NodeReader (List Node) :=
  match fuel with
  | 0 => refuse
  | fuel + 1 => do
    if !isFirst then
      if !(← nextIs [.listClose]) then expect .comma
    if ← nextIs [.listClose] then
      advance
      return []
    else if ← nextIs [.key] then
      advance
      let entry ← inside do
        let key ← nodeBefore fuel .flow [.value, .comma, .listClose]
        return (key, ← flowValue fuel .listClose)
      return .map [entry] :: (← flowItems fuel false)
    else
      let first ← node fuel .flow
      return first :: (← flowItems fuel false)

/-- The entries of a mapping in flow style, up to its closing bracket. A node without a value is a
key too. -/
def flowEntries (fuel : Nat) (isFirst : Bool) : NodeReader (List (Node × Node)) :=
  match fuel with
  | 0 => refuse
  | fuel + 1 => do
    if !isFirst then
      if !(← nextIs [.mapClose]) then expect .comma
    if ← nextIs [.mapClose] then
      advance
      return []
    else if ← nextIs [.key] then
      advance
      let key ← nodeBefore fuel .flow [.value, .comma, .mapClose]
      let value ← flowValue fuel .mapClose
      return (key, value) :: (← flowEntries fuel false)
    else
      let key ← node fuel .flow
      return (key, .absent) :: (← flowEntries fuel false)

/-- The value after a key in flow style, which may be left out. -/
def flowValue (fuel : Nat) (close : Token) : NodeReader Node :=
  match fuel with
  | 0 => refuse
  | fuel + 1 => do
    if ← nextIs [.value] then
      advance
      nodeBefore fuel .flow [.comma, close]
    else return .absent

end

/-! ## Documents -/

/-- The directives in front of a document. There is at most one version, the first, and no handle
is defined twice. -/
def directives (hasVersion : Bool) : List Token → Option (List Text × List Token)
  | .directive d :: rest =>
    match d with
    | .version major => if hasVersion || major != 1 then none else directives true rest
    | .handle name => do
      let (handles, rest) ← directives hasVersion rest
      if handles.contains name then none else some (name :: handles, rest)
    | .other => directives hasVersion rest
  | tokens => some ([], tokens)

/-- The node of a document whose tokens begin after its start, and the tokens after it. Each step
takes a token or goes one deeper, so the fuel is enough. -/
def rootNode (setting : Setting) (isOpened : Bool) (handles : List Text) (tokens : List Token) :
    Result (Node × List Token) := do
  let isEmpty := match tokens with
    | [] | .directive _ :: _ | .documentStart :: _ | .documentEnd :: _ => true
    | _ => false
  if isOpened && isEmpty then return (.absent, tokens)
  else
    let (found, left) ← (node (6 * tokens.length + 6) setting).run ⟨tokens, [], handles, 0⟩
    return (found, left.tokens)

/-- Whether tokens only end a document. -/
def areEnds : List Token → Result Unit
  | [] => .ok ()
  | .documentEnd :: rest => areEnds rest
  | .broken e :: _ => .error e
  | _ => .error .malformed

/-- The node of the one document of the tokens; there is none without a document. -/
def rootOf (tokens : List Token) : Result (Option Node) := do
  let (isOpened, handles, tokens) ← match tokens with
    | [] => return none
    | .directive _ :: _ | .documentStart :: _ =>
      match directives false tokens with
      | some (handles, .documentStart :: rest) => pure (true, handles, rest)
      | some (_, .broken e :: _) => throw e
      | _ => throw .malformed
    | _ => pure (false, [], tokens)
  let (found, left) ← rootNode .block isOpened handles tokens
  areEnds left
  return some found

end LineRuns.Document
