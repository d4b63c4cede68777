import Conform.Yaml.Tag
import Conform.Yaml.Token.Layout

/-!
# Trees from tokens

The one document that a text may hold is read into a tree of nodes. An anchor names the node that it
stands before; a reference to it later in the text is that node. Names of anchors are not used
twice. A reference to the anchor of a node that it is in has no tree, and all that is kept of it is
that there was one.
-/

namespace Conform.Yaml

structure Reading where
  tokens : List Token
  /-- What happens when the tokens run out. -/
  failure : Failure
  /-- What the handles of tags stand for. -/
  handles : List (String × String)
  /-- The nodes of anchors; none while the node is being read. -/
  anchors : List (String × Option Node)
  /-- Whether a node referred to one that it is in. -/
  cyclic : Bool

abbrev TreeReader := StateT Reading (Except Failure)

namespace TreeReader

def fail {α : Type} : TreeReader α := throw .malformed

def peek : TreeReader Token := do
  let s ← get
  match s.tokens with
  | token :: _ => return token
  | [] => throw s.failure

/-- Past a token. -/
def skip : TreeReader Unit := modify fun s => { s with tokens := s.tokens.drop 1 }

/-- Whether the next token is of one of some kinds. -/
def nextIs (kinds : List TokenKind) : TreeReader Bool := do
  let token ← peek
  return kinds.contains token.kind

/-! ## Directives and properties -/

def defaultHandles : List (String × String) := [("!", "!"), ("!!", Tag.standard)]

/-- The directives before a document: at most one version, of the first major number, and handles
that differ from each other. -/
def directives : Nat → Bool → List (String × String) → TreeReader (List (String × String))
  | 0, _, _ => fail
  | fuel + 1, versioned, handles => do
    let token ← peek
    match token.kind with
    | .directive (.version major) =>
      if versioned ∨ major ≠ 1 then fail
      else do
        skip
        directives fuel true handles
    | .directive (.tagHandle handle start) =>
      if (handles.lookup handle).isSome then fail
      else do
        skip
        directives fuel versioned ((handle, start) :: handles)
    | .directive .reserved => do
      skip
      directives fuel versioned handles
    | _ => return handles

structure Properties where
  anchor : Option String
  tag : Option (Option String × String)
  start : Option Mark

/-- An anchor and a tag, in either order, each if it is there. -/
def properties : TreeReader Properties := do
  let first ← peek
  match first.kind with
  | .anchor name => do
    skip
    let second ← peek
    match second.kind with
    | .tag handle suffix => do
      skip
      return ⟨some name, some (handle, suffix), some first.start⟩
    | _ => return ⟨some name, none, some first.start⟩
  | .tag handle suffix => do
    skip
    let second ← peek
    match second.kind with
    | .anchor name => do
      skip
      return ⟨some name, some (handle, suffix), some first.start⟩
    | _ => return ⟨none, some (handle, suffix), some first.start⟩
  | _ => return ⟨none, none, none⟩

/-- The full name of a tag. -/
def tagName (tag : Option String × String) : TreeReader String := do
  match tag with
  | (none, suffix) => return suffix
  | (some handle, suffix) =>
    match (← get).handles.lookup handle with
    | some start => return start ++ suffix
    | none => fail

/-- The tag of a node: the one given, or the one that its content calls for. A lone exclamation mark
gives none. -/
def tagOr (given : Option String) (implied : Tag) : Tag :=
  match given with
  | some name => if name = "!" then implied else .ofName name
  | none => implied

/-- Begin the node of an anchor, whose name must be new. -/
def declare (anchor : Option String) : TreeReader Unit :=
  match anchor with
  | none => return
  | some name => do
    let s ← get
    if (s.anchors.lookup name).isSome then fail
    else set { s with anchors := (name, none) :: s.anchors }

/-- End the node of an anchor. -/
def define (anchor : Option String) (node : Node) : TreeReader Unit :=
  match anchor with
  | none => return
  | some name => modify fun s => { s with anchors := (name, some node) :: s.anchors }

/-- The node that a reference stands for; an empty sequence in the place of one that it is in. -/
def resolve (name : String) : TreeReader Node := do
  let s ← get
  match s.anchors.lookup name with
  | some (some node) => return node
  | some none => do
    set { s with cyclic := true }
    return .sequence .seq [] ⟨0, 0⟩
  | none => fail

/-- The node that stands where nothing is written. -/
def absent (mark : Mark) : Node := .scalar .null "" mark

/-! ## Nodes -/

/-- Where a node may be: in brackets, in a block, or in a mapping's block, where the entries of a
sequence need not be indented. -/
inductive Setting where
  | flow
  | block
  | mappingBlock
deriving DecidableEq

mutual

/-- A node. The fuel bounds the calls that are made without a token being read. -/
def node : Nat → Setting → TreeReader Node
  | 0, _ => fail
  | fuel + 1, setting => do
    let token ← peek
    match token.kind with
    | .reference name => do
      skip
      resolve name
    | _ => do
      let props ← properties
      let given ← props.tag.mapM tagName
      let token ← peek
      declare props.anchor
      let node ← content fuel setting given (props.start.getD token.start)
        (props.anchor.isSome || given.isSome) token
      define props.anchor node
      return node

/-- What comes after the properties of a node. -/
def content : Nat → Setting → Option String → Mark → Bool → Token → TreeReader Node
  | 0, _, _, _, _, _ => fail
  | fuel + 1, setting, given, start, qualified, token =>
    match token.kind with
    | .scalar text plain => do
      skip
      let implied := if plain || given = some "!" then Tag.ofText text else .str
      return .scalar (tagOr given implied) text start
    | .flowSequenceStart => do
      skip
      let items ← flowItems fuel true
      return .sequence (tagOr given .seq) items start
    | .flowMappingStart => do
      skip
      let entries ← flowEntries fuel true
      return .mapping (tagOr given .map) entries start
    | .blockEntry =>
      if setting = .mappingBlock then do
        let items ← bareItems fuel
        return .sequence (tagOr given .seq) items start
      else nothing given start qualified
    | .blockSequenceStart =>
      if setting = .flow then nothing given start qualified
      else do
        skip
        let items ← blockItems fuel
        return .sequence (tagOr given .seq) items start
    | .blockMappingStart =>
      if setting = .flow then nothing given start qualified
      else do
        skip
        let entries ← blockEntries fuel
        return .mapping (tagOr given .map) entries start
    | _ => nothing given start qualified

/-- No content: allowed after a property. -/
def nothing (given : Option String) (start : Mark) (qualified : Bool) : TreeReader Node :=
  if qualified then return .scalar (tagOr given (Tag.ofText "")) "" start else fail

/-- A node, or nothing before one of some tokens. -/
def nodeUnless : Nat → Setting → List TokenKind → Mark → TreeReader Node
  | 0, _, _, _ => fail
  | fuel + 1, setting, kinds, mark => do
    if ← nextIs kinds then return absent mark else node fuel setting

/-- The items of a sequence in a block of its own. -/
def blockItems : Nat → TreeReader (List Node)
  | 0 => fail
  | fuel + 1 => do
    let token ← peek
    match token.kind with
    | .blockEntry => do
      skip
      let first ← nodeUnless fuel .block [.blockEntry, .blockEnd] token.finish
      let others ← blockItems fuel
      return first :: others
    | .blockEnd => do
      skip
      return []
    | _ => fail

/-- The items of a sequence that is no more indented than the mapping it is in. -/
def bareItems : Nat → TreeReader (List Node)
  | 0 => fail
  | fuel + 1 => do
    let token ← peek
    match token.kind with
    | .blockEntry => do
      skip
      let first ← nodeUnless fuel .block [.blockEntry, .key, .value, .blockEnd] token.finish
      let others ← bareItems fuel
      return first :: others
    | _ => return []

/-- The entries of a mapping in a block. -/
def blockEntries : Nat → TreeReader (List (Node × Node))
  | 0 => fail
  | fuel + 1 => do
    let token ← peek
    match token.kind with
    | .key => do
      skip
      let key ← nodeUnless fuel .mappingBlock [.key, .value, .blockEnd] token.finish
      let value ← blockValue fuel
      let others ← blockEntries fuel
      return (key, value) :: others
    | .blockEnd => do
      skip
      return []
    | _ => fail

def blockValue : Nat → TreeReader Node
  | 0 => fail
  | fuel + 1 => do
    let token ← peek
    match token.kind with
    | .value => do
      skip
      nodeUnless fuel .mappingBlock [.key, .value, .blockEnd] token.finish
    | _ => return absent token.start

/-- A comma, which all items but the first need. -/
def comma (first : Bool) : TreeReader Unit := do
  if first then return
  else if ← nextIs [.flowEntry] then skip
  else fail

/-- The items of a sequence in brackets. A single entry of a mapping may stand as an item. -/
def flowItems : Nat → Bool → TreeReader (List Node)
  | 0, _ => fail
  | fuel + 1, first => do
    if ← nextIs [.flowSequenceEnd] then do
      skip
      return []
    else do
      comma first
      let token ← peek
      match token.kind with
      | .flowSequenceEnd => do
        skip
        return []
      | .key => do
        skip
        let key ← nodeUnless fuel .flow [.value, .flowEntry, .flowSequenceEnd] token.finish
        let value ← flowValue fuel .flowSequenceEnd
        let others ← flowItems fuel false
        return .mapping .map [(key, value)] token.start :: others
      | _ => do
        let item ← node fuel .flow
        let others ← flowItems fuel false
        return item :: others

/-- The entries of a mapping in braces. A key may stand without a value. -/
def flowEntries : Nat → Bool → TreeReader (List (Node × Node))
  | 0, _ => fail
  | fuel + 1, first => do
    if ← nextIs [.flowMappingEnd] then do
      skip
      return []
    else do
      comma first
      let token ← peek
      match token.kind with
      | .flowMappingEnd => do
        skip
        return []
      | .key => do
        skip
        let key ← nodeUnless fuel .flow [.value, .flowEntry, .flowMappingEnd] token.finish
        let value ← flowValue fuel .flowMappingEnd
        let others ← flowEntries fuel false
        return (key, value) :: others
      | _ => do
        let key ← node fuel .flow
        let next ← peek
        let others ← flowEntries fuel false
        return (key, absent next.start) :: others

def flowValue : Nat → TokenKind → TreeReader Node
  | 0, _ => fail
  | fuel + 1, closing => do
    let token ← peek
    match token.kind with
    | .value => do
      skip
      nodeUnless fuel .flow [.flowEntry, closing] token.finish
    | _ => return absent token.start

end

/-! ## Documents -/

/-- Past any marks of a document's end. -/
def skipEnds : Nat → TreeReader Unit
  | 0 => return
  | fuel + 1 => do
    if ← nextIs [.documentEnd] then do
      skip
      skipEnds fuel

/-- The root of a document that begins with directives or a mark of its start. -/
def explicitRoot (fuel : Nat) : TreeReader Node := do
  let handles ← directives fuel false []
  if !(← nextIs [.documentStart]) then fail
  else do
    skip
    modify fun s => { s with handles := handles ++ defaultHandles }
    let token ← peek
    match token.kind with
    | .directive _ => return absent token.start
    | .documentStart => return absent token.start
    | .documentEnd => return absent token.start
    | .streamEnd => return absent token.start
    | _ => node fuel .block

/-- The root of the only document; none if there is no document. -/
def root (fuel : Nat) : TreeReader (Option Node) := do
  let token ← peek
  match token.kind with
  | .streamEnd => return none
  | kind => do
    let explicit :=
      match kind with
      | .directive _ => true
      | .documentStart => true
      | _ => false
    let node ← if explicit then explicitRoot fuel else node fuel .block
    skipEnds fuel
    if ← nextIs [.streamEnd] then return some node else fail

end TreeReader

/-- What a text is read as: the tree of its document, if it has one, and whether a node referred to
one that it is in. -/
def read (text : List Char) : Except Failure (Option Node × Bool) := do
  let found := Tokens.ofText text
  let start : Reading := {
    tokens := found.tokens
    failure := found.failure.getD .malformed
    handles := TreeReader.defaultHandles
    anchors := []
    cyclic := false }
  let (root, s) ← (TreeReader.root (5 * found.tokens.length + 10)).run start
  .ok (root, s.cyclic)

/-- The tree of a text, if the text has a document. -/
def compose (text : List Char) : Except Failure (Option Node) := do
  let (root, cyclic) ← read text
  if cyclic then .error (.fault .selfContaining) else .ok root

end Conform.Yaml
