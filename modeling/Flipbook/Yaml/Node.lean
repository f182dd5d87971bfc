import Flipbook.Yaml.Tag
import Flipbook.Yaml.Timestamp
import Flipbook.Yaml.Token

/-!
# From tokens to nodes

A document is a tree of nodes, each of a kind.  A node may get a name and be referred to under it
further on; the tree then holds it at every such place.
-/

namespace Flipbook.Yaml

/-- A part of a document. -/
inductive Node
  | scalar (tag : Tag) (text : String)
  | sequence (tag : Tag) (items : List Node)
  | mapping (tag : Tag) (entries : List (Node × Node))

namespace Tag

/-- The kind of a scalar without a kind: a plain one is known by its form. -/
def ofScalar (plain : Bool) (text : String) : Tag :=
  if !plain then str
  else if isBool text then bool
  else if isFloat text then float
  else if isInt text then int
  else if text == "<<" then merge
  else if isNull text then null
  else if Timestamp.isKnown text then timestamp
  else if text == "=" then value
  else str

end Tag

/-- The node for something that is left out. -/
def Node.missing : Node := .scalar .null ""

/-- What stands before the content of a node. -/
structure NodeHead where
  anchor? : Option String := none
  /-- The full name of the kind; an exclamation mark alone asks to know it by the form. -/
  tag? : Option String := none

namespace NodeHead

/-- The kind, or what it is without one. -/
def tag (h : NodeHead) (default : Tag) : Tag :=
  match h.tag? with
  | none | some "!" => default
  | some name => Tag.ofName name

/-- The kind of a scalar. -/
def scalarTag (h : NodeHead) (plain : Bool) (text : String) : Tag :=
  h.tag (Tag.ofScalar (plain || h.tag? == some "!") text)

end NodeHead

/-- A document that is being read. -/
structure Reading where
  tokens : List Token
  /-- What the handles of kinds stand for. -/
  handles : List (String × String) := []
  /-- The names that nodes have been given. -/
  names : List String := []
  /-- The nodes that have been read to their end, by their names. -/
  nodes : List (String × Node) := []

namespace Reading

/-- A step of reading. -/
abbrev Step (β : Type) := Reading → Except ReadFault (β × Reading)

/-- The text does not follow the grammar. -/
def refuse {β : Type} : Except ReadFault β := .error .malformed

/-- The next token is one of some. -/
def nextIs (r : Reading) (ts : List Token) : Bool := r.tokens.head?.any ts.contains

/-- The reading after the next token. -/
def skip (r : Reading) : Reading := { r with tokens := r.tokens.drop 1 }

/-- The full name of a kind. -/
def tagName (r : Reading) : Option String → String → Except ReadFault String
  | none, name => .ok name
  | some handle, name => match r.handles.lookup handle with
    | some beginning => .ok (beginning ++ name)
    | none => refuse

/-- The anchor and the kind before a node, in either order. -/
def head (r : Reading) : Except ReadFault (NodeHead × Reading) := do
  match r.tokens with
  | .anchor a :: .tag h n :: rest =>
    return (⟨some a, some (← r.tagName h n)⟩, { r with tokens := rest })
  | .tag h n :: .anchor a :: rest =>
    return (⟨some a, some (← r.tagName h n)⟩, { r with tokens := rest })
  | .anchor a :: rest => return ({ anchor? := some a }, { r with tokens := rest })
  | .tag h n :: rest => return ({ tag? := some (← r.tagName h n) }, { r with tokens := rest })
  | _ => return ({}, r)

/-- Gives a name, which must be new. -/
def declare (r : Reading) : Option String → Except ReadFault Reading
  | none => .ok r
  | some a => if r.names.contains a then refuse else .ok { r with names := a :: r.names }

/-- Keeps a node under its name. -/
def keep (r : Reading) (h : NodeHead) (n : Node) : Node × Reading :=
  match h.anchor? with
  | none => (n, r)
  | some a => (n, { r with nodes := (a, n) :: r.nodes })

/-- Where a node stands. -/
inductive Context
  /-- Between brackets. -/
  | flow
  /-- In a block. -/
  | block
  /-- In a mapping that is a block, where the entries of a sequence need not be indented. -/
  | blockMapping
  deriving DecidableEq

mutual

/-- The next node.  `fuel` bounds the depth of the steps. -/
def node (context : Context) : (fuel : Nat) → Step Node
  | 0, _ => refuse
  | fuel + 1, r =>
    match r.tokens with
    | .reference name :: rest => match r.nodes.lookup name with
      | some n => .ok (n, { r with tokens := rest })
      | none => refuse
    | _ => do
      let (h, r) ← r.head
      let r ← r.declare h.anchor?
      let (n, r) ← content context h fuel r
      return r.keep h n

/-- What follows the head of a node. -/
def content (context : Context) (h : NodeHead) : (fuel : Nat) → Step Node
  | 0, _ => refuse
  | fuel + 1, r =>
    match r.tokens, context with
    | .blockEntry :: _, .blockMapping => do
      let (items, r) ← looseItems fuel r
      return (.sequence (h.tag .seq) items, r)
    | .scalar plain text :: _, _ => .ok (.scalar (h.scalarTag plain text) text, r.skip)
    | .flowSequenceStart :: _, _ => do
      let (items, r) ← flowItems true fuel r.skip
      return (.sequence (h.tag .seq) items, r)
    | .flowMappingStart :: _, _ => do
      let (entries, r) ← flowEntries true fuel r.skip
      return (.mapping (h.tag .map) entries, r)
    | .blockSequenceStart :: _, .block | .blockSequenceStart :: _, .blockMapping => do
      let (items, r) ← blockItems fuel r.skip
      return (.sequence (h.tag .seq) items, r)
    | .blockMappingStart :: _, .block | .blockMappingStart :: _, .blockMapping => do
      let (entries, r) ← blockEntries fuel r.skip
      return (.mapping (h.tag .map) entries, r)
    | _, _ =>
      if h.anchor?.isSome || h.tag?.isSome then
        .ok (.scalar (h.tag (Tag.ofScalar true "")) "", r)
      else refuse

/-- The next node, or a missing one before one of some tokens. -/
def nodeUnless (stops : List Token) (context : Context) : (fuel : Nat) → Step Node
  | 0, _ => refuse
  | fuel + 1, r => if r.nextIs stops then .ok (.missing, r) else node context fuel r

/-- The items of a sequence that is a block. -/
def blockItems : (fuel : Nat) → Step (List Node)
  | 0, _ => refuse
  | fuel + 1, r =>
    match r.tokens with
    | .blockEntry :: _ => do
      let (n, r) ← nodeUnless [.blockEntry, .blockEnd] .block fuel r.skip
      let (ns, r) ← blockItems fuel r
      return (n :: ns, r)
    | .blockEnd :: _ => .ok ([], r.skip)
    | _ => refuse

/-- The items of a sequence whose entries are not indented. -/
def looseItems : (fuel : Nat) → Step (List Node)
  | 0, _ => refuse
  | fuel + 1, r =>
    match r.tokens with
    | .blockEntry :: _ => do
      let (n, r) ← nodeUnless [.blockEntry, .key, .value, .blockEnd] .block fuel r.skip
      let (ns, r) ← looseItems fuel r
      return (n :: ns, r)
    | _ => .ok ([], r)

/-- The entries of a mapping that is a block. -/
def blockEntries : (fuel : Nat) → Step (List (Node × Node))
  | 0, _ => refuse
  | fuel + 1, r =>
    match r.tokens with
    | .key :: _ => do
      let stops := [Token.key, .value, .blockEnd]
      let (k, r) ← nodeUnless stops .blockMapping fuel r.skip
      let (v, r) ←
        if r.nextIs [.value] then nodeUnless stops .blockMapping fuel r.skip
        else pure (.missing, r)
      let (es, r) ← blockEntries fuel r
      return ((k, v) :: es, r)
    | .blockEnd :: _ => .ok ([], r.skip)
    | _ => refuse

/-- A key and its value between brackets, from the sign of the key on. -/
def flowEntry (close : Token) : (fuel : Nat) → Step (Node × Node)
  | 0, _ => refuse
  | fuel + 1, r => do
    let (k, r) ← nodeUnless [.value, .flowEntry, close] .flow fuel r.skip
    let (v, r) ←
      if r.nextIs [.value] then nodeUnless [.flowEntry, close] .flow fuel r.skip
      else pure (.missing, r)
    return ((k, v), r)

/-- The items of a sequence between brackets; a pair among them is a mapping of its own. -/
def flowItems (first : Bool) : (fuel : Nat) → Step (List Node)
  | 0, _ => refuse
  | fuel + 1, r => do
    let close := Token.flowSequenceEnd
    if r.nextIs [close] then return ([], r.skip)
    let r ← if first then pure r else if r.nextIs [.flowEntry] then pure r.skip else refuse
    if r.nextIs [close] then return ([], r.skip)
    let (n, r) ←
      if r.nextIs [.key] then do
        let (e, r) ← flowEntry close fuel r
        pure (Node.mapping .map [e], r)
      else node .flow fuel r
    let (ns, r) ← flowItems false fuel r
    return (n :: ns, r)

/-- The entries of a mapping between brackets. -/
def flowEntries (first : Bool) : (fuel : Nat) → Step (List (Node × Node))
  | 0, _ => refuse
  | fuel + 1, r => do
    let close := Token.flowMappingEnd
    if r.nextIs [close] then return ([], r.skip)
    let r ← if first then pure r else if r.nextIs [.flowEntry] then pure r.skip else refuse
    if r.nextIs [close] then return ([], r.skip)
    let (e, r) ←
      if r.nextIs [.key] then flowEntry close fuel r
      else do
        let (k, r) ← node .flow fuel r
        pure ((k, Node.missing), r)
    let (es, r) ← flowEntries false fuel r
    return (e :: es, r)

end

/-! ### Documents -/

/-- The directives at the start; of each kind there is at most one, for each handle. -/
def directives (version : Bool) (handles : List (String × String)) :
    List Token → Except ReadFault (List (String × String) × List Token)
  | .directive (.version major) :: rest =>
    if version || major != 1 then refuse else directives true handles rest
  | .directive (.handle name beginning) :: rest =>
    if (handles.lookup name).isSome then refuse
    else directives version ((name, beginning) :: handles) rest
  | .directive .reserved :: rest => directives version handles rest
  | rest => .ok (handles, rest)

/-- The handles that every document has, unless it gives them another meaning. -/
def standardHandles : List (String × String) := [("!", "!"), ("!!", Tag.beginning)]

/-- The first document starts with directives or a separator. -/
def isExplicit : List Token → Bool
  | .directive _ :: _ | .documentStart :: _ => true
  | _ => false

/-- Nothing more stands in the document. -/
def isEmptyDocument : List Token → Bool
  | [] | .directive _ :: _ | .documentStart :: _ | .documentEnd :: _ => true
  | _ => false

/-- The node of the only document among tokens; there is none if there are no tokens. -/
def document (tokens : List Token) : Except ReadFault (Option Node) := do
  if tokens.isEmpty then return none
  let fuel := 4 * tokens.length + 4
  let (n, r) ←
    if isExplicit tokens then do
      let (handles, rest) ← directives false [] tokens
      let .documentStart :: rest := rest | refuse
      let r : Reading := { tokens := rest, handles := handles ++ standardHandles }
      if isEmptyDocument rest then pure (Node.missing, r) else node .block fuel r
    else node .block fuel { tokens, handles := standardHandles }
  if r.tokens.all (· == .documentEnd) then return some n else refuse

end Reading

end Flipbook.Yaml
