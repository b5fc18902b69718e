import Admission.Yaml.Lexer

set_option autoImplicit false

/-!
# YAML documents

A document is one node: a scalar, a sequence of nodes, a mapping in the order
it was written, repeated keys included, or an alias of another node.  A stream
holds one document or none.

Anchors are numbered.  A name gets the number of different names before it, also
where it is used again, and an alias stands for the last node of the whole
document that began under its number.  So an alias may stand inside the node it
means.
-/

namespace Admission.Yaml

/-- A piece of a document. -/
inductive Node where
  | scalar (text : String) (style : ScalarStyle) (tag : Option Tag)
  | sequence (items : List Node)
  | mapping (entries : List (Node × Node))
  /-- The node whose anchor has this number. -/
  | alias (number : Nat)
  deriving Repr, Inhabited

namespace Node

/-- The scalar of a place where nothing is written. -/
def absent : Node :=
  .scalar "" .plain none

/-- What the handles of tags stand for where no directive says otherwise. -/
def standardHandles : List (String × Tag) :=
  [("!", Tag.ofString "!"), ("!!", Tag.ofString "tag:yaml.org,2002:")]

end Node

/-- A place that an anchor marks. -/
structure Mark where
  /-- The number that aliases know it by. -/
  number : Nat
  /-- How many anchors stood before it. -/
  place : Nat
  deriving DecidableEq, Repr, Inhabited

/-- The anchors met so far. -/
structure Anchors where
  /-- The number of each name, the latest first. -/
  numbers : List (String × Nat) := []
  /-- How many different names there are. -/
  names : Nat := 0
  /-- The anchored places, the latest first. -/
  marks : List Mark := []
  /-- How many anchored places there are. -/
  places : Nat := 0
  /-- The finished nodes by their numbers, the valid one of a number first. -/
  nodes : List (Nat × Node) := []
  deriving Repr, Inhabited

namespace Anchors

/-- Mark the place where a node begins. -/
def start (as : Anchors) (name : String) : Mark × Anchors :=
  let mark : Mark := { number := as.names, place := as.places }
  let known := (as.numbers.lookup name).isSome
  (mark,
    { as with
      numbers := (name, mark.number) :: as.numbers
      names := if known then as.names else as.names + 1
      marks := mark :: as.marks
      places := as.places + 1 })

/-- Keep a finished node, unless a later one began under its number. -/
def finish (as : Anchors) (mark : Mark) (n : Node) : Anchors :=
  if as.marks.find? (·.number = mark.number) = some mark then
    { as with nodes := (mark.number, n) :: as.nodes }
  else
    as

end Anchors

namespace Node

/-- What is left of the tokens, and what names and handles stand for. -/
structure Reader where
  tokens : List Token
  anchors : Anchors := {}
  handles : List (String × Tag) := standardHandles
  deriving Repr, Inhabited

namespace Reader

/-- The next token. -/
def head? (r : Reader) : Option Token :=
  r.tokens.head?

/-- Step over a token. -/
def skip (r : Reader) : Reader :=
  { r with tokens := r.tokens.tail }

/-- Whether the next token is one of these. -/
def isAt (r : Reader) (ts : List Token) : Bool :=
  r.tokens.head?.any ts.contains

/-- A tag in full. -/
def tagOf (r : Reader) (handle : String) (suffix : Tag) : Except SyntaxError Tag :=
  if handle = "" then .ok suffix
  else
    match r.handles.lookup handle with
    | some expansion => .ok (expansion ++ suffix)
    | none => .error .unknownHandle

/-- Read an anchor and a tag, in either order. -/
def properties (r : Reader) :
    Except SyntaxError (Option String × Option Tag × Reader) := do
  match r.tokens with
  | .anchor a :: .tag h t :: rest | .tag h t :: .anchor a :: rest =>
    return (some a, some (← r.tagOf h t), { r with tokens := rest })
  | .anchor a :: rest => return (some a, none, { r with tokens := rest })
  | .tag h t :: rest => return (none, some (← r.tagOf h t), { r with tokens := rest })
  | _ => return (none, none, r)

/-- Mark the place where a node begins, if it has an anchor. -/
def start (r : Reader) (anchor : Option String) : Option Mark × Reader :=
  match anchor with
  | none => (none, r)
  | some a =>
    let (mark, anchors) := r.anchors.start a
    (some mark, { r with anchors })

/-- Keep a finished node, if it has an anchor. -/
def finish (r : Reader) (mark : Option Mark) (n : Node) : Reader :=
  match mark with
  | none => r
  | some m => { r with anchors := r.anchors.finish m n }

end Reader

/-- A way to read one thing. -/
abbrev Read (α : Type) := Reader → Except SyntaxError (α × Reader)

mutual

/-- Read a node.  Block collections are read where `block` allows them, and a
sequence without indentation of its own where `indentless` does. -/
def read (block indentless : Bool) : Nat → Read Node
  | 0, _ => .error .unexpectedToken
  | fuel + 1, r =>
    match r.tokens with
    | .alias a :: _ =>
      match r.anchors.numbers.lookup a with
      | some number => .ok (.alias number, r.skip)
      | none => .error .unknownAnchor
    | _ => do
      let (anchor, tag, r) ← r.properties
      let (mark, r) := r.start anchor
      let (n, r) ←
        match r.head? with
        | some .blockEntry =>
          if indentless then readIndentless fuel r
          else if anchor.isSome || tag.isSome then pure (.scalar "" .plain tag, r)
          else throw SyntaxError.unexpectedToken
        | some (.scalar text style) =>
          pure (.scalar text style tag, r.skip)
        | some .flowSequenceStart => readFlowItems fuel true [] r.skip
        | some .flowMappingStart => readFlowEntries fuel true [] r.skip
        | some .blockSequenceStart =>
          if block then readBlockItems fuel [] r.skip
          else if anchor.isSome || tag.isSome then pure (.scalar "" .plain tag, r)
          else throw .unexpectedToken
        | some .blockMappingStart =>
          if block then readBlockEntries fuel [] r.skip
          else if anchor.isSome || tag.isSome then pure (.scalar "" .plain tag, r)
          else throw .unexpectedToken
        | _ =>
          if anchor.isSome || tag.isSome then pure (.scalar "" .plain tag, r)
          else throw .unexpectedToken
      pure (n, r.finish mark n)

/-- Read the entries of a block sequence up to its end. -/
def readBlockItems : Nat → List Node → Read Node
  | 0, _, _ => .error .unexpectedToken
  | fuel + 1, items, r =>
    if r.isAt [.blockEntry] then do
      let r := r.skip
      let (n, r) ←
        if r.isAt [.blockEntry, .blockEnd] then pure (absent, r)
        else read true false fuel r
      readBlockItems fuel (n :: items) r
    else if r.isAt [.blockEnd] then
      .ok (.sequence items.reverse, r.skip)
    else
      .error .unexpectedToken

/-- Read the entries of a sequence that is not indented below its key. -/
def readIndentless : Nat → Read Node
  | 0, _ => .error .unexpectedToken
  | fuel + 1, r => do
    let (items, r) ← readIndentlessItems fuel [] r
    pure (.sequence items, r)

/-- Read entries as long as there are some. -/
def readIndentlessItems : Nat → List Node → Read (List Node)
  | 0, _, _ => .error .unexpectedToken
  | fuel + 1, items, r =>
    if r.isAt [.blockEntry] then do
      let r := r.skip
      let (n, r) ←
        if r.isAt [.blockEntry, .key, .value, .blockEnd] then pure (absent, r)
        else read true false fuel r
      readIndentlessItems fuel (n :: items) r
    else
      .ok (items.reverse, r)

/-- Read the entries of a block mapping up to its end. -/
def readBlockEntries : Nat → List (Node × Node) → Read Node
  | 0, _, _ => .error .unexpectedToken
  | fuel + 1, entries, r =>
    if r.isAt [.key] then do
      let r := r.skip
      let (k, r) ←
        if r.isAt [.key, .value, .blockEnd] then pure (absent, r)
        else read true true fuel r
      let (v, r) ←
        if r.isAt [.value] then
          let r := r.skip
          if r.isAt [.key, .value, .blockEnd] then pure (absent, r)
          else read true true fuel r
        else
          pure (absent, r)
      readBlockEntries fuel ((k, v) :: entries) r
    else if r.isAt [.blockEnd] then
      .ok (.mapping entries.reverse, r.skip)
    else
      .error .unexpectedToken

/-- Read the items of a flow sequence up to its bracket; an item may be a single
entry of a mapping. -/
def readFlowItems : Nat → Bool → List Node → Read Node
  | 0, _, _, _ => .error .unexpectedToken
  | fuel + 1, first, items, r =>
    if r.isAt [.flowSequenceEnd] then
      .ok (.sequence items.reverse, r.skip)
    else if !first && !r.isAt [.flowEntry] then
      .error .unexpectedToken
    else do
      let r := if first then r else r.skip
      if r.isAt [.flowSequenceEnd] then
        pure (.sequence items.reverse, r.skip)
      else if r.isAt [.key] then
        let r := r.skip
        let (k, r) ←
          if r.isAt [.value, .flowEntry, .flowSequenceEnd] then pure (absent, r.skip)
          else read false false fuel r
        let (v, r) ←
          if r.isAt [.value] then
            let r := r.skip
            if r.isAt [.flowEntry, .flowSequenceEnd] then pure (absent, r)
            else read false false fuel r
          else
            pure (absent, r)
        readFlowItems fuel false (.mapping [(k, v)] :: items) r
      else
        let (n, r) ← read false false fuel r
        readFlowItems fuel false (n :: items) r

/-- Read the entries of a flow mapping up to its brace. -/
def readFlowEntries : Nat → Bool → List (Node × Node) → Read Node
  | 0, _, _, _ => .error .unexpectedToken
  | fuel + 1, first, entries, r =>
    if r.isAt [.flowMappingEnd] then
      .ok (.mapping entries.reverse, r.skip)
    else if !first && !r.isAt [.flowEntry] then
      .error .unexpectedToken
    else do
      let r := if first then r else r.skip
      if r.isAt [.flowMappingEnd] then
        pure (.mapping entries.reverse, r.skip)
      else if r.isAt [.key] then
        let r := r.skip
        let (k, r) ←
          if r.isAt [.value, .flowEntry, .flowMappingEnd] then pure (absent, r)
          else read false false fuel r
        let (v, r) ←
          if r.isAt [.value] then
            let r := r.skip
            if r.isAt [.flowEntry, .flowMappingEnd] then pure (absent, r)
            else read false false fuel r
          else
            pure (absent, r)
        readFlowEntries fuel false ((k, v) :: entries) r
      else
        let (k, r) ← read false false fuel r
        readFlowEntries fuel false ((k, absent) :: entries) r

end

/-- Read the directives of a document: the handles they explain, and what follows.
A version is 1.1 or 1.2. -/
def readDirectives : Bool → List (String × Tag) → List Token →
    Except SyntaxError (List (String × Tag) × List Token)
  | versioned, handles, .version major minor :: rest =>
    if versioned then .error .repeatedDirective
    else if major = 1 ∧ (minor = 1 ∨ minor = 2) then readDirectives true handles rest
    else .error .unknownDirective
  | versioned, handles, .tagHandle handle expansion :: rest =>
    if (handles.lookup handle).isSome then .error .repeatedDirective
    else readDirectives versioned ((handle, expansion) :: handles) rest
  | _, handles, rest => .ok (handles, rest)

/-- Whether a token is a directive. -/
def isDirective : Token → Bool
  | .version _ _ | .tagHandle _ _ => true
  | _ => false

end Node

/-- What a stream holds. -/
structure Document where
  /-- The outermost node, unless the stream holds nothing. -/
  root : Option Node := none
  /-- The nodes that aliases stand for, by their numbers. -/
  anchored : List (Nat × Node) := []
  deriving Repr, Inhabited

namespace Document

/-- The node itself that a node stands for. -/
def resolve (d : Document) : Node → Node
  | .alias number => (d.anchored.lookup number).getD .absent
  | n => n

/-- Read the document that the tokens begin with, and what follows it. -/
def read (tokens : List Token) : Except SyntaxError (Document × List Token) := do
  let fuel := 2 * tokens.length + 2
  let (handles, body) ← Node.readDirectives false [] tokens
  let explicit := tokens.head?.any fun t => Node.isDirective t || t == .documentStart
  if explicit && body.head? != some .documentStart then
    throw .unexpectedToken
  let r : Node.Reader :=
    { tokens := if explicit then body.tail else body
      handles := handles ++ Node.standardHandles }
  let empty := r.head?.all fun t =>
    Node.isDirective t || t == .documentStart || t == .documentEnd
  let (n, r) ← if explicit && empty then pure (.absent, r) else Node.read true false fuel r
  pure ({ root := some n, anchored := r.anchors.nodes }, r.tokens)

/-- The document of a stream of tokens. -/
def ofTokens? (tokens : List Token) : Except SyntaxError Document :=
  if tokens.isEmpty then .ok {}
  else do
    let (d, rest) ← read tokens
    if (rest.dropWhile (· == .documentEnd)).isEmpty then pure d
    else throw .severalDocuments

/-- The document of a text. -/
def ofText? (text : String) : Except SyntaxError Document := do
  ofTokens? (← Token.ofText? text)

end Document

end Admission.Yaml
