import Admission.Yaml.Tag

set_option autoImplicit false

/-!
# From YAML text to tokens

The indentation of a block collection is known only when its first entry or the
colon behind its first key is met, and so the start token and the key token are
put in front of a key that has already been read.  A key must stand on one line
and be no longer than 1024 bytes.
-/

namespace Admission.Yaml

/-- A place where a key may have begun. -/
structure PossibleKey where
  /-- How many tokens stood before it. -/
  token : Nat
  /-- Whether a key is the only thing that can stand there. -/
  required : Bool
  index : Nat
  line : Nat
  column : Nat
  deriving Repr, Inhabited

/-- A lexer between two tokens. -/
structure Lexer where
  cursor : Cursor
  /-- The tokens so far, the last one first. -/
  tokens : List Token := []
  /-- How many tokens there are so far. -/
  count : Nat := 0
  /-- The columns of the open block collections, innermost first. -/
  indents : List Nat := []
  /-- The place of a possible key for each open flow collection, innermost
  first, and for the block context last. -/
  keys : List (Option PossibleKey) := [none]
  /-- Whether a key may begin at the cursor. -/
  keyAllowed : Bool := true
  deriving Repr, Inhabited

namespace Lexer

/-- Whether a flow collection is open. -/
def inFlow (l : Lexer) : Bool :=
  1 < l.keys.length

/-- The column of the innermost block collection. -/
def indent? (l : Lexer) : Option Nat :=
  l.indents.head?

/-- Whether a column lies to the right of the innermost block collection. -/
def isDeeper (l : Lexer) (column : Nat) : Bool :=
  l.indents.head?.all (· < column)

/-- Add a token at the end. -/
def push (l : Lexer) (t : Token) : Lexer :=
  { l with tokens := t :: l.tokens, count := l.count + 1 }

/-- Put a token before the one with a certain number. -/
def insert (l : Lexer) (position : Nat) (t : Token) : Lexer :=
  let behind := l.count - position
  { l with
    tokens := l.tokens.take behind ++ t :: l.tokens.drop behind
    count := l.count + 1 }

/-- Step over the characters of an indicator. -/
def advance (l : Lexer) (count : Nat) : Lexer :=
  { l with cursor := l.cursor.skip count }

/-- Say whether a key may begin at the cursor. -/
def allowKey (l : Lexer) (allowed : Bool) : Lexer :=
  { l with keyAllowed := allowed }

/-- Step over blanks, comments and line breaks.  A tab is a blank only where no
key may begin or in a flow collection, and a byte order mark may begin a line. -/
def skipToToken : Nat → Lexer → Lexer
  | 0, l => l
  | fuel + 1, l =>
    let c := l.cursor
    let c := if c.column == 0 && c.rest.head?.any (·.toNat == 0xFEFF) then c.skip 1 else c
    let c := c.skipWhile fun x => x == ' ' || ((l.inFlow || !l.keyAllowed) && x == '\t')
    let c := c.skipComment
    if c.isBreakAt 0 then
      skipToToken fuel
        { l with cursor := c.skipBreak, keyAllowed := l.keyAllowed || !l.inFlow }
    else
      { l with cursor := c }

/-- Whether a possible key begins on an earlier line or too far before the cursor. -/
def isStale (l : Lexer) (k : PossibleKey) : Bool :=
  k.line < l.cursor.line || k.index + 1024 < l.cursor.index

/-- Give up the possible keys that the cursor has left behind. -/
def dropStaleKeys (l : Lexer) : Except SyntaxError Lexer :=
  if l.keys.any (·.any fun k => l.isStale k && k.required) then .error .missingColon
  else if l.keys.any (·.any l.isStale) then
    .ok { l with keys := l.keys.map (·.filter fun k => !l.isStale k) }
  else .ok l

/-- Give up the possible key of the innermost collection. -/
def dropKey (l : Lexer) : Except SyntaxError Lexer :=
  match l.keys with
  | some k :: rest =>
    if k.required then .error .missingColon else .ok { l with keys := none :: rest }
  | _ => .ok l

/-- Note that a key may begin at the cursor. -/
def saveKey (l : Lexer) : Except SyntaxError Lexer :=
  if l.keyAllowed then do
    let l ← l.dropKey
    let key : PossibleKey :=
      { token := l.count
        required := !l.inFlow && l.indent? == some l.cursor.column
        index := l.cursor.index
        line := l.cursor.line
        column := l.cursor.column }
    pure { l with keys := some key :: l.keys.tail }
  else
    .ok l

/-- Close the block collections that are indented deeper than a column, or all. -/
def unroll (l : Lexer) (column : Option Nat) : Lexer :=
  if l.inFlow then l
  else
    let closed := l.indents.takeWhile fun n => column.all (· < n)
    { l with
      tokens := closed.map (fun _ => Token.blockEnd) ++ l.tokens
      count := l.count + closed.length
      indents := l.indents.drop closed.length }

/-- Open a block collection at a column if none is open there, with its start
token before the token of the given number. -/
def roll (l : Lexer) (column position : Nat) (start : Token) : Lexer :=
  if l.inFlow || !l.isDeeper column then l
  else { l.insert position start with indents := column :: l.indents }

/-- A document marker or directive: everything open is closed. -/
def boundary (l : Lexer) : Except SyntaxError Lexer := do
  let l ← (l.unroll none).dropKey
  pure (l.allowKey false)

/-! ## Kinds of tokens -/

/-- Read one of the two numbers of a version, which has up to nine digits. -/
def versionNumber (c : Cursor) : Except SyntaxError (Nat × Cursor) :=
  let (digits, next) := c.takeWhile Char.isDigit
  if digits.isEmpty || 9 < digits.length then .error .unknownDirective
  else .ok (digits.foldl (fun n d => n * 10 + (d.toNat - '0'.toNat)) 0, next)

/-- Read the value of a `%YAML` line. -/
def versionDirective (c : Cursor) : Except SyntaxError (Token × Cursor) := do
  let (major, c) ← versionNumber c
  if !c.isAt '.' then
    throw .unknownDirective
  let (minor, c) ← versionNumber (c.skip 1)
  pure (.version major minor, c)

/-- Read the value of a `%TAG` line: a handle, which is `!`, `!!` or a name between
two of them, and what it stands for. -/
def handleDirective (c : Cursor) : Except SyntaxError (Token × Cursor) := do
  if !c.isAt '!' then
    throw .unknownDirective
  let (name, c) := (c.skip 1).takeWhile isNameCharacter
  let closed := c.isAt '!'
  if !closed && !name.isEmpty then
    throw .unknownDirective
  let c := if closed then c.skip 1 else c
  if !c.isAtGap then
    throw .unknownDirective
  let (expansion, c) ← Tag.scanSome isVerbatimCharacter (c.skipWhile isGap)
  if !c.isBlankAt 0 then
    throw .unknownDirective
  pure (.tagHandle (if closed then handleOf name else "!") expansion, c)
where
  /-- The handle with this name. -/
  handleOf (name : List Char) : String := String.ofList ('!' :: name ++ ['!'])

/-- A line that begins with a percent sign: `%YAML` with a version or `%TAG` with
a handle. -/
def directive (l : Lexer) : Except SyntaxError Lexer := do
  let l ← l.boundary
  let (name, c) := (l.cursor.skip 1).takeWhile isNameCharacter
  if !c.isBlankAt 0 then
    throw .unknownDirective
  let c := c.skipWhile isGap
  let (t, c) ←
    match String.ofList name with
    | "YAML" => versionDirective c
    | "TAG" => handleDirective c
    | _ => throw .unknownDirective
  let c := (c.skipWhile isGap).skipComment
  if !c.isAtLineEnd then
    throw .unknownDirective
  pure ({ l with cursor := c.skipBreak }.push t)

/-- `---` or `...`. -/
def marker (l : Lexer) (t : Token) : Except SyntaxError Lexer := do
  let l ← l.boundary
  pure ((l.advance 3).push t)

/-- `[` or an opening brace. -/
def openFlow (l : Lexer) (t : Token) : Except SyntaxError Lexer := do
  let l ← l.saveKey
  pure (({ l with keys := none :: l.keys }.allowKey true |>.advance 1).push t)

/-- `]` or a closing brace. -/
def closeFlow (l : Lexer) (t : Token) : Except SyntaxError Lexer := do
  let l ← l.dropKey
  let keys := if l.inFlow then l.keys.tail else l.keys
  pure (({ l with keys }.allowKey false |>.advance 1).push t)

/-- `,` between the entries of a flow collection. -/
def flowEntry (l : Lexer) : Except SyntaxError Lexer := do
  let l ← l.dropKey
  pure ((l.allowKey true |>.advance 1).push .flowEntry)

/-- `-` before an entry of a block sequence. -/
def blockEntry (l : Lexer) : Except SyntaxError Lexer := do
  if !l.inFlow && !l.keyAllowed then
    throw .misplacedIndicator
  let l ← (l.roll l.cursor.column l.count .blockSequenceStart).dropKey
  pure ((l.allowKey true |>.advance 1).push .blockEntry)

/-- `?` before a key. -/
def key (l : Lexer) : Except SyntaxError Lexer := do
  if !l.inFlow && !l.keyAllowed then
    throw .misplacedIndicator
  let l ← (l.roll l.cursor.column l.count .blockMappingStart).dropKey
  pure ((l.allowKey (!l.inFlow) |>.advance 1).push .key)

/-- `:` before a value; a possible key in front of it becomes one. -/
def value (l : Lexer) : Except SyntaxError Lexer :=
  match l.keys with
  | some k :: rest =>
    let l := { l.insert k.token .key with keys := none :: rest }
    .ok ((l.roll k.column k.token .blockMappingStart |>.allowKey false |>.advance 1).push .value)
  | _ =>
    if !l.inFlow && !l.keyAllowed then
      .error .misplacedIndicator
    else
      let l := l.roll l.cursor.column l.count .blockMappingStart
      .ok ((l.allowKey (!l.inFlow) |>.advance 1).push .value)

/-- `&name` or `*name`. -/
def anchorOrAlias (l : Lexer) (t : String → Token) : Except SyntaxError Lexer := do
  let l ← l.saveKey
  let (name, next) := (l.cursor.skip 1).takeWhile isNameCharacter
  let ended := next.isBlankAt 0 ||
    next.rest.head?.any fun x => "?:,]\x7d%@`".toList.contains x
  if name.isEmpty || !ended then
    throw .malformedName
  pure ({ l with cursor := next }.allowKey false |>.push (t (String.ofList name)))

/-- The tag `!<...>`, `!handle!...` or `!...` at the cursor: its handle and the rest. -/
def writtenTag (c : Cursor) : Except SyntaxError (String × Tag × Cursor) := do
  if c.isAt '<' then
    let (t, next) ← Tag.scanSome isVerbatimCharacter (c.skip 1)
    if !next.isAt '>' then
      throw .malformedName
    pure ("", t, next.skip 1)
  else
    let (name, behind) := c.takeWhile isNameCharacter
    if behind.isAt '!' then
      let (t, next) ← Tag.scanSome isTagCharacter (behind.skip 1)
      pure (handleDirective.handleOf name, t, next)
    else
      let (t, next) ← Tag.scan isTagCharacter c
      pure (if t.isEmpty then ("", Tag.ofString "!", next) else ("!", t, next))

/-- A tag. -/
def tag (l : Lexer) : Except SyntaxError Lexer := do
  let l ← l.saveKey
  let (handle, suffix, next) ← writtenTag (l.cursor.skip 1)
  if next.isBlankAt 0 || (l.inFlow && next.isAt ',') then
    pure ({ l with cursor := next }.allowKey false |>.push (.tag handle suffix))
  else
    throw .malformedName

/-- `|` or `>`. -/
def blockScalar (l : Lexer) (literal : Bool) (fuel : Nat) : Except SyntaxError Lexer := do
  let l ← l.dropKey
  let (text, next) ← scanBlock literal l.indent? fuel l.cursor
  let style := if literal then ScalarStyle.literal else .folded
  pure ({ l with cursor := next }.allowKey true |>.push (.scalar (String.ofList text) style))

/-- A scalar between single or double quotes. -/
def quotedScalar (l : Lexer) (single : Bool) (fuel : Nat) : Except SyntaxError Lexer := do
  let l ← l.saveKey
  let (text, next) ← scanQuoted single fuel l.cursor
  pure ({ l with cursor := next }.allowKey false |>.push (.scalar (String.ofList text) .quoted))

/-- A scalar without quotes. -/
def plainScalar (l : Lexer) (fuel : Nat) : Except SyntaxError Lexer := do
  let l ← l.saveKey
  let indent := match l.indent? with
    | none => 0
    | some n => n + 1
  let (text, broken, next) ← scanPlain l.inFlow indent fuel l.cursor
  pure ({ l with cursor := next }.allowKey broken |>.push (.scalar (String.ofList text) .plain))

/-- Whether a plain scalar may begin with the next character. -/
def startsPlain (l : Lexer) (x : Char) : Bool :=
  if x == '-' then !(l.cursor.peek? 1).any isGap
  else if x == '?' || x == ':' then !l.inFlow && !l.cursor.isBlankAt 1
  else !",[]\x7b\x7d#&*!|>'\"%@`".toList.contains x && !isGap x && !isBreak x

/-- Read one token whose first character is at the cursor, from a text of at most
`fuel` characters. -/
def token (l : Lexer) (x : Char) (fuel : Nat) : Except SyntaxError Lexer :=
  let c := l.cursor
  if c.column == 0 && x == '%' then l.directive
  else if c.isAtMarker '-' then l.marker .documentStart
  else if c.isAtMarker '.' then l.marker .documentEnd
  else if x == '[' then l.openFlow .flowSequenceStart
  else if x == '\x7b' then l.openFlow .flowMappingStart
  else if x == ']' then l.closeFlow .flowSequenceEnd
  else if x == '\x7d' then l.closeFlow .flowMappingEnd
  else if x == ',' then l.flowEntry
  else if x == '-' && c.isBlankAt 1 then l.blockEntry
  else if x == '?' && (l.inFlow || c.isBlankAt 1) then l.key
  else if x == ':' && (l.inFlow || c.isBlankAt 1) then l.value
  else if x == '*' then l.anchorOrAlias .alias
  else if x == '&' then l.anchorOrAlias .anchor
  else if x == '!' then l.tag
  else if x == '|' && !l.inFlow then l.blockScalar true fuel
  else if x == '>' && !l.inFlow then l.blockScalar false fuel
  else if x == '\'' then l.quotedScalar true fuel
  else if x == '"' then l.quotedScalar false fuel
  else if l.startsPlain x then l.plainScalar fuel
  else .error .unexpectedCharacter

/-- Read all tokens of a text of at most so many characters. -/
def run : Nat → Lexer → Except SyntaxError Lexer
  | 0, l => .ok l
  | fuel + 1, l => do
    let l ← (l.skipToToken (fuel + 1)).dropStaleKeys
    match l.cursor.rest.head? with
    | none =>
      let l ← (l.unroll none).dropKey
      pure l
    | some x =>
      let l ← (l.unroll (some l.cursor.column)).token x fuel
      run fuel l

end Lexer

/-- The tokens of a text. -/
def Token.ofText? (text : String) : Except SyntaxError (List Token) :=
  let cs := text.toList
  if cs.all isAllowed then
    (Lexer.run (cs.length + 1) { cursor := { rest := cs } }).map (·.tokens.reverse)
  else
    .error .controlCharacter

end Admission.Yaml
