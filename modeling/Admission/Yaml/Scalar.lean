import Admission.Text.Numeral
import Admission.Yaml.Cursor

set_option autoImplicit false

/-!
# Scalars of YAML

How the text of a scalar is read: plain scalars and quoted ones fold their line
breaks, double quotes know escapes, and block scalars keep or fold their lines
below an indentation and chomp the end.
-/

namespace Admission.Yaml

/-! ## Gaps -/

/-- The blanks and line breaks between two words of a scalar, the last ones first. -/
structure Gap where
  /-- The blanks, as long as no line break was met. -/
  spaces : List Char := []
  /-- Whether a line was broken. -/
  broken : Bool := false
  /-- The first line break. -/
  leading : List Char := []
  /-- The further line breaks. -/
  trailing : List Char := []
  deriving DecidableEq, Repr, Inhabited

/-- What a gap contributes to the text, the last character first: a single line
break becomes a space, of several the first is dropped, and blanks within a line
stay. -/
def Gap.fold (g : Gap) : List Char :=
  if g.broken then
    if g.leading = ['\n'] then
      if g.trailing.isEmpty then [' '] else g.trailing
    else
      g.trailing ++ g.leading
  else
    g.spaces

/-- Read the blanks and line breaks at the cursor.  A tab to the left of
`indent` on a further line is refused. -/
def Gap.scan (indent : Nat) : Nat → Gap → Cursor → Except SyntaxError (Gap × Cursor)
  | 0, g, c => .ok (g, c)
  | fuel + 1, g, c =>
    match c.rest.head? with
    | none => .ok (g, c)
    | some x =>
      if isGap x then
        if g.broken && c.column < indent && x == '\t' then
          .error .tabInIndentation
        else if g.broken then
          Gap.scan indent fuel g (c.skip 1)
        else
          Gap.scan indent fuel { g with spaces := x :: g.spaces } (c.skip 1)
      else if isBreak x then
        let (text, next) := c.takeBreak
        if g.broken then
          Gap.scan indent fuel { g with trailing := text ++ g.trailing } next
        else
          Gap.scan indent fuel { g with broken := true, leading := text } next
      else
        .ok (g, c)

/-! ## Plain scalars -/

/-- Whether a plain scalar ends before the next character. -/
def endsPlain (inFlow : Bool) (c : Cursor) : Bool :=
  match c.rest.head? with
  | none => true
  | some x =>
    (x == ':' && c.isBlankAt 1) ||
    (inFlow && (x == ',' || x == '[' || x == ']' || x == '\x7b' || x == '\x7d'))

/-- Whether a colon runs into a flow indicator, which no plain scalar allows. -/
def isClashingColon (inFlow : Bool) (c : Cursor) : Bool :=
  inFlow && c.isAt ':' &&
    match c.peek? 1 with
    | none => false
    | some x =>
      x == ',' || x == '?' || x == '[' || x == ']' || x == '\x7b' || x == '\x7d'

/-- Read the characters of one word of a plain scalar, the last one first, behind
those in `word`. -/
def plainWord (inFlow : Bool) :
    Nat → List Char → Cursor → Except SyntaxError (List Char × Cursor)
  | 0, word, c => .ok (word, c)
  | fuel + 1, word, c =>
    match c.rest with
    | [] => .ok (word, c)
    | x :: _ =>
      if isGap x || isBreak x then .ok (word, c)
      else if isClashingColon inFlow c then .error .unexpectedCharacter
      else if endsPlain inFlow c then .ok (word, c)
      else plainWord inFlow fuel (x :: word) (c.skip 1)

/-- Read the words of a plain scalar behind `text`, whose last character comes
first, and a gap.  The result says whether the scalar was followed by a line
break. -/
def plainWords (inFlow : Bool) (indent : Nat) :
    Nat → List Char → Gap → Cursor → Except SyntaxError (List Char × Bool × Cursor)
  | 0, text, g, c => .ok (text, g.broken, c)
  | fuel + 1, text, g, c =>
    if c.isAtDocumentMarker || c.isAt '#' then
      .ok (text, g.broken, c)
    else do
      let (word, next) ← plainWord inFlow (fuel + 1) [] c
      let text' := if word.isEmpty then text else word ++ (g.fold ++ text)
      let broken := word.isEmpty && g.broken
      if next.isAtGap || next.isBreakAt 0 then
        let old : Gap := if word.isEmpty then g else {}
        let (g', after) ← Gap.scan indent (fuel + 1) old next
        if !inFlow && after.column < indent then
          pure (text', g'.broken, after)
        else
          plainWords inFlow indent fuel text' g' after
      else
        pure (text', broken, next)

/-- Read a plain scalar from a text of at most `fuel` characters. -/
def scanPlain (inFlow : Bool) (indent fuel : Nat) (c : Cursor) :
    Except SyntaxError (List Char × Bool × Cursor) := do
  let (text, broken, next) ← plainWords inFlow indent (fuel + 1) [] {} c
  pure (text.reverse, broken, next)

/-! ## Quoted scalars -/

/-- The number that exactly `count` hexadecimal digits spell. -/
def hexNumber? (count : Nat) (cs : List Char) : Option Nat :=
  if cs.length < count then none
  else (cs.take count).foldlM (fun n c => (Text.hexDigit? c).map (n * 16 + ·)) 0

/-- The character of a one-letter escape. -/
def simpleEscape? (c : Char) : Option Char :=
  match c with
  | '0' => some '\x00'
  | 'a' => some '\x07'
  | 'b' => some '\x08'
  | 't' => some '\t'
  | '\t' => some '\t'
  | 'n' => some '\n'
  | 'v' => some '\x0b'
  | 'f' => some '\x0c'
  | 'r' => some '\r'
  | 'e' => some '\x1b'
  | ' ' => some ' '
  | '"' => some '"'
  | '/' => some '/'
  | '\\' => some '\\'
  | 'N' => some (Char.ofNat 0x85)
  | '_' => some (Char.ofNat 0xA0)
  | 'L' => some (Char.ofNat 0x2028)
  | 'P' => some (Char.ofNat 0x2029)
  | _ => none

/-- How many digits follow a numeric escape. -/
def escapeDigits? (c : Char) : Option Nat :=
  match c with
  | 'x' => some 2
  | 'u' => some 4
  | 'U' => some 8
  | _ => none

/-- Read an escape behind its backslash: its character, and how many characters
it takes with the backslash. -/
def escape (cs : List Char) : Except SyntaxError (Char × Nat) :=
  match cs with
  | [] => .error .unknownEscape
  | c :: rest =>
    match simpleEscape? c with
    | some x => .ok (x, 2)
    | none =>
      match escapeDigits? c with
      | none => .error .unknownEscape
      | some count =>
        match hexNumber? count rest with
        | none => .error .unknownEscape
        | some n =>
          if n < 0xD800 ∨ (0xDFFF < n ∧ n ≤ 0x10FFFF) then .ok (Char.ofNat n, 2 + count)
          else .error .unknownEscape

/-- Read the characters of one word of a quoted scalar, the last one first, behind
those in `word`.  The result says whether an escaped line break ended it. -/
def quotedWord (single : Bool) :
    Nat → List Char → Cursor → Except SyntaxError (List Char × Bool × Cursor)
  | 0, word, c => .ok (word, false, c)
  | fuel + 1, word, c =>
    match c.rest with
    | [] => .ok (word, false, c)
    | x :: rest =>
      if isGap x || isBreak x then
        .ok (word, false, c)
      else if single && x == '\'' && rest.head? == some '\'' then
        quotedWord single fuel ('\'' :: word) (c.skip 2)
      else if x == (if single then '\'' else '"') then
        .ok (word, false, c)
      else if !single && x == '\\' && c.isBreakAt 1 then
        .ok (word, true, (c.skip 1).skipBreak)
      else if !single && x == '\\' then do
        let (y, count) ← escape rest
        quotedWord single fuel (y :: word) (c.skip count)
      else
        quotedWord single fuel (x :: word) (c.skip 1)

/-- Read a quoted scalar behind `text`, whose last character comes first, up to
its closing quote. -/
def quotedWords (single : Bool) :
    Nat → List Char → Cursor → Except SyntaxError (List Char × Cursor)
  | 0, _, _ => .error .unterminatedScalar
  | fuel + 1, text, c =>
    if c.isAtDocumentMarker then
      .error .markerInScalar
    else if c.isAtEnd then
      .error .unterminatedScalar
    else do
      let (text, broken, next) ← quotedWord single (fuel + 1) text c
      if next.isAt (if single then '\'' else '"') then
        pure (text, next.skip 1)
      else
        let (g, after) ← Gap.scan 0 (fuel + 1) { broken := broken } next
        quotedWords single fuel (g.fold ++ text) after

/-- Read a quoted scalar whose opening quote is at the cursor, from a text of at
most `fuel` characters. -/
def scanQuoted (single : Bool) (fuel : Nat) (c : Cursor) :
    Except SyntaxError (List Char × Cursor) := do
  let (text, next) ← quotedWords single (fuel + 1) [] (c.skip 1)
  pure (text.reverse, next)

/-! ## Block scalars -/

/-- What becomes of the line breaks at the end of a block scalar. -/
inductive Chomping where
  /-- The last line break stays. -/
  | clip
  /-- None stays. -/
  | strip
  /-- All stay. -/
  | keep
  deriving DecidableEq, Repr, Inhabited

/-- Read the header of a block scalar behind its indicator: the chomping, an
indentation if one is given, and the cursor on the next line. -/
def blockHeader (c : Cursor) : Except SyntaxError (Chomping × Option Nat × Cursor) := do
  let chomping (c : Cursor) : Option Chomping :=
    if c.isAt '+' then some .keep else if c.isAt '-' then some .strip else none
  let digit (c : Cursor) : Option Nat :=
    c.rest.head?.bind fun x => if x.isDigit then some (x.toNat - '0'.toNat) else none
  let (chomp, increment, c) :=
    match chomping c, digit c with
    | some chomp, _ =>
      match digit (c.skip 1) with
      | some n => (chomp, some n, c.skip 2)
      | none => (chomp, none, c.skip 1)
    | none, some n =>
      match chomping (c.skip 1) with
      | some chomp => (chomp, some n, c.skip 2)
      | none => (.clip, some n, c.skip 1)
    | none, none => (.clip, none, c)
  if increment = some 0 then
    throw .blockHeader
  let c := (c.skipWhile isGap).skipComment
  if c.isAtLineEnd then
    pure (chomp, increment, c.skipBreak)
  else
    throw .blockHeader

/-- Read the empty lines before a line of a block scalar: their breaks, the last
one first, the widest indentation seen, and the cursor at the line's text.  Without a known
indentation every leading space is eaten. -/
def blockBreaks (indent : Option Nat) :
    Nat → List Char → Nat → Cursor → Except SyntaxError (List Char × Nat × Cursor)
  | 0, breaks, widest, c => .ok (breaks, widest, c)
  | fuel + 1, breaks, widest, c =>
    let spaces := (c.rest.takeWhile (· == ' ')).length
    let eaten := match indent with
      | none => spaces
      | some n => min spaces (n - c.column)
    let c := c.skip eaten
    let widest := max widest c.column
    if c.isAt '\t' && (indent.all fun n => c.column < n) then
      .error .tabInIndentation
    else if c.isBreakAt 0 then
      let (text, next) := c.takeBreak
      blockBreaks indent fuel (text ++ breaks) widest next
    else
      .ok (breaks, widest, c)

/-- What was read of a block scalar so far, the last characters first. -/
structure BlockText where
  text : List Char := []
  /-- The break of the last line. -/
  leading : List Char := []
  /-- The breaks of the empty lines behind it. -/
  trailing : List Char := []
  /-- Whether the last line began with a blank. -/
  indented : Bool := false
  deriving Repr, Inhabited

/-- Read the lines of a block scalar at a known indentation. -/
def blockLines (literal : Bool) (indent : Nat) :
    Nat → BlockText → Cursor → Except SyntaxError (BlockText × Cursor)
  | 0, b, c => .ok (b, c)
  | fuel + 1, b, c =>
    if c.column == indent && !c.isAtEnd then do
      let indented := c.isAtGap
      let joint :=
        if !literal && b.leading = ['\n'] && !b.indented && !indented then
          if b.trailing.isEmpty then [' '] else []
        else
          b.leading
      let (line, atBreak) := c.takeWhile (fun x => !isBreak x)
      let (leading, next) := atBreak.takeBreak
      let (trailing, _, after) ← blockBreaks (some indent) (fuel + 1) [] 0 next
      blockLines literal indent fuel
        { text := line.reverse ++ (b.trailing ++ (joint ++ b.text)), leading, trailing, indented }
        after
    else
      .ok (b, c)

/-- Read a block scalar whose indicator is at the cursor, inside a collection
indented by `parent` columns, or by none, from a text of at most `fuel`
characters. -/
def scanBlock (literal : Bool) (parent : Option Nat) (fuel : Nat) (c : Cursor) :
    Except SyntaxError (List Char × Cursor) := do
  let (chomp, increment, c) ← blockHeader (c.skip 1)
  let given := increment.map (parent.getD 0 + ·)
  let (breaks, widest, c) ← blockBreaks given (fuel + 1) [] 0 c
  let least := match parent with
    | none => 1
    | some n => max 1 (n + 1)
  let indent := given.getD (max widest least)
  let (b, c) ← blockLines literal indent (fuel + 1) { trailing := breaks } c
  let tail := match chomp with
    | .strip => []
    | .clip => b.leading
    | .keep => b.trailing ++ b.leading
  pure ((tail ++ b.text).reverse, c)

end Admission.Yaml
