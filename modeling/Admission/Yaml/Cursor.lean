import Admission.Yaml.Token

set_option autoImplicit false

/-!
# Positions in a YAML text

A cursor is what is left of a text together with the place it was reached at.
Columns decide the structure of a block document, so every step keeps count of
them.
-/

namespace Admission.Yaml

/-- The characters that end a line. -/
def isBreak (c : Char) : Bool :=
  c = '\n' || c = '\r' || c.toNat == 0x85 || c.toNat == 0x2028 || c.toNat == 0x2029

/-- Space and tab. -/
def isGap (c : Char) : Bool :=
  c = ' ' || c = '\t'

/-- Whether a character may stand in a document. -/
def isAllowed (c : Char) : Bool :=
  let n := c.toNat
  n == 0x9 || n == 0xA || n == 0xD || (0x20 ≤ n && n ≤ 0x7E) || n == 0x85 ||
  (0xA0 ≤ n && n ≤ 0xD7FF) || (0xE000 ≤ n && n ≤ 0xFFFD) || 0x10000 ≤ n

/-- What is left of a text, and where it begins. -/
structure Cursor where
  rest : List Char
  /-- The bytes before the cursor. -/
  index : Nat := 0
  line : Nat := 0
  column : Nat := 0
  deriving DecidableEq, Repr, Inhabited

namespace Cursor

/-- The character at a distance. -/
def peek? (c : Cursor) (ahead : Nat) : Option Char :=
  c.rest[ahead]?

/-- Whether a certain character is next. -/
def isAt (c : Cursor) (x : Char) : Bool :=
  c.rest.head? = some x

/-- Whether the text is at its end, or a space, tab or line break is at a distance. -/
def isBlankAt (c : Cursor) (ahead : Nat) : Bool :=
  match c.peek? ahead with
  | none => true
  | some x => isGap x || isBreak x

/-- Whether a line break is at a distance. -/
def isBreakAt (c : Cursor) (ahead : Nat) : Bool :=
  (c.peek? ahead).any isBreak

/-- Whether a space or tab is next. -/
def isAtGap (c : Cursor) : Bool :=
  c.rest.head?.any isGap

/-- Whether nothing is left. -/
def isAtEnd (c : Cursor) : Bool :=
  c.rest.isEmpty

/-- The bytes that a number of characters at the cursor take. -/
def width (c : Cursor) (count : Nat) : Nat :=
  (c.rest.take count).foldl (fun n x => n + x.utf8Size) 0

/-- Step over characters that are no line breaks. -/
def skip (c : Cursor) (count : Nat) : Cursor :=
  { c with
    rest := c.rest.drop count
    index := c.index + c.width count
    column := c.column + count }

/-- The next characters with a property, and the cursor behind them. -/
def takeWhile (c : Cursor) (p : Char → Bool) : List Char × Cursor :=
  let taken := c.rest.takeWhile p
  (taken, c.skip taken.length)

/-- Step over the next characters with a property. -/
def skipWhile (c : Cursor) (p : Char → Bool) : Cursor :=
  (c.takeWhile p).2

/-- Step over a comment, if one begins at the cursor. -/
def skipComment (c : Cursor) : Cursor :=
  if c.isAt '#' then c.skipWhile fun x => !isBreak x else c

/-- Whether the line ends at the cursor. -/
def isAtLineEnd (c : Cursor) : Bool :=
  c.rest.head?.all isBreak

/-- A line break as it enters a scalar, and the cursor on the next line.  The
separators U+2028 and U+2029 stay; all others become a line feed. -/
def takeBreak (c : Cursor) : List Char × Cursor :=
  let next (count : Nat) : Cursor :=
    { rest := c.rest.drop count, index := c.index + c.width count, line := c.line + 1, column := 0 }
  match c.rest with
  | '\r' :: '\n' :: _ => (['\n'], next 2)
  | x :: _ =>
    if isBreak x then
      (if x.toNat == 0x2028 || x.toNat == 0x2029 then [x] else ['\n'], next 1)
    else
      ([], c)
  | [] => ([], c)

/-- Step over a line break. -/
def skipBreak (c : Cursor) : Cursor :=
  c.takeBreak.2

/-- Whether three of a character and then a blank stand at the beginning of a line. -/
def isAtMarker (c : Cursor) (x : Char) : Bool :=
  c.column == 0 && c.peek? 0 == some x && c.peek? 1 == some x && c.peek? 2 == some x &&
    c.isBlankAt 3

/-- Whether a document marker, `---` or `...`, stands at the beginning of a line. -/
def isAtDocumentMarker (c : Cursor) : Bool :=
  c.isAtMarker '-' || c.isAtMarker '.'

end Cursor

end Admission.Yaml
