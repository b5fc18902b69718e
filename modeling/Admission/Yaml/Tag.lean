import Admission.Yaml.Scalar

set_option autoImplicit false

/-!
# Tags of YAML

A tag is written as in a URI: some characters stand for themselves, and a
percent sign with two digits stands for a byte.  Such bytes come in sequences
whose length the first one says.  A tag ends before its first zero byte.
-/

namespace Admission.Yaml

/-- Whether a character may stand in the name of an anchor or of a handle. -/
def isNameCharacter (c : Char) : Bool :=
  c.isAlphanum || c = '_' || c = '-'

/-- Whether a character may stand in a tag. -/
def isTagCharacter (c : Char) : Bool :=
  isNameCharacter c || ";/?:@&=+$.!~*'()%".toList.contains c

/-- Whether a character may stand in a tag that is written in full. -/
def isVerbatimCharacter (c : Char) : Bool :=
  isTagCharacter c || c = ',' || c = '[' || c = ']'

/-- A byte of a tag. -/
structure Octet where
  byte : UInt8
  /-- Whether it was written with a percent sign. -/
  escaped : Bool
  deriving DecidableEq, Repr

/-- The bytes that a tag is written with. -/
def octets? : List Char → Option (List Octet)
  | [] => some []
  | '%' :: high :: low :: rest => do
    let h ← Text.hexDigit? high
    let l ← Text.hexDigit? low
    return ⟨(16 * h + l).toUInt8, true⟩ :: (← octets? rest)
  | c :: rest =>
    if c = '%' then none else (octets? rest).map (⟨c.toNat.toUInt8, false⟩ :: ·)

/-- How many bytes a sequence has behind its first one. -/
def followers? (first : UInt8) : Option Nat :=
  let n := first.toNat
  if n < 0x80 then some 0
  else if n < 0xC0 then none
  else if n < 0xE0 then some 1
  else if n < 0xF0 then some 2
  else if n < 0xF8 then some 3
  else none

/-- Whether escaped bytes come in whole sequences, of which the current one
lacks so many bytes. -/
def isSequenced : Nat → List Octet → Bool
  | 0, [] => true
  | 0, o :: rest =>
    if o.escaped then (followers? o.byte).any (isSequenced · rest) else isSequenced 0 rest
  | _ + 1, [] => false
  | lacking + 1, o :: rest =>
    o.escaped && (0x80 ≤ o.byte.toNat && o.byte.toNat < 0xC0) && isSequenced lacking rest

/-- The tag that characters stand for. -/
def Tag.ofWritten? (cs : List Char) : Option Tag :=
  (octets? cs).bind fun os =>
    if isSequenced 0 os then some ((os.map (·.byte)).takeWhile (· ≠ 0)) else none

/-- The tag of an ASCII text. -/
def Tag.ofString (s : String) : Tag :=
  s.toList.map fun c => c.toNat.toUInt8

/-- Read the characters of a tag and what follows it. -/
def Tag.scan (allowed : Char → Bool) (c : Cursor) : Except SyntaxError (Tag × Cursor) :=
  let (text, next) := c.takeWhile allowed
  match Tag.ofWritten? text with
  | some t => .ok (t, next)
  | none => .error .malformedName

/-- Read the characters of a tag, of which there is at least one, and what
follows it. -/
def Tag.scanSome (allowed : Char → Bool) (c : Cursor) : Except SyntaxError (Tag × Cursor) :=
  if c.rest.head?.any allowed then Tag.scan allowed c else .error .malformedName

end Admission.Yaml
