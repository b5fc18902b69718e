import Admission.Text.Printable

set_option autoImplicit false

/-!
# Escaped text

Three ways to write a text between double quotes: with chosen characters
doubled (record literals and SQL identifiers), with the escapes of a debug
rendering, and with the escapes of a JSON string.
-/

namespace Admission.Text

/-- Write every character of a text once, and twice where `twice` says so. -/
def doubled (twice : Char → Bool) (cs : List Char) : List Char :=
  cs.flatMap fun c => if twice c then [c, c] else [c]

/-- A text between double quotes with the characters in `twice` doubled. -/
def quotedDoubling (twice : Char → Bool) (cs : List Char) : List Char :=
  '"' :: doubled twice cs ++ ['"']

/-- The lower-case hexadecimal digits of a number, at least `width` of them. -/
def hexDigits (width n : Nat) : List Char :=
  let digits := Nat.toDigits 16 n
  List.replicate (width - digits.length) '0' ++ digits

/-- One character of a debug rendering. -/
def debugEscape (c : Char) : List Char :=
  if c = '\t' then ['\\', 't']
  else if c = '\n' then ['\\', 'n']
  else if c = '\r' then ['\\', 'r']
  else if c = '\x00' then ['\\', '0']
  else if c = '"' then ['\\', '"']
  else if c = '\\' then ['\\', '\\']
  else if isPrintable c then [c]
  else ['\\', 'u', '\x7b'] ++ hexDigits 1 c.toNat ++ ['\x7d']

/-- A text between double quotes, with the characters that are not printable made visible. -/
def debugQuoted (s : String) : String :=
  String.ofList ('"' :: s.toList.flatMap debugEscape ++ ['"'])

/-- One character of a JSON string. -/
def jsonEscape (c : Char) : List Char :=
  if c = '"' then ['\\', '"']
  else if c = '\\' then ['\\', '\\']
  else if c = '\x08' then ['\\', 'b']
  else if c = '\x0c' then ['\\', 'f']
  else if c = '\n' then ['\\', 'n']
  else if c = '\r' then ['\\', 'r']
  else if c = '\t' then ['\\', 't']
  else if c.toNat < 0x20 then ['\\', 'u'] ++ hexDigits 4 c.toNat
  else [c]

/-- A text as a JSON string. -/
def jsonQuoted (s : String) : String :=
  String.ofList ('"' :: s.toList.flatMap jsonEscape ++ ['"'])

end Admission.Text
