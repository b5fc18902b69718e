import Admission.FixedString
import Admission.Text.Escaped

set_option autoImplicit false

/-!
# Connections

What is known of a connecting client, its rendering as a composite literal for
registered procedures, and the form in which it crosses shared memory, where
every text is cut to a fixed capacity.
-/

namespace Admission

/-- The most bytes of a text of a connection in shared memory. -/
def connectionFieldCapacity : Nat := 255

/-- A connecting client. -/
structure Connection where
  /-- The client asked for a connection that does not block. -/
  noblock : Bool := false
  /-- The remote address as text. -/
  host : String := ""
  /-- The name the address resolves to, empty if unknown. -/
  hostname : String := ""
  /-- How resolving the name went, in codes of the hosting server. -/
  resolv : Int32 := 0
  /-- The resolver's error code when it failed. -/
  errcode : Int32 := 0
  database : String := ""
  user : String := ""
  deriving DecidableEq, Repr, Inhabited

namespace Connection

/-- The characters that a composite literal writes twice inside quotes. -/
def isDoubled (c : Char) : Bool :=
  c = '"' || c = '\\'

/-- A text field of a composite literal. -/
def literalText (s : String) : List Char :=
  Text.quotedDoubling isDoubled s.toList

/-- The connection as the composite literal
`(noblock,"host","hostname",resolv,errcode,"database","user")`. -/
def toRecordLiteral (c : Connection) : String :=
  String.ofList <|
    '(' :: (if c.noblock then 't' else 'f') :: ',' :: literalText c.host ++
    ',' :: literalText c.hostname ++
    ',' :: (toString c.resolv.toInt).toList ++
    ',' :: (toString c.errcode.toInt).toList ++
    ',' :: literalText c.database ++
    ',' :: literalText c.user ++ [')']

end Connection

/-- A connection as it lies in shared memory. -/
structure SharedConnection where
  /-- Anything but zero stands for true. -/
  noblock : UInt8
  resolv : Int32
  errcode : Int32
  host : FixedString connectionFieldCapacity
  hostname : FixedString connectionFieldCapacity
  database : FixedString connectionFieldCapacity
  user : FixedString connectionFieldCapacity
  deriving DecidableEq, Inhabited

namespace SharedConnection

/-- The connection of an all-zero mapping. -/
def zero : SharedConnection :=
  ⟨0, 0, 0, .empty _, .empty _, .empty _, .empty _⟩

/-- Copy a connection in, cutting each text to its capacity. -/
def store (old : SharedConnection) (c : Connection) : SharedConnection where
  noblock := if c.noblock then 1 else 0
  resolv := c.resolv
  errcode := c.errcode
  host := old.host.set c.host
  hostname := old.hostname.set c.hostname
  database := old.database.set c.database
  user := old.user.set c.user

/-- Copy the connection out. -/
def load (p : SharedConnection) : Connection where
  noblock := p.noblock != 0
  host := p.host.toString
  hostname := p.hostname.toString
  resolv := p.resolv
  errcode := p.errcode
  database := p.database.toString
  user := p.user.toString

end SharedConnection

end Admission
