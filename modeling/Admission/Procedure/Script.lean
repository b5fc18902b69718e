import Admission.Procedure.Program
import Admission.Text.Numeral
import Admission.Text.Repeated

set_option autoImplicit false

/-!
# Scripts

A small language for writing procedures down as data.  A script is a list of
statements over texts and conditions, and means the program that carries them
out in order; falling off the end answers nothing.
-/

namespace Admission.Script

/-- What a script can ask of its arguments. -/
inductive Field where
  | feature
  | user
  | database
  | host
  | hostname
  | resolv
  | errcode
  | noblock
  | record
  | status
  | password
  | type
  | validUntil
  /-- A field that no arguments have. -/
  | unknown
  deriving DecidableEq, Repr, Inhabited

/-- The fields that have a name. -/
def Field.all : List Field :=
  [.feature, .user, .database, .host, .hostname, .resolv, .errcode, .noblock, .record, .status,
    .password, .type, .validUntil]

/-- The name of a field in a script. -/
def Field.name : Field → String
  | .feature => "feature"
  | .user => "user"
  | .database => "database"
  | .host => "host"
  | .hostname => "hostname"
  | .resolv => "resolv"
  | .errcode => "errcode"
  | .noblock => "noblock"
  | .record => "record"
  | .status => "status"
  | .password => "password"
  | .type => "type"
  | .validUntil => "valid_until"
  | .unknown => ""

/-- The field of a name. -/
def Field.ofName (name : String) : Field :=
  (Field.all.find? fun f => f.name = name).getD .unknown

/-- The text of a field of a connection. -/
def Field.ofConnection (c : Connection) (status : Int32) : Field → String
  | .feature => Feature.clientauth.name
  | .user => c.user
  | .database => c.database
  | .host => c.host
  | .hostname => c.hostname
  | .resolv => toString c.resolv.toInt
  | .errcode => toString c.errcode.toInt
  | .noblock => if c.noblock then "t" else "f"
  | .record => c.toRecordLiteral
  | .status => toString status.toInt
  | _ => ""

/-- The text of a field of a password request. -/
def Field.ofRequest (r : PasswordRequest) : Field → String
  | .feature => Feature.passcheck.name
  | .user => r.user
  | .password => r.password
  | .type => r.type.name
  | .validUntil => r.validUntil.getD "<null>"
  | _ => ""

/-- The text of a field; one that the arguments do not have is empty. -/
def Field.value (f : Field) : Args → String
  | .clientauth c code => f.ofConnection c code
  | .passcheck r => f.ofRequest r

/-- A text to be put together. -/
inductive Text where
  | literal (text : String)
  | join (parts : List Text)
  | field (field : Field)
  /-- The value of a key of the transaction; a missing one is empty. -/
  | get (key : String)
  | repeated (text : String) (times : Nat)
  deriving Repr, Inhabited

/-- A condition. -/
inductive Condition where
  | is (field : Field) (text : String)
  | startsWith (field : Field) (text : String)
  /-- The field takes fewer bytes. -/
  | shorter (field : Field) (bytes : Nat)
  /-- The key has this value, or none. -/
  | holds (key : String) (value : Option String)
  | not (condition : Condition)
  deriving Repr, Inhabited

/-- What a panic statement throws. -/
inductive PanicKind where
  | text
  | other
  deriving DecidableEq, Repr, Inhabited

/-- A statement. -/
inductive Statement where
  | put (key value : Text)
  | delete (key : Text)
  /-- Add one to the number in a key. -/
  | increment (key : Text)
  | trace (line : Text)
  | branch (condition : Condition) (yes no : List Statement)
  | answer (output : Output)
  | answerText (text : Text)
  | raise (message : Text) (hint : Option String)
  | panic (message : Text) (kind : PanicKind)
  | order (order : CatalogOrder)
  | define (database schema name : String) (body : List Statement)
  /-- Ask whether a database exists, for nothing but the asking. -/
  | probe (database : String)
  | changeSlot (table : String) (slot : Nat) (change : SlotChange)
  deriving Inhabited

/-- The 32-bit number a text spells in decimal; a plus sign may stand in front.
Anything else counts as zero. -/
def number (text : String) : UInt32 :=
  let digits := match text.toList with
    | '+' :: rest => rest
    | cs => cs
  ((Text.numeral? 10 UInt32.size digits).map Nat.toUInt32).getD 0

mutual

/-- Put a text together and go on with it. -/
def Text.then (args : Args) : Text → (String → Program) → Program
  | .literal text, next => next text
  | .join parts, next => Text.thenAll args parts next
  | .field f, next => next (f.value args)
  | .get key, next => .get key fun v => next (v.getD "")
  | .repeated text times, next => next (Admission.Text.repeated text times)

/-- Put texts together one after another and go on with all of it. -/
def Text.thenAll (args : Args) : List Text → (String → Program) → Program
  | [], next => next ""
  | part :: rest, next =>
    Text.then args part fun first => Text.thenAll args rest fun others => next (first ++ others)

end

/-- Test a condition and go on with the answer. -/
def Condition.then (args : Args) : Condition → (Bool → Program) → Program
  | .is f text, next => next (f.value args = text)
  | .startsWith f text, next => next (text.toList.isPrefixOf (f.value args).toList)
  | .shorter f bytes, next => next ((f.value args).utf8ByteSize < bytes)
  | .holds key value, next => .get key fun v => next (v = value)
  | .not c, next => Condition.then args c fun b => next !b

/-- Go on unless the catalog refused; its message is then raised without the
hint. -/
def unlessRefused (rest : Unit → Program) : Option BackendError → Program
  | none => rest ()
  | some e => .finish (.failed ⟨e.message, none⟩)

mutual

/-- The program of a statement, followed by the rest. -/
def Statement.program (args : Args) : Statement → (Unit → Program) → Program
  | .put key value, rest =>
    Text.then args key fun k => Text.then args value fun v => .put k v rest
  | .delete key, rest => Text.then args key fun k => .delete k rest
  | .increment key, rest =>
    Text.then args key fun k =>
      .get k fun v => .put k (toString (number (v.getD "") + 1)) rest
  | .trace line, rest => Text.then args line fun l => .trace l rest
  | .branch condition yes no, rest =>
    Condition.then args condition fun b =>
      if b then programOf args yes rest else programOf args no rest
  | .answer output, _ => .finish (.done output)
  | .answerText text, _ => Text.then args text fun t => .finish (.done (.text (some t)))
  | .raise message hint, _ => Text.then args message fun m => .finish (.failed ⟨m, hint⟩)
  | .panic message kind, _ =>
    Text.then args message fun m =>
      .finish (.unwound (if kind = .text then .text m else .other))
  | .order order, rest => .order order (unlessRefused rest)
  | .define database schema name body, rest =>
    .define database schema name
      (fun args => programOf args body fun _ => .finish (.done .void)) (unlessRefused rest)
  | .probe database, rest => .databaseExists database fun _ => rest ()
  | .changeSlot table slot change, rest => .changeSlot table slot change rest

/-- The program of statements, followed by the rest. -/
def programOf (args : Args) : List Statement → (Unit → Program) → Program
  | [], rest => rest ()
  | s :: more, rest => s.program args fun _ => programOf args more rest

end

/-- The procedure that a script describes. -/
def procedure (body : List Statement) : Procedure :=
  fun args => programOf args body fun _ => .finish (.done .void)

end Admission.Script
