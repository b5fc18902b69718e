set_option autoImplicit false

/-!
# Options of the viewer

What the words of the command line ask for.  The words are taken in order, and
the first one that is wrong, or asks for help, decides.
-/

namespace Admission.Viewer

/-- How a report is written. -/
inductive Format where
  | pretty
  | json
  deriving DecidableEq, Repr, Inhabited

/-- Read a format; the case of its letters does not matter. -/
def Format.parse? (word : String) : Option Format :=
  match String.ofList (word.toList.map Char.toLower) with
  | "pretty" | "p" => some .pretty
  | "json" | "j" => some .json
  | _ => none

/-- What to show. -/
structure Options where
  /-- The name of the table's segment. -/
  segment : String
  /-- Show idle slots too. -/
  all : Bool := false
  format : Format := .pretty
  deriving DecidableEq, Repr, Inhabited

/-- What a command line asks for. -/
inductive Command where
  | view (options : Options)
  | help
  | version
  /-- The words make no sense. -/
  | misuse
  deriving DecidableEq, Repr, Inhabited

/-- What was read of a command line so far. -/
structure Reading where
  segment : Option String := none
  all : Option Bool := none
  format : Option Format := none
  deriving DecidableEq, Repr, Inhabited

namespace Reading

/-- Take a word that is no option. -/
def withSegment? (r : Reading) (word : String) : Option Reading :=
  if r.segment.isSome then none else some { r with segment := some word }

/-- Take the option for idle slots. -/
def withAll? (r : Reading) : Option Reading :=
  if r.all.isSome then none else some { r with all := some true }

/-- Take the option for the format. -/
def withFormat? (r : Reading) (word : String) : Option Reading :=
  if r.format.isSome then none
  else (Format.parse? word).map fun f => { r with format := some f }

/-- The command of a line that was read to its end. -/
def command (r : Reading) : Command :=
  match r.segment with
  | none => .misuse
  | some segment => .view ⟨segment, r.all.getD false, r.format.getD .pretty⟩

end Reading

/-- What a word of short options asks for. -/
inductive Shorts where
  /-- All letters were taken. -/
  | taken (reading : Reading)
  /-- The last letter wants a value, which is the next word. -/
  | wantsFormat (reading : Reading)
  /-- A letter ends the reading. -/
  | ends (command : Command)

/-- Read the letters of a word behind its dash. -/
def shorts (r : Reading) : List Char → Shorts
  | [] => .taken r
  | 'a' :: rest =>
    match r.withAll? with
    | some r => shorts r rest
    | none => .ends .misuse
  | ['f'] => .wantsFormat r
  | 'f' :: value =>
    let value := match value with
      | '=' :: v => v
      | v => v
    match r.withFormat? (String.ofList value) with
    | some r => .taken r
    | none => .ends .misuse
  | 'h' :: _ => .ends .help
  | 'V' :: _ => .ends .version
  | _ => .ends .misuse

/-- Whether a word can be the value of an option or a segment name: it is a lone
dash or starts with none. -/
def isValue (word : String) : Bool :=
  word = "-" || word.toList.head? ≠ some '-'

/-- Go on with a reading, if there is one. -/
def continuing (r : Option Reading) (next : Reading → Command) : Command :=
  match r with
  | some r => next r
  | none => .misuse

/-- Read words that are all segment names. -/
def readNames (r : Reading) : List String → Command
  | [] => r.command
  | word :: rest => continuing (r.withSegment? word) (readNames · rest)

/-- Read the words of a command line. -/
def readWords (r : Reading) : List String → Command
  | [] => r.command
  | word :: rest =>
    if isValue word then continuing (r.withSegment? word) (readWords · rest)
    else
      match word.toList with
      | ['-', '-'] => readNames r rest
      | '-' :: '-' :: 'f' :: 'o' :: 'r' :: 'm' :: 'a' :: 't' :: '=' :: value =>
        continuing (r.withFormat? (String.ofList value)) (readWords · rest)
      | '-' :: '-' :: name =>
        match String.ofList name with
        | "all" => continuing r.withAll? (readWords · rest)
        | "format" => formatNext r rest
        | "help" => .help
        | "version" => .version
        | _ => .misuse
      | _ :: letters =>
        match shorts r letters with
        | .taken r => readWords r rest
        | .wantsFormat r => formatNext r rest
        | .ends command => command
      | [] => .misuse
where
  /-- Take the next word as the format and read on. -/
  formatNext (r : Reading) : List String → Command
    | [] => .misuse
    | value :: rest =>
      if isValue value then continuing (r.withFormat? value) (readWords · rest) else .misuse

/-- What a command line asks for. -/
def Command.ofWords (words : List String) : Command :=
  readWords {} words

end Admission.Viewer
