set_option autoImplicit false

/-!
# Tokens of YAML

The units a YAML text is read in, and the causes for which a text is refused.
Indentation has become tokens of its own: a block collection opens with a start
token and closes with `blockEnd`.
-/

namespace Admission.Yaml

/-- Why a text is no YAML document. -/
inductive SyntaxError where
  /-- A character that no document may hold. -/
  | controlCharacter
  /-- A tab where the indentation counts. -/
  | tabInIndentation
  /-- A character that starts no token. -/
  | unexpectedCharacter
  /-- A quoted scalar without its closing quote. -/
  | unterminatedScalar
  /-- An escape sequence that means nothing. -/
  | unknownEscape
  /-- A document marker inside a quoted scalar. -/
  | markerInScalar
  /-- A block scalar header with something else behind it. -/
  | blockHeader
  /-- An anchor, alias or tag without a proper name. -/
  | malformedName
  /-- A directive that is not understood. -/
  | unknownDirective
  /-- A directive that was given before. -/
  | repeatedDirective
  /-- A tag handle that no directive explains. -/
  | unknownHandle
  /-- A key without its colon. -/
  | missingColon
  /-- A key, value or entry where none may stand. -/
  | misplacedIndicator
  /-- A token that the structure has no place for. -/
  | unexpectedToken
  /-- An alias of an anchor that is not there. -/
  | unknownAnchor
  /-- More than one document. -/
  | severalDocuments
  deriving DecidableEq, Repr, Inhabited

/-- The text shown for a cause. -/
def SyntaxError.message : SyntaxError → String
  | .controlCharacter => "control characters are not allowed"
  | .tabInIndentation => "found a tab character where an indentation space is expected"
  | .unexpectedCharacter => "found character that cannot start any token"
  | .unterminatedScalar => "found unexpected end of stream"
  | .unknownEscape => "found unknown escape character"
  | .markerInScalar => "found unexpected document indicator"
  | .blockHeader => "did not find expected comment or line break"
  | .malformedName => "did not find expected name"
  | .unknownDirective => "found unknown directive"
  | .repeatedDirective => "found duplicate directive"
  | .unknownHandle => "found undefined tag handle"
  | .missingColon => "could not find expected ':'"
  | .misplacedIndicator => "keys, values and entries are not allowed in this context"
  | .unexpectedToken => "did not find expected node"
  | .unknownAnchor => "unknown anchor"
  | .severalDocuments => "deserializing from YAML containing more than one document"

/-- How a scalar was written. -/
inductive ScalarStyle where
  | plain
  | quoted
  | literal
  | folded
  deriving DecidableEq, Repr, Inhabited

/-- A tag, as the bytes that stand for it. -/
abbrev Tag : Type := List UInt8

/-- A unit of a YAML text. -/
inductive Token where
  /-- A `%YAML` line. -/
  | version (major minor : Nat)
  /-- A `%TAG` line: what a handle stands for. -/
  | tagHandle (handle : String) (expansion : Tag)
  | documentStart
  | documentEnd
  | blockSequenceStart
  | blockMappingStart
  | blockEnd
  | flowSequenceStart
  | flowSequenceEnd
  | flowMappingStart
  | flowMappingEnd
  | blockEntry
  | flowEntry
  | key
  | value
  | anchor (name : String)
  | alias (name : String)
  /-- A tag: a handle, empty for a tag that is complete, and what follows it. -/
  | tag (handle : String) (suffix : Tag)
  | scalar (text : String) (style : ScalarStyle)
  deriving DecidableEq, Repr, Inhabited

end Admission.Yaml
