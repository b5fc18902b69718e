import Admission.Text.Blank

set_option autoImplicit false

/-!
# Messages on one line

A rejection is shown to a client and written to a log, both of which want one
line.  Folding trims every line, drops the blank ones and joins the rest with a
single space; a message with no text left is replaced by a fallback.
-/

namespace Admission.Text

/-- Put a character in front of a text in lines: into the first line, or before a
new empty line if it is a line feed. -/
def consLine (c : Char) (ls : List (List Char)) : List (List Char) :=
  if c = '\n' then
    [] :: ls
  else
    match ls with
    | [] => [[c]]
    | line :: rest => (c :: line) :: rest

/-- Split a text at its line feeds. -/
def lines (cs : List Char) : List (List Char) :=
  cs.foldr consLine [[]]

@[simp] theorem lines_nil : lines [] = [[]] := rfl

@[simp] theorem lines_cons (c : Char) (cs : List Char) :
    lines (c :: cs) = consLine c (lines cs) := rfl

/-- Join lines with one space between neighbours. -/
def joinWithSpace (ls : List (List Char)) : List Char :=
  [' '].intercalate ls

/-- The trimmed, non-blank lines of a text, joined by single spaces. -/
def fold (cs : List Char) : List Char :=
  joinWithSpace (((lines cs).map trim).filter fun line => !line.isEmpty)

/-- Message of a rejection that carries no text. -/
def emptyRejection : String :=
  "rejected by a registered procedure"

/-- Fold a message onto one line; a message without text becomes `emptyRejection`. -/
def singleLine (raw : String) : String :=
  let folded := fold raw.toList
  if folded.isEmpty then emptyRejection else String.ofList folded

end Admission.Text
