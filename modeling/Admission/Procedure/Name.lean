import Admission.Feature
import Admission.Procedure.Error
import Admission.Text.Escaped

set_option autoImplicit false

/-!
# Procedure names

A registered procedure is named by a schema and a name.  Both are there and
neither holds a `;`, which the type of a name records.  In text a part is
written plain when it reads as a lower-case identifier, and quoted otherwise.
-/

namespace Admission

/-- Whether a part of a name is there. -/
def NamePart.Present (part : String) : Prop :=
  part ≠ ""

/-- Whether a part of a name is free of `;`. -/
def NamePart.Safe (part : String) : Prop :=
  ';' ∉ part.toList

instance (part : String) : Decidable (NamePart.Present part) :=
  inferInstanceAs (Decidable (part ≠ ""))

instance (part : String) : Decidable (NamePart.Safe part) :=
  inferInstanceAs (Decidable (';' ∉ part.toList))

/-- The name of a procedure. -/
structure QualifiedName where
  schema : String
  name : String
  /-- The schema is there and holds no `;`. -/
  schema_ok : NamePart.Present schema ∧ NamePart.Safe schema
  /-- The name is there and holds no `;`. -/
  name_ok : NamePart.Present name ∧ NamePart.Safe name
  deriving DecidableEq, Repr

namespace QualifiedName

instance : Inhabited QualifiedName :=
  ⟨⟨"public", "p", by decide +kernel, by decide +kernel⟩⟩

/-- The error for a catalog entry with an empty part. -/
def missingPart (feature : Feature) : BackendError :=
  ⟨s!"schema and procedure names must be present in every \"{feature}\" catalog entry", none⟩

/-- The error for a catalog entry with a `;`. -/
def unsafePart (feature : Feature) : BackendError where
  message :=
    s!"\"{feature}\" feature does not support calling out to procedures or schemas that contain \";\""
  hint := some s!"Check that the \"{feature}\" catalog entries do not contain ';'."

/-- Check one part of a name. -/
def checkPart (feature : Feature) (part : String) :
    Except BackendError (PLift (NamePart.Present part ∧ NamePart.Safe part)) :=
  if present : NamePart.Present part then
    if safe : NamePart.Safe part then .ok ⟨⟨present, safe⟩⟩
    else .error (unsafePart feature)
  else .error (missingPart feature)

/-- The name a catalog entry gives; the schema is checked before the name. -/
def of? (feature : Feature) (schema name : String) : Except BackendError QualifiedName := do
  let s ← checkPart feature schema
  let n ← checkPart feature name
  pure ⟨schema, name, s.down, n.down⟩

/-- The characters a plain identifier may start with. -/
def isPlainStart (c : Char) : Bool :=
  c.isLower || c = '_'

/-- The characters a plain identifier may go on with. -/
def isPlainRest (c : Char) : Bool :=
  c.isLower || c.isDigit || c = '_' || c = '$'

/-- Whether an identifier needs no quotes. -/
def isPlain : List Char → Bool
  | [] => false
  | c :: cs => isPlainStart c && cs.all isPlainRest

/-- An identifier as it is written: plain, or between double quotes with the
quotes in it doubled. -/
def quotePart (cs : List Char) : List Char :=
  if isPlain cs then cs else Text.quotedDoubling (· = '"') cs

/-- The whole name as it is written. -/
def quoted (n : QualifiedName) : String :=
  String.ofList (quotePart n.schema.toList ++ '.' :: quotePart n.name.toList)

end QualifiedName

end Admission
