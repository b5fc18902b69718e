import Admission.Connection
import Admission.Proofs.Text.Composite

set_option autoImplicit false

/-!
# Reading the literal of a connection

The literal that a procedure is handed is a composite literal with seven fields: a flag,
four texts and two codes.  Whatever the texts are, with quotes, commas or parentheses in
them, the reader of composite literals finds the seven fields again and they have the
connection in them, so no two connections have the same literal.
-/

namespace Admission.Connection

open Text (between_doubled)
open Text.Composite (Field Literal isBare literal? literal?_eq_some_iff)

/-! ## Reading one field -/

/-- A flag, from its letter. -/
def flag? : List Char → Option Bool
  | ['t'] => some true
  | ['f'] => some false
  | _ => none

/-- A number, from its decimal digits. -/
def natural? (digits : List Char) : Option Nat :=
  if digits ≠ [] ∧ digits.all Char.isDigit then some (Nat.ofDigitChars 10 digits 0) else none

/-- A number in decimal, with a minus sign before it or without a sign. -/
def integer? : List Char → Option Int
  | '-' :: digits => (natural? digits).map fun n : Nat => -(n : Int)
  | digits => (natural? digits).map Int.ofNat

/-- A code, if the number is in range for one. -/
def code? (text : List Char) : Option Int32 := do
  let i ← integer? text
  if h : Int32.minValue.toInt ≤ i ∧ i ≤ Int32.maxValue.toInt then
    some (Int32.ofIntLE i h.1 h.2)
  else none

/-- A connection, from the texts of its seven fields. -/
def ofFields? : List (List Char) → Option Connection
  | [noblock, host, hostname, resolv, errcode, database, user] => do
    let noblock ← flag? noblock
    let resolv ← code? resolv
    let errcode ← code? errcode
    some
      { noblock
        host := String.ofList host
        hostname := String.ofList hostname
        resolv
        errcode
        database := String.ofList database
        user := String.ofList user }
  | _ => none

/-- A connection, from its composite literal. -/
def ofRecordLiteral? (literal : String) : Option Connection :=
  (literal? literal.toList).bind ofFields?

/-! ## Numbers in decimal -/

theorem natural?_toDigits (n : Nat) : natural? (Nat.toDigits 10 n) = some n := by
  have hdigits : (Nat.toDigits 10 n).all Char.isDigit :=
    List.all_eq_true.mpr fun c hc => Nat.isDigit_of_mem_toDigits (by decide) (by decide) hc
  rw [natural?, if_pos ⟨Nat.toDigits_ne_nil, hdigits⟩,
    Nat.ofDigitChars_toDigits (by decide) (by decide)]

/-- A number in decimal starts with a digit, so it is not read as one with a sign. -/
theorem integer?_toDigits (n : Nat) : integer? (Nat.toDigits 10 n) = some (n : Int) := by
  unfold integer?
  split
  · rename_i digits hminus
    have hdigit : ('-').isDigit = true :=
      Nat.isDigit_of_mem_toDigits (by decide) (by decide) (hminus ▸ List.mem_cons_self)
    cases hdigit
  · rw [natural?_toDigits, Option.map_some, Int.ofNat_eq_natCast]

theorem toList_toString_of_nonneg {i : Int} (h : 0 ≤ i) :
    (toString i).toList = Nat.toDigits 10 i.toNat := by
  rw [Int.toString_eq_repr, Int.repr_eq_if, if_pos h, Nat.toList_repr]

theorem toList_toString_of_neg {i : Int} (h : i < 0) :
    (toString i).toList = '-' :: Nat.toDigits 10 (-i).toNat := by
  rw [Int.toString_eq_repr, Int.repr_eq_if, if_neg (by omega), String.toList_append,
    Nat.toList_repr]
  rfl

theorem integer?_toString (i : Int) : integer? (toString i).toList = some i := by
  by_cases h : 0 ≤ i
  · rw [toList_toString_of_nonneg h, integer?_toDigits, Int.toNat_of_nonneg h]
  · have hneg : ((-i).toNat : Int) = -i := Int.toNat_of_nonneg (by omega)
    rw [toList_toString_of_neg (by omega), integer?, natural?_toDigits, Option.map_some, hneg,
      Int.neg_neg]

/-- Every code is read back from its decimal text. -/
theorem code?_toString (i : Int32) : code? (toString i.toInt).toList = some i := by
  rw [code?, integer?_toString, Option.bind_eq_bind, Option.bind_some,
    dif_pos ⟨i.minValue_le_toInt, i.toInt_le⟩, Int32.ofIntLE_toInt]

/-! ## Writing one field -/

theorem isBare_of_isDigit {c : Char} (h : c.isDigit = true) : isBare c = true := by
  have hne : ∀ d : Char, d.isDigit = false → c ≠ d := by
    rintro d hd rfl
    rw [h] at hd
    cases hd
  simp [isBare, hne ',' rfl, hne '(' rfl, hne ')' rfl, hne '"' rfl, hne '\\' rfl]

theorem isBare_of_mem_toDigits {n : Nat} {c : Char} (h : c ∈ Nat.toDigits 10 n) :
    isBare c = true :=
  isBare_of_isDigit (Nat.isDigit_of_mem_toDigits (by decide) (by decide) h)

theorem field_flag (b : Bool) :
    Field [if b then 't' else 'f'] [if b then 't' else 'f'] := by
  refine .bare (List.cons_ne_nil _ _) ?_
  cases b <;> simp [isBare]

theorem field_integer (i : Int) : Field (toString i).toList (toString i).toList := by
  by_cases h : 0 ≤ i
  · rw [toList_toString_of_nonneg h]
    exact .bare Nat.toDigits_ne_nil fun c hc => isBare_of_mem_toDigits hc
  · rw [toList_toString_of_neg (by omega)]
    refine .bare (List.cons_ne_nil _ _) fun c hc => ?_
    rcases List.mem_cons.mp hc with rfl | hc
    · rfl
    · exact isBare_of_mem_toDigits hc

/-- A text is a quoted field, with any characters in it. -/
theorem field_literalText (s : String) : Field (literalText s) s.toList :=
  .quoted (between_doubled isDoubled s.toList)

/-! ## The seven fields -/

/-- The texts of the fields of a connection. -/
def fieldTexts (c : Connection) : List (List Char) :=
  [[if c.noblock then 't' else 'f'], c.host.toList, c.hostname.toList,
    (toString c.resolv.toInt).toList, (toString c.errcode.toInt).toList, c.database.toList,
    c.user.toList]

theorem literal_toRecordLiteral (c : Connection) :
    Literal c.toRecordLiteral.toList c.fieldTexts := by
  refine ⟨_, ?_, .more (field_flag c.noblock) <| .more (field_literalText c.host) <|
    .more (field_literalText c.hostname) <| .more (field_integer c.resolv.toInt) <|
    .more (field_integer c.errcode.toInt) <| .more (field_literalText c.database) <|
    .last (field_literalText c.user)⟩
  simp [toRecordLiteral]

theorem ofFields?_fieldTexts (c : Connection) : ofFields? c.fieldTexts = some c := by
  have hflag : flag? [if c.noblock then 't' else 'f'] = some c.noblock := by
    cases c.noblock <;> rfl
  simp only [ofFields?, fieldTexts, hflag, code?_toString, Option.bind_eq_bind, Option.bind_some,
    String.ofList_toList]

theorem ofRecordLiteral?_eq_some_iff {literal : String} {c : Connection} :
    ofRecordLiteral? literal = some c ↔
      ∃ texts : List (List Char), Literal literal.toList texts ∧ ofFields? texts = some c := by
  rw [ofRecordLiteral?, Option.bind_eq_some_iff]
  simp only [literal?_eq_some_iff]

theorem ofRecordLiteral?_toRecordLiteral (c : Connection) :
    ofRecordLiteral? c.toRecordLiteral = some c :=
  ofRecordLiteral?_eq_some_iff.mpr ⟨_, literal_toRecordLiteral c, ofFields?_fieldTexts c⟩

/-! ## No connection is lost -/

/-- The reader goes by the rules of composite literals.  By these the literal of a connection
has the seven fields of the connection and no others, and the reader has the connection back
from it; so two connections have the same literal only if they are the same. -/
theorem recordLiteral_lossless :
    (∀ (literal : String) (c : Connection), ofRecordLiteral? literal = some c ↔
      ∃ texts : List (List Char), Literal literal.toList texts ∧ ofFields? texts = some c) ∧
    (∀ (c : Connection) (texts : List (List Char)),
      Literal c.toRecordLiteral.toList texts ↔ texts = c.fieldTexts) ∧
    (∀ c : Connection, ofRecordLiteral? c.toRecordLiteral = some c) ∧
    ∀ c c' : Connection, c.toRecordLiteral = c'.toRecordLiteral ↔ c = c' := by
  refine ⟨fun literal c => ofRecordLiteral?_eq_some_iff, ?_, ofRecordLiteral?_toRecordLiteral, ?_⟩
  · intro c texts
    constructor
    · intro h
      exact h.unique (literal_toRecordLiteral c)
    · intro h
      rw [h]
      exact literal_toRecordLiteral c
  · intro c c'
    constructor
    · intro h
      have hread := ofRecordLiteral?_toRecordLiteral c
      rw [h, ofRecordLiteral?_toRecordLiteral c'] at hread
      exact (Option.some.inj hread).symm
    · intro h
      rw [h]

end Admission.Connection
