import MailMarkup.Decimal.Binary
import MailMarkup.Decimal.Read
import MailMarkup.Fault
import MailMarkup.Json.Basic
import MailMarkup.Text.Integer

namespace MailMarkup.Record

abbrev Decoded (α : Type) := Except (List Fault) α

abbrev Decoder (α : Type) := Json → Decoded α

def refuse {α : Type} (cause : Cause) : Decoded α := .error [⟨[], cause⟩]

def Decoded.faults {α : Type} : Decoded α → List Fault
  | .ok _ => []
  | .error faults => faults

def Decoded.within {α : Type} (step : PathStep) : Decoded α → Decoded α
  | .ok a => .ok a
  | .error faults => .error (faults.map (·.within step))

def wide : Decoder Text.Wide
  | .str s => .ok s
  | _ => refuse .notText

def text : Decoder String := fun j => (wide j).map (·.shown)

/-- Sixty-four bits bound the integers that are taken from a double. -/
def ofDouble (x : Float) : Decoded Int :=
  match Binary.ofFloat? x with
  | none => refuse .notFinite
  | some b =>
    match b.toInt? with
    | none => refuse .fraction
    | some n => if n.natAbs < Nat.pow 2 63 then .ok n else refuse .tooManyDigits

def integer : Decoder Int
  | .int n => .ok n
  | .bool b => .ok (if b then 1 else 0)
  | .real x => ofDouble x
  | .str s =>
    match Text.wholeNumber s.shown.toList with
    | .ok n => .ok n
    | .error .tooLong => refuse .tooManyDigits
    | .error .malformed => refuse .notIntegerText
  | _ => refuse .notInteger

def atLeast (bound : Int) (decode : Decoder Int) : Decoder Int := fun j =>
  match decode j with
  | .ok n => if n < bound then refuse (.atLeast bound) else .ok n
  | .error faults => .error faults

def real : Decoder Float
  | .real x => .ok x
  | .int n =>
    let x := Decimal.quotient n 1
    if x.isInf then refuse .notNumber else .ok x
  | .bool b => .ok (if b then 1.0 else 0.0)
  | .str s =>
    match Decimal.read? s.shown.toList with
    | some x => .ok x
    | none => refuse .notNumberText
  | _ => refuse .notNumber

def booleanOfInt (n : Int) : Decoded Bool :=
  if n = 0 then .ok false else if n = 1 then .ok true else refuse .notBooleanText

def booleanOfText (s : String) : Decoded Bool :=
  let word := String.ofList (s.toList.map Char.toLower)
  if ["0", "off", "f", "false", "n", "no"].contains word then .ok false
  else if ["1", "on", "t", "true", "y", "yes"].contains word then .ok true
  else refuse .notBooleanText

def boolean : Decoder Bool
  | .bool b => .ok b
  | .int n => if -(Nat.pow 2 63 : Int) ≤ n ∧ n < (Nat.pow 2 63 : Int) then booleanOfInt n else refuse .notBoolean
  | .str s => booleanOfText s.shown
  | .real x =>
    match ofDouble x with
    | .ok n => booleanOfInt n
    | .error _ => refuse .notBoolean
  | _ => refuse .notBoolean

def nullable {α : Type} (decode : Decoder α) : Decoder (Option α)
  | .null => .ok none
  | j => (decode j).map some

def list {α : Type} (decode : Decoder α) : Decoder (List α)
  | .arr items =>
    let decoded := items.zipIdx.map fun (item, i) => (decode item).within (.index i)
    match decoded.flatMap Decoded.faults with
    | [] => .ok (decoded.filterMap Except.toOption)
    | faults => .error faults
  | _ => refuse .notList

/-- A field of a record. It is looked up by its public name first, then by its plain name. -/
structure Field (α : Type) where
  publicName : String
  plainName : String
  decode : Decoder α
  default? : Option α

def Field.required {α : Type} (publicName plainName : String) (decode : Decoder α) : Field α :=
  ⟨publicName, plainName, decode, none⟩

def Field.read {α : Type} (field : Field α) (fields : List (Text.Wide × Json)) : Decoded α :=
  match Json.field? fields field.publicName with
  | some j => (field.decode j).within (.key field.publicName)
  | none =>
    match Json.field? fields field.plainName with
    | some j => (field.decode j).within (.key field.plainName)
    | none =>
      match field.default? with
      | some a => .ok a
      | none => .error [⟨[.key field.publicName], .missing⟩]

end MailMarkup.Record
