import MailMarkup.Text.Wide

namespace MailMarkup

/-- A JSON value. Whole numbers and numbers with a fraction or an exponent are kept apart, and the
fields of an object keep the order in which they were written. -/
inductive Json where
  | null
  | bool (b : Bool)
  | int (n : Int)
  | real (x : Float)
  | str (s : Text.Wide)
  | arr (items : List Json)
  | obj (fields : List (Text.Wide × Json))
  deriving Inhabited

namespace Json

def field? (fields : List (Text.Wide × Json)) (key : String) : Option Json :=
  (fields.reverse.find? (·.1 == (key : Text.Wide))).map (·.2)

mutual

def holds (p : Json → Bool) (q : Text.Wide → Bool) : Json → Bool
  | .arr items => p (.arr items) || itemsHold p q items
  | .obj fields => p (.obj fields) || fieldsHold p q fields
  | j => p j

def itemsHold (p : Json → Bool) (q : Text.Wide → Bool) : List Json → Bool
  | [] => false
  | item :: items => holds p q item || itemsHold p q items

def fieldsHold (p : Json → Bool) (q : Text.Wide → Bool) : List (Text.Wide × Json) → Bool
  | [] => false
  | (key, value) :: fields =>
    q key || (holds p q value && !fields.any (·.1 == key)) || fieldsHold p q fields

end

def holdsNonFinite (j : Json) : Bool :=
  j.holds (fun | .real x => !x.isFinite | _ => false) fun _ => false

def holdsHalf (j : Json) : Bool :=
  j.holds (fun | .str s => s.hasHalves | _ => false) Text.Wide.hasHalves

end Json

end MailMarkup
