import MailMarkup.Decimal.Nearest

namespace MailMarkup.Decimal

def units (places : Nat) (b : Binary) : Nat :=
  let (n, d) := b.ratio
  roundDiv (n * Nat.pow 10 places) d

def padLeft (width : Nat) (s : String) : String :=
  String.ofList (List.replicate (width - s.length) '0') ++ s

def fixed (places : Nat) (x : Float) : String :=
  match Binary.ofFloat? x with
  | none => if x.isNaN then "nan" else if x < 0 then "-inf" else "inf"
  | some b =>
    let u := units places b
    let sign := if b.negative then "-" else ""
    let whole := toString (u / Nat.pow 10 places)
    let fraction := padLeft places (toString (u % Nat.pow 10 places))
    s!"{sign}{whole}.{fraction}"

def roundTo (places : Nat) (x : Float) : Float :=
  match Binary.ofFloat? x with
  | none => x
  | some b =>
    let y := nearest (units places b) (Nat.pow 10 places)
    if b.negative then -y else y

end MailMarkup.Decimal
