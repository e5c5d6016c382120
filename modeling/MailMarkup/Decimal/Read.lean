import MailMarkup.Decimal.Nearest
import MailMarkup.Text.Integer

namespace MailMarkup.Decimal

def digits (cs : List Char) : List Char × List Char :=
  (cs.takeWhile Char.isDigit, cs.dropWhile Char.isDigit)

def natOf (ds : List Char) : Nat := ds.foldl (fun n d => 10 * n + (d.toNat - 48)) 0

/-- The double nearest to `± n · 10 ^ e`. Beyond the range of doubles the exact power does not
matter. -/
def realOf (negative : Bool) (n : Nat) (e : Int) : Float :=
  let size : Int := (toString n).length
  let x :=
    if n = 0 ∨ size + e < -400 then 0.0
    else if 400 < size + e then 1.0 / 0.0
    else nearest (n * Nat.pow 10 e.toNat) (Nat.pow 10 (-e).toNat)
  if negative then -x else x

def exponent? (cs : List Char) : Option (Int × List Char) :=
  match cs with
  | e :: rest =>
    if e = 'e' ∨ e = 'E' then
      let negative := rest.head? == some '-'
      let unsigned := if negative || rest.head? == some '+' then rest.tail else rest
      match digits unsigned with
      | ([], _) => none
      | (ds, after) => some (if negative then -natOf ds else natOf ds, after)
    else none
  | [] => none

def words : List (String × Float) :=
  [("inf", 1.0 / 0.0), ("infinity", 1.0 / 0.0), ("nan", 0.0 / 0.0)]

def magnitude? (negative : Bool) (cs : List Char) : Option Float :=
  let (whole, rest) := digits cs
  let (decimals, rest) := if rest.head? == some '.' then digits rest.tail else ([], rest)
  let n := natOf (whole ++ decimals)
  let e : Int := -decimals.length
  if whole.isEmpty && decimals.isEmpty then none
  else if rest.isEmpty then some (realOf negative n e)
  else match exponent? rest with
    | some (x, []) => some (realOf negative n (x + e))
    | _ => none

def unspaced? (cs : List Char) : Option Float :=
  let (negative, body) := Text.splitSign cs
  match words.lookup (String.ofList (body.map Char.toLower)) with
  | some x => some (if negative then -x else x)
  | none => magnitude? negative body

/-- The double that a text spells, with plain blanks around it; or without blanks and with low lines
that are left out. -/
def read? (cs : List Char) : Option Float :=
  (unspaced? (Text.trimPlain cs)).or
    (if Text.joinsWithin cs then unspaced? (cs.filter (· != '_')) else none)

end MailMarkup.Decimal
