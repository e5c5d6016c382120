import MailMarkup.Text.Blank
import MailMarkup.Text.Digit

namespace MailMarkup.Text

def grouped? (isDigit : Char → Bool) (cs : List Char) : Option Nat :=
  let groups := pieces (· == '_') cs
  if groups.all fun g => !g.isEmpty && g.all isDigit then some (number groups.flatten) else none

def splitSign (cs : List Char) : Bool × List Char :=
  match cs with
  | '-' :: rest => (true, rest)
  | '+' :: rest => (false, rest)
  | _ => (false, cs)

def signed (negative : Bool) (n : Nat) : Int := if negative then -n else n

def maxDigits : Nat := 4300

def integer? (cs : List Char) : Option Int :=
  let (negative, body) := splitSign (trim cs)
  if maxDigits < (body.filter (· != '_')).length then none
  else (grouped? isDigit body).map (signed negative)

def isPlainBlank (c : Char) : Bool := isBlank c && !decide (28 ≤ c.toNat ∧ c.toNat ≤ 31)

def trimPlain (cs : List Char) : List Char :=
  ((cs.dropWhile isPlainBlank).reverse.dropWhile isPlainBlank).reverse

inductive NumeralError where
  | malformed
  | tooLong
  deriving DecidableEq, Repr

/-- Reads a numeral: digits with a minus or none, and no zero in front of others. A run of too many
digits is refused whatever follows it. -/
def numeral (cs : List Char) : Except NumeralError Int :=
  let negative := cs.head? == some '-'
  let body := if negative then cs.tail else cs
  let ds := body.takeWhile Char.isDigit
  let rest := body.dropWhile Char.isDigit
  if ds.isEmpty then .error .malformed
  else if ds.head? == some '0' then
    if body == ['0'] then .ok 0 else .error .malformed
  else if maxDigits < ds.length then .error .tooLong
  else if rest.isEmpty then .ok (signed negative (number ds))
  else .error .malformed

def isNumeralStart (c : Char) : Bool := decide ('1' ≤ c ∧ c ≤ '9') || c == '-'

/-- Takes off leading zeros and the low lines among them, but keeps a last character before a point
or the end. None if no numeral follows. -/
def withoutZeros? (cs : List Char) : Option (List Char) :=
  let isZero := fun c => c == '0' || c == '_'
  match cs.head?, (cs.takeWhile isZero).getLast?, cs.dropWhile isZero with
  | some '0', some last, [] => some [last]
  | some '0', some last, c :: rest =>
    if isNumeralStart c then some (c :: rest)
    else if c = '.' then some (last :: c :: rest)
    else none
  | some c, _, _ => if isNumeralStart c then some cs else none
  | none, _, _ => none

def withoutDecimals (cs : List Char) : List Char :=
  let decimals := (cs.dropWhile (· != '.')).tail
  if !decimals.isEmpty && decimals.all (· == '0') then cs.takeWhile (· != '.') else cs

def joinsWithin (cs : List Char) : Bool := (pieces (· == '_') cs).all (!·.isEmpty)

def tidy? (cs : List Char) : Option (List Char) :=
  let unsigned? := match trimPlain cs with
    | '+' :: '-' :: _ => none
    | '+' :: rest => some rest
    | rest => some rest
  (unsigned?.bind withoutZeros?).map fun cs =>
    let whole := withoutDecimals cs
    if joinsWithin whole then whole.filter (· != '_') else whole

def wholeNumber (cs : List Char) : Except NumeralError Int :=
  match numeral cs, tidy? cs with
  | .error .malformed, some tidied => numeral tidied
  | r, _ => r

end MailMarkup.Text
