namespace MailMarkup

inductive RangeError where
  | quotient
  | power
  | zeroDivisor
  | infinite
  | notNumber
  deriving DecidableEq, Repr

def RangeError.message : RangeError → String
  | quotient => "integer division result too large for a float"
  | power => "(34, 'Numerical result out of range')"
  | zeroDivisor => "float division by zero"
  | infinite => "cannot convert float infinity to integer"
  | notNumber => "cannot convert float NaN to integer"

end MailMarkup
