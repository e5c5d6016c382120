import MailMarkup.Decimal.Binary

namespace MailMarkup.Decimal

/-- The power of two that is the unit of the mantissa of `n / d`: the mantissa has 53 bits, or fewer
at the lower end of the range. -/
def mantissaUnit (n d : Nat) : Int :=
  let e : Int := (n.log2 : Int) - d.log2 - 53
  let (x, y) := (n * Nat.pow 2 (-e).toNat, d * Nat.pow 2 e.toNat)
  max (-1074) (if Nat.pow 2 53 * y ≤ x then e + 1 else e)

/-- The double nearest to `n / d`; a tie goes to the even mantissa, and what is too large becomes
infinite. A mantissa that is rounded up to 54 bits carries over into the exponent. -/
def nearest (n d : Nat) : Float :=
  if n = 0 then 0.0
  else
    let e := mantissaUnit n d
    let mantissa := roundDiv (n * Nat.pow 2 (-e).toNat) (d * Nat.pow 2 e.toNat)
    let bits := (e + 1074).toNat * Nat.pow 2 52 + mantissa
    if 2047 * Nat.pow 2 52 ≤ bits then 1.0 / 0.0 else Float.ofBits (UInt64.ofNat bits)

def quotient (n : Int) (d : Nat) : Float :=
  if n < 0 then -nearest n.natAbs d else nearest n.natAbs d

end MailMarkup.Decimal
