namespace MailMarkup

/-- A finite double as it is: `± mantissa · 2 ^ exponent`. -/
structure Binary where
  negative : Bool
  mantissa : Nat
  exponent : Int
  deriving DecidableEq, Repr

namespace Binary

def ofFloat? (x : Float) : Option Binary :=
  let bits : Nat := x.toBits.toNat
  let biased : Nat := bits / Nat.pow 2 52 % Nat.pow 2 11
  let fraction : Nat := bits % Nat.pow 2 52
  let negative := decide (Nat.pow 2 63 ≤ bits)
  if biased = 2047 then none
  else if biased = 0 then some ⟨negative, fraction, -1074⟩
  else some ⟨negative, Nat.pow 2 52 + fraction, (biased : Int) - 1075⟩

def ratio (b : Binary) : Nat × Nat :=
  (b.mantissa * Nat.pow 2 b.exponent.toNat, Nat.pow 2 (-b.exponent).toNat)

def toInt? (b : Binary) : Option Int :=
  let (n, d) := b.ratio
  if n % d = 0 then some (if b.negative then -(n / d : Nat) else (n / d : Nat)) else none

def truncate (b : Binary) : Int :=
  let (n, d) := b.ratio
  if b.negative then -(n / d : Nat) else (n / d : Nat)

end Binary

/-- The integer nearest to `n / d`; a half goes to the even neighbour. -/
def roundDiv (n d : Nat) : Nat :=
  let q := n / d
  let r := 2 * (n % d)
  if d < r then q + 1
  else if r = d then q + q % 2
  else q

end MailMarkup
