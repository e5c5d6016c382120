import MailMarkup.Decimal.Binary

namespace MailMarkup.Decimal

/-- A positive double is read back from every number between the halfway points to its neighbours;
the halfway points themselves belong to it if its mantissa is even. All of them are given in
units of `2 ^ (exponent - 2)`. -/
structure Interval where
  low : Nat
  value : Nat
  high : Nat
  closed : Bool
  exponent : Int

def Interval.ofBinary (b : Binary) : Interval :=
  let m := b.mantissa
  let low := if m = Nat.pow 2 52 ∧ -1074 < b.exponent then 4 * m - 1 else 4 * m - 2
  ⟨low, 4 * m, 4 * m + 2, m % 2 == 0, b.exponent - 2⟩

def scales (p q : Int) (d v : Nat) : Nat × Nat :=
  (d * Nat.pow 10 p.toNat * Nat.pow 2 (-q).toNat, v * Nat.pow 2 q.toNat * Nat.pow 10 (-p).toNat)

def Interval.contains (i : Interval) (p : Int) (d : Nat) : Bool :=
  let (x, low) := scales p i.exponent d i.low
  let (_, high) := scales p i.exponent d i.high
  if i.closed then decide (low ≤ x ∧ x ≤ high) else decide (low < x ∧ x < high)

def Interval.magnitude (i : Interval) : Int :=
  let (one, v) := scales 0 i.exponent 1 i.value
  if one ≤ v then (toString (v / one)).length
  else
    -- the least power of ten that lifts the value to one
    let k := (List.range 330).find? fun k => decide (one ≤ v * Nat.pow 10 k)
    1 - (k.getD 330 : Nat)

/-- The decimal with `count` digits next to the value, if one of its two neighbours on that grid is
read back as the value: the digits as a number, and the power of ten of the last one. -/
def Interval.onGrid? (i : Interval) (count : Nat) : Option (Nat × Int) :=
  let p := i.magnitude - count
  let (unit, v) := scales p i.exponent 1 i.value
  let below := v / unit
  let above := below + 1
  match i.contains p below, i.contains p above with
  | true, true => some (roundDiv v unit, p)
  | true, false => some (below, p)
  | false, true => some (above, p)
  | false, false => none

def Interval.shortest (i : Interval) : Nat × Int :=
  (((List.range 17).map (· + 1)).findSome? i.onGrid?).getD (i.value, 0)

def dropZeros (ds : List Char) : List Char := (ds.reverse.dropWhile (· == '0')).reverse

/-- Digits with the point behind the first `point` of them: plainly between `0.0001` and `10 ^ 16`,
with a power of ten otherwise. There is always a digit on both sides of a plain point. -/
def place (digits : List Char) (point : Int) : String :=
  let zeros (n : Int) := List.replicate n.toNat '0'
  if -4 < point ∧ point ≤ 16 then
    if point ≤ 0 then String.ofList ('0' :: '.' :: zeros (-point) ++ digits)
    else if digits.length ≤ point then
      String.ofList (digits ++ zeros (point - digits.length) ++ ['.', '0'])
    else String.ofList (digits.take point.toNat ++ '.' :: digits.drop point.toNat)
  else
    let e := point - 1
    let fraction := if digits.length = 1 then [] else '.' :: digits.drop 1
    let size := toString e.natAbs
    let exponent := if size.length < 2 then "0" ++ size else size
    String.ofList (digits.take 1 ++ fraction ++ ['e', if e < 0 then '-' else '+']) ++ exponent

def shortest (x : Float) : String :=
  match Binary.ofFloat? x with
  | none => if x.isNaN then "NaN" else if x < 0 then "-Infinity" else "Infinity"
  | some b =>
    let sign := if b.negative then "-" else ""
    if b.mantissa = 0 then sign ++ "0.0"
    else
      let (d, p) := (Interval.ofBinary b).shortest
      let written := (toString d).toList
      sign ++ place (dropZeros written) (written.length + p)

end MailMarkup.Decimal
