import MailMarkup.Color.Basic
import MailMarkup.Decimal.Nearest
import MailMarkup.Decimal.RangeError

namespace MailMarkup.Rgb

def intensity (n : Int) : Float := Decimal.quotient n 255

def linear (n : Int) : Float :=
  let v := intensity n
  if v ≤ 0.03928 then v / 12.92 else ((v + 0.055) / 1.055).pow 2.4

def luminance (c : Rgb) : Float :=
  0.2126 * linear c.red + 0.7152 * linear c.green + 0.0722 * linear c.blue

def contrast (a b : Rgb) : Float :=
  let x := a.luminance
  let y := b.luminance
  if x < y then (y + 0.05) / (x + 0.05) else (x + 0.05) / (y + 0.05)

def overflow? (n : Int) : Option RangeError :=
  if (intensity n).isInf then some .quotient
  else if (linear n).isInf then some .power
  else none

def luminance? (c : Rgb) : Except RangeError Float :=
  match c.toList.findSome? overflow? with
  | some e => .error e
  | none => .ok c.luminance

def contrast? (a b : Rgb) : Except RangeError Float := do
  let x ← a.luminance?
  let y ← b.luminance?
  if (if x < y then x else y) + 0.05 == 0.0 then .error .zeroDivisor
  else return a.contrast b

end MailMarkup.Rgb
