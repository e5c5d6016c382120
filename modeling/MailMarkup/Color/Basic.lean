namespace MailMarkup

/-- A color by its channels. Colors that are read have channels from 0 to 255; computed ones need
not. -/
structure Rgb where
  red : Int
  green : Int
  blue : Int
  deriving DecidableEq, Repr

namespace Rgb

def toList (c : Rgb) : List Int := [c.red, c.green, c.blue]

/-- What a dark-mode client makes of a color. -/
def invert (c : Rgb) : Rgb := ⟨255 - c.red, 255 - c.green, 255 - c.blue⟩

theorem invert_invert (c : Rgb) : c.invert.invert = c := by
  simp only [invert]
  congr <;> omega

def hexChannel (n : Int) : List Char :=
  let ds := Nat.toDigits 16 n.natAbs
  if n < 0 then '-' :: ds
  else if ds.length < 2 then '0' :: ds
  else ds

def toHex (c : Rgb) : String := String.ofList ('#' :: c.toList.flatMap hexChannel)

end Rgb

end MailMarkup
