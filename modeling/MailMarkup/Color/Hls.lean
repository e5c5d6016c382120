import MailMarkup.Color.Luminance
import MailMarkup.Decimal.Binary

namespace MailMarkup

structure Hls where
  hue : Float
  lightness : Float
  saturation : Float

namespace Hls

def fractionalPart (x : Float) : Float := x - x.floor

def oneThird : Float := 1.0 / 3.0

def oneSixth : Float := 1.0 / 6.0

def twoThirds : Float := 2.0 / 3.0

def larger (x y : Float) : Float := if x < y then y else x

def smaller (x y : Float) : Float := if y < x then y else x

def ofRgb (c : Rgb) : Hls :=
  let r := Rgb.intensity c.red
  let g := Rgb.intensity c.green
  let b := Rgb.intensity c.blue
  let most := larger (larger r g) b
  let least := smaller (smaller r g) b
  let sum := most + least
  let range := most - least
  let lightness := sum / 2.0
  if least == most then ⟨0.0, lightness, 0.0⟩
  else
    let saturation := if lightness ≤ 0.5 then range / sum else range / (2.0 - most - least)
    let rc := (most - r) / range
    let gc := (most - g) / range
    let bc := (most - b) / range
    let sixths :=
      if r == most then bc - gc
      else if g == most then 2.0 + rc - bc
      else 4.0 + gc - rc
    ⟨fractionalPart (sixths / 6.0), lightness, saturation⟩

/-- The intensity of a channel whose own hue lies `hue` away, between two levels. -/
def level (low high hue : Float) : Float :=
  let h := fractionalPart hue
  if h < oneSixth then low + (high - low) * h * 6.0
  else if h < 0.5 then high
  else if h < twoThirds then low + (high - low) * (twoThirds - h) * 6.0
  else low

def levels (c : Hls) : Float × Float × Float :=
  let l := c.lightness
  let s := c.saturation
  if s == 0.0 then (l, l, l)
  else
    let high := if l ≤ 0.5 then l * (1.0 + s) else l + s - l * s
    let low := 2.0 * l - high
    (level low high (c.hue + oneThird), level low high c.hue, level low high (c.hue - oneThird))

def channel? (x : Float) : Except RangeError Int :=
  let y := x * 255.0 + 0.5
  match Binary.ofFloat? y with
  | some b => .ok b.truncate
  | none => .error (if y.isNaN then .notNumber else .infinite)

def toRgb? (c : Hls) : Except RangeError Rgb := do
  let (r, g, b) := c.levels
  return ⟨← channel? r, ← channel? g, ← channel? b⟩

/-- The channels of a color; black stands for what has none. -/
def toRgb (c : Hls) : Rgb := c.toRgb?.toOption.getD ⟨0, 0, 0⟩

def ofThousandths? (hue lightness saturation : Int) : Except RangeError Hls :=
  let c : Hls := ⟨Decimal.quotient hue 1000, Decimal.quotient lightness 1000,
    Decimal.quotient saturation 1000⟩
  if c.hue.isInf || c.lightness.isInf || c.saturation.isInf then .error .quotient else .ok c

end Hls

end MailMarkup
