import MailMarkup.Color.Hls
import MailMarkup.Color.Parse
import MailMarkup.Decimal.Fixed

namespace MailMarkup

/-- How a text color reads on a background, as written and with both colors inverted. Colors are
given as `#rrggbb`; a better text color is suggested only if the pair fails in one mode. -/
structure ContrastReport where
  textColor : String
  backgroundColor : String
  lightModeContrast : Float
  darkModeContrast : Float
  passesLight : Bool
  passesDark : Bool
  suggestion : Option String

namespace Contrast

def minimum : Float := 4.5

def firstBest {α σ : Type} [LT σ] [DecidableLT σ] (score : α → σ) (fallback : α) (bar : σ)
    (candidates : List α) : α :=
  (candidates.foldl (fun best c => if best.2 < score c then (c, score c) else best)
    (fallback, bar)).1

def worst {σ : Type} [LT σ] [DecidableLT σ] (contrast : Rgb → Rgb → σ) (background text : Rgb) :
    σ :=
  let light := contrast text background
  let dark := contrast text.invert background.invert
  if dark < light then dark else light

def shade (text : Rgb) (percent : Nat) : Rgb :=
  Hls.toRgb { Hls.ofRgb text with lightness := Float.ofNat percent / 100.0 }

def shades (text : Rgb) : List Rgb := (List.range 101).map (shade text)

/-- The shade of a text color that reads best in both modes, by a measure of contrast that is always
above the bar; of equally good ones the darkest. -/
def suggestBy {σ : Type} [LT σ] [DecidableLT σ] (contrast : Rgb → Rgb → σ) (bar : σ)
    (text background : Rgb) : Rgb :=
  firstBest (worst contrast background) text bar (shades text)

def suggest (text background : Rgb) : Rgb := suggestBy Rgb.contrast 0.0 text background

def analyze (text background : Rgb) : ContrastReport :=
  let light := text.contrast background
  let dark := text.invert.contrast background.invert
  let passesLight := decide (minimum ≤ light)
  let passesDark := decide (minimum ≤ dark)
  { textColor := text.toHex
    backgroundColor := background.toHex
    lightModeContrast := Decimal.roundTo 2 light
    darkModeContrast := Decimal.roundTo 2 dark
    passesLight
    passesDark
    suggestion := if passesLight && passesDark then none else some (suggest text background).toHex }

def analyzeText (text background : String) : Except InvalidColor ContrastReport := do
  let t ← Rgb.parse text
  let b ← Rgb.parse background
  return analyze t b

def suggestText (text background : String) : Except InvalidColor String := do
  let t ← Rgb.parse text
  let b ← Rgb.parse background
  return (suggest t b).toHex

end Contrast

end MailMarkup
