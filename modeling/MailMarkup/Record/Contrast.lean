import MailMarkup.Color.Contrast
import MailMarkup.Record.Decode

namespace MailMarkup.ContrastReport

def textColorField : Record.Field String := .required "textColor" "text_color" Record.text

def backgroundColorField : Record.Field String :=
  .required "backgroundColor" "background_color" Record.text

def lightModeField : Record.Field Float :=
  .required "lightModeContrast" "light_mode_contrast" Record.real

def darkModeField : Record.Field Float :=
  .required "darkModeContrast" "dark_mode_contrast" Record.real

def passesLightField : Record.Field Bool := .required "passesLight" "passes_light" Record.boolean

def passesDarkField : Record.Field Bool := .required "passesDark" "passes_dark" Record.boolean

def suggestionField : Record.Field (Option String) :=
  ⟨"suggestion", "suggestion", Record.nullable Record.text, some none⟩

def ofFields (fields : List (Text.Wide × Json)) : Record.Decoded ContrastReport :=
  let text := textColorField.read fields
  let background := backgroundColorField.read fields
  let light := lightModeField.read fields
  let dark := darkModeField.read fields
  let passesLight := passesLightField.read fields
  let passesDark := passesDarkField.read fields
  let suggestion := suggestionField.read fields
  match text, background, light, dark, passesLight, passesDark, suggestion with
  | .ok text, .ok background, .ok light, .ok dark, .ok passesLight, .ok passesDark, .ok suggestion =>
    .ok ⟨text, background, light, dark, passesLight, passesDark, suggestion⟩
  | _, _, _, _, _, _, _ =>
    .error (text.faults ++ background.faults ++ light.faults ++ dark.faults ++
      passesLight.faults ++ passesDark.faults ++ suggestion.faults)

def ofJson : Record.Decoder ContrastReport
  | .obj fields => ofFields fields
  | _ => Record.refuse (.notRecord "ContrastReport")

def toJson (r : ContrastReport) : Json :=
  .obj [("textColor", .str r.textColor), ("backgroundColor", .str r.backgroundColor),
    ("lightModeContrast", .real r.lightModeContrast), ("darkModeContrast", .real r.darkModeContrast),
    ("passesLight", .bool r.passesLight), ("passesDark", .bool r.passesDark),
    ("suggestion", r.suggestion.elim .null fun s => .str s)]

end MailMarkup.ContrastReport
