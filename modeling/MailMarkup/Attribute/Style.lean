import MailMarkup.Finding
import MailMarkup.Text.Blank
import MailMarkup.Text.Case
import MailMarkup.Text.Digit
import MailMarkup.Text.Keyword

namespace MailMarkup

def isBareHex (cs : List Char) : Bool :=
  (cs.length == 3 || cs.length == 6) &&
    cs.all fun c => c.isDigit || decide ('a' ≤ c ∧ c ≤ 'f') || decide ('A' ≤ c ∧ c ≤ 'F')

namespace Style

def lengthUnits : List String :=
  ["px", "em", "rem", "vh", "vw", "%", "pt", "cm", "mm", "in", "pc"]

/-- The letters behind the number in `12px`, if the word is a number with letters behind it. -/
def unit? (word : List Char) : Option (List Char) :=
  let unsigned := if word.head? == some '-' then word.tail else word
  let isNumeric := fun c => Text.isDigit c || c == '.'
  let unit := unsigned.dropWhile isNumeric
  if (unsigned.takeWhile isNumeric).isEmpty || unit.isEmpty || !unit.all Char.isAlpha then none
  else some unit

def unitRemarks (word : List Char) : List Remark :=
  match unit? word with
  | none => []
  | some unit =>
    let low := unit.map Char.toLower
    if lengthUnits.contains (String.ofList low) && unit != low then
      let shown := String.ofList word
      [⟨.uppercaseUnit, shown,
        s!"CSS unit \"{String.ofList unit}\" in \"{shown}\" should be lowercase."⟩]
    else []

def withoutImportant : List Char → List Char
  | [] => []
  | c :: cs =>
    match Text.keyword? "!important".toList (c :: cs) with
    | some (_, rest) => rest
    | none => c :: withoutImportant cs

def semicolonRemarks (declaration : List Char) : List Remark :=
  if 1 < declaration.count ':' then
    [⟨.styleMissingSemicolon, String.ofList declaration,
      "Possible missing semicolon ';' in style attribute."⟩]
  else []

def propertyRemarks (property : List Char) : List Remark :=
  if property = Text.lower property then []
  else
    let shown := String.ofList property
    [⟨.uppercaseProperty, shown, s!"CSS property \"{shown}\" should be lowercase."⟩]

def isColorProperty (property : List Char) : Bool :=
  Text.occursIn "color".toList (Text.lower property)

def colorRemarks (property value : List Char) : List Remark :=
  let bare := Text.trim (withoutImportant value)
  if isColorProperty property && isBareHex bare then
    [⟨.missingHash, s!"{String.ofList property}: {String.ofList value}",
      s!"Hex color value \"{String.ofList bare}\" in style attribute is missing a leading '#'."⟩]
  else []

def declarationRemarks (declaration : List Char) : List Remark :=
  match declaration.dropWhile (· != ':') with
  | [] => []
  | _ :: behind =>
    let property := Text.trim (declaration.takeWhile (· != ':'))
    let value := Text.trim behind
    semicolonRemarks declaration ++ propertyRemarks property ++
      (Text.words value).flatMap unitRemarks ++ colorRemarks property value

def parts (style : List Char) : List (List Char) :=
  ((Text.pieces (· == ';') style).map Text.trim).filter (!·.isEmpty)

def withoutLastSemicolon (style : List Char) : List Char :=
  if style.getLast? = some ';' then style.dropLast else style

def declarations (style : List Char) : List (List Char) :=
  parts (withoutLastSemicolon (Text.trim style))

def remarks (style : List Char) : List Remark := (declarations style).flatMap declarationRemarks

end Style

end MailMarkup
