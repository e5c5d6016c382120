import MailMarkup.Attribute.Quoted
import MailMarkup.Attribute.Style

namespace MailMarkup.Attribute

def quoteRemarks (quote : Char) (label : String) (attributes : List Char) : List Remark :=
  if attributes.count quote % 2 = 1 then
    [⟨.missingClosingQuote, String.ofList (Text.trim attributes),
      s!"Missing closing {label} quote ({quote}) in attributes."⟩]
  else []

def parityRemarks (attributes : List Char) : List Remark :=
  quoteRemarks '\x22' "double" attributes ++ quoteRemarks '\x27' "single" attributes

def styleRemarks (attributes : List Char) : List Remark :=
  match QuotedAttribute.all ["style"] attributes with
  | [] => []
  | style :: _ => Style.remarks style.value

def colorNames : List String := ["bgcolor", "color", "text", "link", "vlink", "alink"]

def colorRemarks (a : QuotedAttribute) : List Remark :=
  let value := Text.trim a.value
  if isBareHex value then
    let name := String.ofList a.name
    let shown := String.ofList value
    [⟨.missingHash, s!"{name}=\"{shown}\"",
      s!"Hex color value \"{shown}\" in {name} attribute is missing a leading '#'."⟩]
  else []

def legacyColorRemarks (attributes : List Char) : List Remark :=
  (QuotedAttribute.all colorNames attributes).flatMap colorRemarks

def startsWithPlaceholder (opening closing : Char) (href : List Char) : Bool :=
  href.head? == some opening && (href.tail.takeWhile (· != '\n')).contains closing

/-- Links that work in a mail: a protocol, an anchor in the mail, or a placeholder that is filled in
before it is sent. -/
def isAllowedLink (href : List Char) : Bool :=
  ["http://", "https://", "mailto:", "tel:", "#"].any (Text.startsWithKeyword · href) ||
    startsWithPlaceholder '[' ']' href || startsWithPlaceholder '\x7b' '\x7d' href

def linkRemarks (attributes : List Char) : List Remark :=
  match QuotedAttribute.all ["href"] attributes with
  | [] => []
  | a :: _ =>
    let href := Text.trim a.value
    if href.isEmpty || isAllowedLink href then []
    else
      let shown := String.ofList href
      [⟨.missingProtocol, s!"href=\"{shown}\"",
        s!"The link URL \"{shown}\" is missing a protocol (http:// or https://). " ++
          "Relative links can cause issues in email clients."⟩]

def remarks (attributes : String) (tagName : String) : List Remark :=
  let cs := attributes.toList
  parityRemarks cs ++ styleRemarks cs ++ legacyColorRemarks cs ++
    if tagName = "a" then linkRemarks cs else []

end MailMarkup.Attribute
