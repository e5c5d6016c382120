import MailMarkup.Attribute.Lint
import MailMarkup.Balance
import MailMarkup.Trace

namespace MailMarkup

def taggedPlaces (document : List Line) : List (Place × Tag) :=
  (document.filter (!isSkipped ·.text)).flatMap fun line =>
    let place := line.place
    (Tag.scan line.text).map fun tag => (place, tag)

def attributeFindings (place : Place) (tag : Tag) : List Finding :=
  if tag.closing then [] else (Attribute.remarks tag.attributes tag.name).map place.finding

def Stack.visit (stack : Stack) (tagged : Place × Tag) : List Finding × Stack :=
  let r := stack.settle tagged.2 tagged.1
  (attributeFindings tagged.1 tagged.2 ++ r.1, r.2)

def checkLines (document : List Line) : List Finding :=
  let r := trace Stack.visit [] (taggedPlaces document)
  r.1 ++ r.2.leftOpen

/-- All findings of a document in the order in which one pass over it meets them. -/
def check (document : String) : List Finding := checkLines (lines document)

end MailMarkup
