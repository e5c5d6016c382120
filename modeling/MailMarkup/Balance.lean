import MailMarkup.Tag
import MailMarkup.Finding

namespace MailMarkup

/-- Elements without content. They open nothing, and their closing tags close nothing. -/
def voidElements : List String :=
  ["area", "base", "br", "col", "embed", "hr", "img", "input", "link", "meta", "param", "source",
   "track", "wbr"]

structure Frame where
  name : String
  place : Place
  deriving DecidableEq, Repr

/-- The open tags of a document, the innermost first. -/
abbrev Stack := List Frame

def openText (name : String) : String := s!"<{name}>"

def closeText (name : String) : String := s!"</{name}>"

namespace Frame

def errorTag (frame : Frame) : String := openText frame.name

def unclosedBefore (frame : Frame) (name : String) : Finding :=
  frame.place.finding ⟨.unclosedBeforeClose, frame.errorTag,
    s!"The tag {openText frame.name} was not closed before {closeText name} was found."⟩

def neverClosed (frame : Frame) : Finding :=
  frame.place.finding ⟨.unclosedTag, frame.errorTag,
    s!"The tag {openText frame.name} on line {frame.place.number} was never closed."⟩

end Frame

namespace Place

def unexpectedClosing (place : Place) (name : String) : Finding :=
  place.finding ⟨.unexpectedClosingTag, closeText name,
    s!"Unexpected closing tag {closeText name} with no corresponding opening tag."⟩

def mismatchedClosing (place : Place) (expected name : String) : Finding :=
  place.finding ⟨.mismatchedClosingTag, closeText name,
    s!"Mismatched closing tag. Expected {closeText expected} but found {closeText name}."⟩

end Place

namespace Stack

/-- Takes off the frames inside one that stands so many frames down, and that one; those inside are
reported, innermost first. -/
def popTo (name : String) : List Finding → Nat → Stack → List Finding × Stack
  | found, inside + 1, frame :: stack =>
    popTo name (frame.unclosedBefore name :: found) inside stack
  | found, _, stack => (found.reverse, stack.tail)

def close (stack : Stack) (name : String) (place : Place) : List Finding × Stack :=
  match stack with
  | [] => ([place.unexpectedClosing name], [])
  | top :: below =>
    if top.name = name then ([], below)
    else match stack.findIdx? (·.name == name) with
      | none => ([place.mismatchedClosing top.name name], stack)
      | some inside => popTo name [] inside stack

def settle (stack : Stack) (tag : Tag) (place : Place) : List Finding × Stack :=
  if voidElements.contains tag.name then ([], stack)
  else if tag.closing then stack.close tag.name place
  else if tag.selfClosing then ([], stack)
  else ([], ⟨tag.name, place⟩ :: stack)

def leftOpen (stack : Stack) : List Finding := stack.reverse.map Frame.neverClosed

/-- Does what `settle` does, for places that need not be lines. When a finding is refused, the frames
that were looked at for it are gone. -/
def feed (stack : Stack) (tag : Tag) (place : Place) : Except (List Fault) (List Finding) × Stack :=
  let (found, left) := stack.settle tag place
  match admitAll found with
  | .ok found => (.ok found, left)
  | .error faults =>
    (.error faults,
      if stack.any (·.name == tag.name) then
        (stack.dropWhile fun frame => decide (1 ≤ frame.place.number)).tail
      else stack)

def finish (stack : Stack) : Except (List Fault) (List Finding) × Stack :=
  match admitAll stack.leftOpen with
  | .ok found => (.ok found, [])
  | .error faults => (.error faults, stack)

end Stack

end MailMarkup
