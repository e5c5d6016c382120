import MailMarkup.Line
import MailMarkup.Fault

namespace MailMarkup

inductive Code where
  | unexpectedClosingTag
  | unclosedBeforeClose
  | mismatchedClosingTag
  | unclosedTag
  | missingClosingQuote
  | styleMissingSemicolon
  | uppercaseProperty
  | uppercaseUnit
  | missingHash
  | missingProtocol
  deriving DecidableEq, Repr

namespace Code

def all : List Code :=
  [.unexpectedClosingTag, .unclosedBeforeClose, .mismatchedClosingTag, .unclosedTag,
   .missingClosingQuote, .styleMissingSemicolon, .uppercaseProperty, .uppercaseUnit, .missingHash,
   .missingProtocol]

def label : Code → String
  | .unexpectedClosingTag => "UNEXPECTED_CLOSING_TAG"
  | .unclosedBeforeClose => "UNCLOSED_BEFORE_CLOSE"
  | .mismatchedClosingTag => "MISMATCHED_CLOSING_TAG"
  | .unclosedTag => "UNCLOSED_TAG"
  | .missingClosingQuote => "MISSING_CLOSING_QUOTE"
  | .styleMissingSemicolon => "STYLE_MISSING_SEMICOLON"
  | .uppercaseProperty => "UPPERCASE_PROPERTY"
  | .uppercaseUnit => "UPPERCASE_UNIT"
  | .missingHash => "MISSING_HASH"
  | .missingProtocol => "MISSING_PROTOCOL"

def ofLabel? (s : String) : Option Code := all.find? (·.label == s)

def isStructural : Code → Bool
  | .unexpectedClosingTag | .unclosedBeforeClose | .mismatchedClosingTag | .unclosedTag => true
  | _ => false

theorem ofLabel?_label (c : Code) : ofLabel? c.label = some c := by
  cases c <;> decide

end Code

structure Remark where
  code : Code
  errorTag : String
  message : String
  deriving DecidableEq, Repr

structure Finding where
  lineNumber : Int
  lineContent : String
  errorTag : String
  message : String
  code : Code
  deriving DecidableEq, Repr

def Place.finding (place : Place) (remark : Remark) : Finding :=
  ⟨place.number, place.content, remark.errorTag, remark.message, remark.code⟩

def Finding.isPlaced (f : Finding) : Bool := decide (1 ≤ f.lineNumber)

def admitAll (found : List Finding) : Except (List Fault) (List Finding) :=
  if found.all Finding.isPlaced then .ok found
  else .error [⟨[.key "line_number"], .atLeast 1⟩]

end MailMarkup
