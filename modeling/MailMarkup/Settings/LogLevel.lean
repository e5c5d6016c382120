import MailMarkup.Text.Case
import MailMarkup.Text.Quoted

namespace MailMarkup

structure LogLevel where
  rank : Nat
  deriving DecidableEq, Repr

structure UnknownLevel where
  name : String
  deriving DecidableEq, Repr

def UnknownLevel.message (e : UnknownLevel) : String := s!"Unknown level: {Text.quoted e.name}"

namespace LogLevel

def debug : LogLevel := ⟨10⟩

def info : LogLevel := ⟨20⟩

def names : List (String × LogLevel) :=
  [("CRITICAL", ⟨50⟩), ("FATAL", ⟨50⟩), ("ERROR", ⟨40⟩), ("WARN", ⟨30⟩), ("WARNING", ⟨30⟩),
   ("INFO", info), ("DEBUG", debug), ("NOTSET", ⟨0⟩)]

def parse (name : String) : Except UnknownLevel LogLevel :=
  let upper := String.ofList (Text.upper name.toList)
  match names.lookup upper with
  | some level => .ok level
  | none => .error ⟨upper⟩

def admits (threshold message : LogLevel) : Bool := threshold.rank ≤ message.rank

end LogLevel

end MailMarkup
