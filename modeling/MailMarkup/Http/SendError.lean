import MailMarkup.Http.Message
import MailMarkup.Outline

/-!
Answers that cannot be sent. A refusal quotes what it refuses and a finding shows its line, but an
answer holds neither infinite numbers nor halves of surrogate pairs.
-/

namespace MailMarkup.Http

inductive SendError where
  | number
  | half
  | line (run : HalfRun)
  | bytes
  deriving DecidableEq, Repr

def describe (run : HalfRun) : String :=
  match run.units with
  | [u] => "character '\\u" ++ String.ofList (Nat.toDigits 16 u) ++ s!"' in position {run.first}"
  | units => s!"characters in position {run.first}-{run.first + units.length - 1}"

def SendError.message? : SendError → Option String
  | .number => some "Out of range float values are not JSON compliant"
  | .line run => some ("Error serializing to JSON: UnicodeEncodeError: 'utf-8' codec can't encode " ++
      describe run ++ ": surrogates not allowed")
  | .half | .bytes => none

def Response.quoting (quoted : List Json) (r : Response) : Except SendError Response :=
  if quoted.any Json.holdsNonFinite then .error .number
  else if quoted.any Json.holdsHalf then .error .half
  else .ok r

end MailMarkup.Http
