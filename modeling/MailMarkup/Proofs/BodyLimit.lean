import Mathlib.Algebra.GroupWithZero.Nat
import MailMarkup.Http.Service
import MailMarkup.Trace

namespace MailMarkup.Http

def hold (limit : Int) (held : Option (List UInt8)) (chunk : List UInt8) :
    List (List UInt8) × Option (List UInt8) :=
  match held with
  | none => ([], none)
  | some bytes =>
    if limit < (bytes.length + chunk.length : Nat) then ([], none)
    else ([bytes ++ chunk], some (bytes ++ chunk))

section Route

end Route

end MailMarkup.Http
