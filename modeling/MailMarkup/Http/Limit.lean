import MailMarkup.Http.Message
import MailMarkup.Text.Integer

namespace MailMarkup.Http

def mebibyte : Int := 1024 * 1024

/-- The path of the address that a request was sent to: without control characters that no address
holds, and up to a query or fragment. -/
def addressPath (r : Request) : List Char :=
  let address := r.path.toList.filter fun c => c != '\t' && c != '\n' && c != '\r'
  let isMark := fun c => c == '/' || c == '?' || c == '#'
  (address.dropWhile (!isMark ·)).takeWhile fun c => c != '?' && c != '#'

def limit (documentLimit : Int) (r : Request) : Int :=
  if "/validate".toList.isSuffixOf (addressPath r) then documentLimit else mebibyte

/-- The length that a request declares; what is no number counts as less than nothing. -/
def declaredLength? (r : Request) : Option Int :=
  (r.header? "content-length").map fun value => (Text.integer? value.toList).getD (-1)

def collect? (limit : Int) (held : List UInt8) : List (List UInt8) → Option (List UInt8)
  | [] => if limit < held.length then none else some held
  | chunk :: chunks =>
    if limit < (held.length + chunk.length : Nat) then none else collect? limit (held ++ chunk) chunks

def hasBody (r : Request) : Bool := ["POST", "PUT", "PATCH"].contains r.method

def admit? (limit : Int) (r : Request) : Option (List UInt8) :=
  if (declaredLength? r).any (limit < ·) then none
  else if hasBody r then collect? limit [] r.chunks
  else some r.chunks.flatten

def sizeText (limit : Int) : String :=
  if mebibyte ≤ limit then s!"{limit / mebibyte} MB" else s!"{limit} bytes"

def tooLarge (limit : Int) : Response :=
  .detail 413 (.str s!"Request body too large (max {sizeText limit})")

end MailMarkup.Http
