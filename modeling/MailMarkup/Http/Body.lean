import MailMarkup.Http.Message
import MailMarkup.Json.Read
import MailMarkup.Text.Blank
import MailMarkup.Text.Case
import MailMarkup.Text.Encoding

namespace MailMarkup.Http

inductive Body where
  | empty
  | json (value : Json)
  | other (bytes : List UInt8)

def mediaType (r : Request) : List Char :=
  let value := ((r.header? "content-type").getD "").toList
  Text.lower (Text.trim (value.takeWhile (· != ';')))

def isJsonType (type : List Char) : Bool :=
  match Text.pieces (· == '/') type with
  | [main, sub] =>
    main == "application".toList && (sub == "json".toList || "+json".toList.isSuffixOf sub)
  | _ => false

inductive BodyError where
  | notJson (offset : Nat)
  | unreadable
  deriving DecidableEq, Repr

def BodyError.response : BodyError → Response
  | .notJson offset => .faults [⟨[.key "body", .index offset], .notJson⟩]
  | .unreadable => .detail 400 (.str "There was an error parsing the body")

def readBody (r : Request) (bytes : List UInt8) : Except BodyError Body :=
  if bytes.isEmpty then .ok .empty
  else if isJsonType (mediaType r) then
    let (encoding, text) := Text.Encoding.detect bytes
    match encoding.decode? text with
    | none => .error .unreadable
    | some text =>
      match Json.parse text with
      | .ok value => .ok (.json value)
      | .error (.stuck offset) => .error (.notJson offset)
      | .error .tooManyDigits | .error .tooDeep => .error .unreadable
  else .ok (.other bytes)

end MailMarkup.Http
