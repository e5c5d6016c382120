import MailMarkup.Http.Body
import MailMarkup.Http.Limit
import MailMarkup.Http.SendError
import MailMarkup.Record.Contrast
import MailMarkup.Record.Finding
import MailMarkup.Reference

namespace MailMarkup.Http

inductive Endpoint where
  | validate
  | rules
  | contrast
  | health
  deriving DecidableEq, Repr

namespace Endpoint

def all : List Endpoint := [.validate, .rules, .contrast, .health]

def path : Endpoint → String
  | .validate => "/validate"
  | .rules => "/reference/rules"
  | .contrast => "/contrast"
  | .health => "/health"

def method : Endpoint → String
  | .validate => "POST"
  | .rules => "GET"
  | .contrast => "POST"
  | .health => "GET"

def at? (path : String) : Option Endpoint :=
  all.find? fun e => path == e.path || path == e.path ++ "\n"

end Endpoint

abbrev Sent := Except SendError Response

/-- What a fault in an object quotes: the value of its field, or all fields if that one is missing. -/
def quotedBy (fields : List (Text.Wide × Json)) (fault : Fault) : Json :=
  match fault.path with
  | .key name :: _ => (Json.field? fields name).getD (.obj fields)
  | _ => .obj fields

def refuseFields (fields : List (Text.Wide × Json)) (faults : List Fault) : Sent :=
  (Response.faults (faults.map (·.within (.key "body")))).quoting (faults.map (quotedBy fields))

def noFields : Response := .faults [⟨[.key "body"], .notFields⟩]

def withFields {α : Type} (decode : List (Text.Wide × Json) → Record.Decoded α)
    (respond : α → Sent) : Body → Sent
  | .empty => .ok (.faults [⟨[.key "body"], .missing⟩])
  | .json (.obj fields) =>
    match decode fields with
    | .ok a => respond a
    | .error faults => refuseFields fields faults
  | .json value => noFields.quoting [value]
  | .other bytes => if (Text.Utf8.decode? bytes).isSome then .ok noFields else .error .bytes

def htmlField : Record.Field Text.Wide := .required "html" "html" Record.wide

def textColorField : Record.Field Text.Wide := .required "textColor" "text_color" Record.wide

def backgroundColorField : Record.Field Text.Wide :=
  .required "backgroundColor" "background_color" Record.wide

def colorPair (fields : List (Text.Wide × Json)) : Record.Decoded (Text.Wide × Text.Wide) :=
  let text := textColorField.read fields
  let background := backgroundColorField.read fields
  match text, background with
  | .ok text, .ok background => .ok (text, background)
  | _, _ => .error (text.faults ++ background.faults)

def shownHalves? (html : Text.Wide) (found : List Finding) : Option HalfRun :=
  if html.hasHalves then
    let runs := (halfRuns html).toArray
    found.findSome? fun f => (runs[f.lineNumber.toNat - 1]?).join
  else none

def validateResponse (html : Text.Wide) : Sent :=
  let found := check html.shown
  match shownHalves? html found with
  | some run => .error (.line run)
  | none => .ok (.json 200 (Verdict.ofFindings found).toJson)

def contrastResponse (pair : Text.Wide × Text.Wide) : Sent :=
  match Contrast.analyzeText pair.1.shown pair.2.shown with
  | .ok report => .ok (.json 200 report.toJson)
  | .error e =>
    -- the text color is read first, so of two bad colors it is the one refused
    let refused := if (Rgb.parse pair.1.shown).isOk then pair.2 else pair.1
    (Response.detail 422 (.str e.message)).quoting [.str refused]

def answerBody (r : Request) (bytes : List UInt8) (respond : Body → Sent) : Sent :=
  match readBody r bytes with
  | .ok body => respond body
  | .error e => .ok e.response

def Endpoint.answer (r : Request) (bytes : List UInt8) : Endpoint → Sent
  | .validate => answerBody r bytes (withFields htmlField.read validateResponse)
  | .contrast => answerBody r bytes (withFields colorPair contrastResponse)
  | .rules => .ok (.json 200 (.obj [("reference", .str reference)]))
  | .health => .ok (.json 200 (.obj [("status", .str "ok"), ("version", .str version)]))

def isAddressChar (c : Char) : Bool :=
  c.isAlphanum || "_.-~:/%#?=@[]!$&'()*+,;".toList.contains c

def percent (b : UInt8) : List Char :=
  '%' :: [b.toNat / 16, b.toNat % 16].map fun d => (Nat.digitChar d).toUpper

def addressText (s : String) : String :=
  String.ofList (s.toList.flatMap fun c =>
    if isAddressChar c then [c] else c.toString.toUTF8.toList.flatMap percent)

def otherSlash (path : String) : String :=
  let cs := path.toList
  if cs.getLast? == some '/' then String.ofList (cs.reverse.dropWhile (· == '/')).reverse
  else path ++ "/"

def redirection (r : Request) (path : String) : Response :=
  let query := if r.query.isEmpty then "" else "?" ++ r.query
  let host := (r.header? "host").getD ""
  .redirect (addressText ("http://" ++ host ++ path ++ query))

/-- Finds the endpoint. A path that only differs in its last slash is sent on. -/
def route (r : Request) (bytes : List UInt8) : Sent :=
  match Endpoint.at? r.path with
  | some e =>
    if r.method == e.method then e.answer r bytes
    else .ok ((Response.detail 405 (.str "Method Not Allowed")).withHeader "allow" e.method)
  | none =>
    let other := otherSlash r.path
    if r.path != "/" && (Endpoint.at? other).isSome then .ok (redirection r other)
    else .ok (.detail 404 (.str "Not Found"))

def respond (documentLimit : Int) (r : Request) : Sent :=
  let most := limit documentLimit r
  match admit? most r with
  | none => .ok (tooLarge most)
  | some bytes => route r bytes

end MailMarkup.Http
