import MailMarkup.Fault
import MailMarkup.Json.Basic

namespace MailMarkup.Http

structure Request where
  method : String
  path : String
  query : String
  headers : List (String × String)
  chunks : List (List UInt8)
  deriving DecidableEq, Repr

def Request.header? (r : Request) (name : String) : Option String :=
  (r.headers.find? fun h => h.1.toLower == name).map (·.2)

structure Response where
  status : Nat
  headers : List (String × String)
  body : Option Json

/-- What every response carries; the duration is measured outside. -/
def commonHeaders : List (String × String) :=
  [("content-security-policy", "default-src 'self'; frame-ancestors 'none'"),
   ("strict-transport-security", "max-age=31536000; includeSubDomains"),
   ("x-content-type-options", "nosniff"), ("x-frame-options", "DENY")]

def Response.json (status : Nat) (body : Json) : Response :=
  ⟨status, ("content-type", "application/json") :: commonHeaders, some body⟩

def Response.detail (status : Nat) (detail : Json) : Response :=
  .json status (.obj [("detail", detail)])

def Response.withHeader (name value : String) (r : Response) : Response :=
  { r with headers := (name, value) :: r.headers }

def Response.redirect (location : String) : Response :=
  ⟨307, ("location", location) :: commonHeaders, none⟩

def stepJson : PathStep → Json
  | .key name => .str name
  | .index i => .int i

def faultJson (fault : Fault) : Json :=
  .obj [("type", .str fault.cause.label), ("loc", .arr (fault.path.map stepJson)),
    ("msg", .str fault.cause.message)]

def Response.faults (faults : List Fault) : Response := .detail 422 (.arr (faults.map faultJson))

end MailMarkup.Http
