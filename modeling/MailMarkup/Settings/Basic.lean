import MailMarkup.Line
import MailMarkup.Record.Decode
import MailMarkup.Settings.EnvFile
import MailMarkup.Text.Case
import MailMarkup.Text.Utf8

namespace MailMarkup

inductive Transport where
  | stdio
  | http
  | sse
  deriving DecidableEq, Repr

namespace Transport

def all : List Transport := [.stdio, .http, .sse]

def label : Transport → String
  | .stdio => "stdio"
  | .http => "http"
  | .sse => "sse"

def decode : Record.Decoder Transport
  | .str s =>
    match all.find? (·.label == s.shown) with
    | some t => .ok t
    | none => Record.refuse (.notOption (all.map label))
  | _ => Record.refuse (.notOption (all.map label))

end Transport

structure Settings where
  logLevel : String
  apiServerHost : String
  apiServerPort : Int
  port : Option Int
  maxDocumentBytes : Int
  mcpTransport : Transport
  mcpServerHost : String
  mcpServerPort : Int
  deriving DecidableEq, Repr

namespace Settings

def effectivePort (s : Settings) : Int := s.port.getD s.apiServerPort

/-- Where settings come from, in order of precedence: given values, the environment, and the bytes of
a settings file. Names of the latter two are taken in any case. -/
structure Sources where
  given : List (Text.Wide × Json)
  environment : List (String × String)
  file : List UInt8

def lowerName (name : String) : String := String.ofList (Text.lower name.toList)

def Sources.fileText? (sources : Sources) : Option (List Char) :=
  (Text.Utf8.decode? sources.file).map unifyLineEnds

def Sources.warnings (sources : Sources) : String :=
  String.join ((EnvFile.malformedLines (sources.fileText?.getD [])).map fun line =>
    s!"python-dotenv could not parse statement starting at line {line}\n")

def Sources.fields (sources : Sources) (text : List Char) : List (Text.Wide × Json) :=
  let environment := sources.environment.map fun (k, v) => ((lowerName k : Text.Wide), Json.str v)
  let bindings := (EnvFile.parse sources.environment text).map fun (k, v) => (lowerName k, v)
  -- a name without a value withdraws an earlier binding of it
  let inFile := bindings.zipIdx.filterMap fun ((k, v), i) =>
    if (bindings.drop (i + 1)).any (·.1 == k) then none
    else v.map fun s => ((k : Text.Wide), Json.str s)
  inFile ++ environment ++ sources.given

def names : List String :=
  ["log_level", "api_server_host", "api_server_port", "port", "max_document_bytes", "mcp_transport",
   "mcp_server_host", "mcp_server_port"]

def field {α : Type} (name : String) (decode : Record.Decoder α) (default : α) : Record.Field α :=
  ⟨name, name, decode, some default⟩

def logLevelField : Record.Field String := field "log_level" Record.text "INFO"

def apiServerHostField : Record.Field String := field "api_server_host" Record.text "localhost"

def apiServerPortField : Record.Field Int := field "api_server_port" Record.integer 8000

def portField : Record.Field (Option Int) := field "port" (Record.nullable Record.integer) none

def maxDocumentBytesField : Record.Field Int :=
  field "max_document_bytes" Record.integer (5 * 1024 * 1024)

def mcpTransportField : Record.Field Transport := field "mcp_transport" Transport.decode .stdio

def mcpServerHostField : Record.Field String := field "mcp_server_host" Record.text "localhost"

def mcpServerPortField : Record.Field Int := field "mcp_server_port" Record.integer 9000

def ofFields (fields : List (Text.Wide × Json)) : Record.Decoded Settings :=
  let level := logLevelField.read fields
  let apiHost := apiServerHostField.read fields
  let apiPort := apiServerPortField.read fields
  let port := portField.read fields
  let bytes := maxDocumentBytesField.read fields
  let transport := mcpTransportField.read fields
  let mcpHost := mcpServerHostField.read fields
  let mcpPort := mcpServerPortField.read fields
  match level, apiHost, apiPort, port, bytes, transport, mcpHost, mcpPort with
  | .ok level, .ok apiHost, .ok apiPort, .ok port, .ok bytes, .ok transport, .ok mcpHost,
      .ok mcpPort =>
    .ok ⟨level, apiHost, apiPort, port, bytes, transport, mcpHost, mcpPort⟩
  | _, _, _, _, _, _, _, _ =>
    .error (level.faults ++ apiHost.faults ++ apiPort.faults ++ port.faults ++ bytes.faults ++
      transport.faults ++ mcpHost.faults ++ mcpPort.faults)

inductive LoadError where
  | undecodable
  | faults (faults : List Fault)
  deriving DecidableEq, Repr

def load (sources : Sources) : Except LoadError Settings :=
  match sources.fileText? with
  | none => .error .undecodable
  | some text => (ofFields (sources.fields text)).mapError .faults

def toJson (s : Settings) : Json :=
  .obj [("log_level", .str s.logLevel), ("api_server_host", .str s.apiServerHost),
    ("api_server_port", .int s.apiServerPort), ("port", s.port.elim .null .int),
    ("max_document_bytes", .int s.maxDocumentBytes), ("mcp_transport", .str s.mcpTransport.label),
    ("mcp_server_host", .str s.mcpServerHost), ("mcp_server_port", .int s.mcpServerPort)]

end Settings

end MailMarkup
