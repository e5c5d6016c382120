import MailMarkup.Reference
import MailMarkup.Settings.Basic
import MailMarkup.Settings.LogLevel

namespace MailMarkup

inductive Surface where
  | api
  | mcp
  deriving DecidableEq, Repr

structure Launch where
  arguments : List String
  options : List (Text.Wide × Json)

inductive LaunchError where
  | settings (e : Settings.LoadError)
  | level (e : UnknownLevel)
  deriving DecidableEq, Repr

structure Startup where
  outcome : Except LaunchError Launch
  log : String

namespace Surface

def arguments : Surface → List String
  | .api => ["emlint.api.app:create_app"]
  | .mcp => []

def levelOption (s : Settings) : Json := .str (String.ofList (Text.lower s.logLevel.toList))

def options (s : Settings) : Surface → List (Text.Wide × Json)
  | .api => [("factory", .bool true), ("host", .str s.apiServerHost), ("port", .int s.effectivePort),
      ("log_level", levelOption s)]
  | .mcp =>
    match s.mcpTransport with
    | .stdio => [("transport", .str "stdio")]
    | t => [("transport", .str t.label), ("host", .str s.mcpServerHost),
        ("port", .int s.mcpServerPort), ("log_level", levelOption s)]

def banner (s : Settings) : Surface → String
  | .api => s!"INFO:emlint.api:emlint API Server v{version} starting " ++
      s!"(host={s.apiServerHost}, port={s.effectivePort})\n"
  | .mcp => s!"INFO:emlint.mcp:emlint MCP Server v{version} starting " ++
      s!"(transport={s.mcpTransport.label})\n"

def prepare (surface : Surface) (s : Settings) : Startup :=
  match LogLevel.parse s.logLevel with
  | .error e => ⟨.error (.level e), ""⟩
  | .ok level =>
    ⟨.ok ⟨surface.arguments, surface.options s⟩, if level.admits .info then surface.banner s else ""⟩

def launch (surface : Surface) (sources : Settings.Sources) : Startup :=
  let startup : Startup := match Settings.load sources with
    | .error e => ⟨.error (.settings e), ""⟩
    | .ok s => surface.prepare s
  { startup with log := sources.warnings ++ startup.log }

end Surface

end MailMarkup
