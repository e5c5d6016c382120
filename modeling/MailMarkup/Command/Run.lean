import MailMarkup.Command.Files
import MailMarkup.Command.Options
import MailMarkup.Json.Write
import MailMarkup.Record.Finding
import MailMarkup.Settings.Basic
import MailMarkup.Settings.LogLevel
import MailMarkup.Text.Utf8

namespace MailMarkup.Command

structure World where
  settings : Settings.Sources
  files : FileSystem
  stdin : List UInt8

/-- How the command ends: with a status, or because something was wrong that it does not report
itself. -/
inductive Ending where
  | exit (status : Nat)
  | settings (faults : List Fault)
  | level (e : UnknownLevel)
  | undecodable
  | embeddedNul
  deriving DecidableEq, Repr

structure Result where
  ending : Ending
  stdout : String
  stderr : String
  deriving DecidableEq, Repr

structure Source where
  path : String
  document : String
  deriving DecidableEq, Repr

def fileText (bytes : List UInt8) : String :=
  String.ofList (unifyLineEnds (Text.Utf8.decodeLossy bytes))

def OpenError.ending (path : String) : OpenError → Ending × String
  | .notFound => (.exit 2, s!"file not found: {path}\n")
  | .refused reason => (.exit 2, s!"cannot read {path}: {reason}\n")
  | .embeddedNul => (.embeddedNul, "")

def readAll (files : FileSystem) : List String → Except (Ending × String) (List Source)
  | [] => .ok []
  | path :: paths =>
    match files path with
    | .error e => .error (OpenError.ending path e)
    | .ok bytes =>
      match readAll files paths with
      | .error e => .error e
      | .ok sources => .ok (⟨path, fileText bytes⟩ :: sources)

def readStdin (bytes : List UInt8) : Except (Ending × String) (List Source) :=
  match Text.Utf8.decode? bytes with
  | none => .error (.undecodable, "")
  | some cs => .ok [⟨"<stdin>", String.ofList (unifyLineEnds cs)⟩]

def textLine (path : String) (f : Finding) : String :=
  s!"{path}:{f.lineNumber}: [{f.code.label}] {f.message}\n"

def jsonEntry (path : String) (f : Finding) : Json := .obj (("path", .str path) :: f.toFields)

def logLine (source : Source) : String :=
  s!"DEBUG:emlint.cli:validating {source.path} (length={source.document.length})\n"

def render (json : Bool) (found : List (String × List Finding)) : String :=
  if json then
    (Json.arr (found.flatMap fun (path, fs) => fs.map (jsonEntry path))).indented ++ "\n"
  else String.join (found.flatMap fun (path, fs) => fs.map (textLine path))

def checkAll (json : Bool) (level : LogLevel) (sources : List Source) : Result :=
  let found := sources.map fun s => (s.path, check s.document)
  { ending := .exit (if found.any (!·.2.isEmpty) then 1 else 0)
    stdout := render json found
    stderr := if level.admits .debug then String.join (sources.map logLine) else "" }

def runWith (options : Options) (settings : Settings) (world : World) : Result :=
  match LogLevel.parse settings.logLevel with
  | .error e => ⟨.level e, "", ""⟩
  | .ok level =>
    match if options.paths.isEmpty then readStdin world.stdin
      else readAll world.files options.paths with
    | .error (ending, message) => ⟨ending, "", message⟩
    | .ok sources => checkAll options.json level sources

def configure (options : Options) (world : World) : Result :=
  let r : Result := match Settings.load world.settings with
    | .error .undecodable => ⟨.undecodable, "", ""⟩
    | .error (.faults faults) => ⟨.settings faults, "", ""⟩
    | .ok settings => runWith options settings world
  { r with stderr := world.settings.warnings ++ r.stderr }

def run (argv : List String) (world : World) : Result :=
  match parse argv with
  | .error e => ⟨.exit 2, "", usage ++ s!"emlint: error: {e.message}\n"⟩
  | .ok .help => ⟨.exit 0, help, ""⟩
  | .ok (.run options) => configure options world

end MailMarkup.Command
