import MailMarkup.Text.Digit
import MailMarkup.Text.Quoted

namespace MailMarkup.Command

structure Options where
  json : Bool
  paths : List String
  deriving DecidableEq, Repr

inductive Flag where
  | help
  | json
  deriving DecidableEq, Repr

def Flag.name : Flag → String
  | .help => "-h/--help"
  | .json => "--json"

inductive UsageError where
  | ambiguous (argument : String)
  | ignored (flag : Flag) (value : String)
  | unrecognized (arguments : List String)
  deriving DecidableEq, Repr

def UsageError.message : UsageError → String
  | .ambiguous argument => s!"ambiguous option: {argument} could match --help, --json"
  | .ignored flag value =>
    s!"argument {flag.name}: ignored explicit argument {Text.quoted value}"
  | .unrecognized arguments => "unrecognized arguments: " ++ " ".intercalate arguments

inductive Argument where
  | path (text : String)
  | flag (flag : Flag) (value : Option String)
  | unknown (text : String)
  deriving DecidableEq, Repr

def isNegativeNumber (cs : List Char) : Bool :=
  let cs := if cs.getLast? == some '\n' then cs.dropLast else cs
  match cs with
  | '-' :: body =>
    let fraction := body.dropWhile Text.isDigit
    match fraction with
    | [] => !body.isEmpty
    | '.' :: ds => !ds.isEmpty && ds.all Text.isDigit
    | _ => false
  | _ => false

def bundled (value : List Char) : Option String :=
  -- letters behind `-h` may only be more of it
  match value.dropWhile (· == 'h') with
  | [] => none
  | rest => some (String.ofList rest)

def longFlag (argument : String) (stem : List Char) (value : Option String) :
    Except UsageError (Option Argument) :=
  match stem.isPrefixOf "--help".toList, stem.isPrefixOf "--json".toList with
  | true, true => .error (.ambiguous argument)
  | true, false => .ok (some (.flag .help value))
  | false, true => .ok (some (.flag .json value))
  | false, false => .ok none

/-- Tells flags from paths. What starts with a minus is a flag, unless it is a minus alone, a
negative number, or holds a space without being a known flag. -/
def classify (argument : String) : Except UsageError Argument :=
  let cs := argument.toList
  let stem := cs.takeWhile (· != '=')
  let value := match cs.dropWhile (· != '=') with
    | [] => none
    | _ :: v => some (String.ofList v)
  let unmatched :=
    if isNegativeNumber cs || cs.contains ' ' then .path argument else .unknown argument
  match cs with
  | '-' :: '-' :: _ => (longFlag argument stem value).map (·.getD unmatched)
  | '-' :: 'h' :: rest =>
    let flagValue :=
      if rest.head? == some '=' then
        if rest.tail.isEmpty then some "" else bundled rest.tail
      else bundled rest
    .ok (.flag .help flagValue)
  | ['-'] => .ok (.path argument)
  | '-' :: _ => .ok unmatched
  | _ => .ok (.path argument)

inductive Request where
  | help
  | run (options : Options)
  deriving DecidableEq, Repr

/-- What has been read: the flag, the paths if any were met, and what is not understood, the latest
first. -/
structure Reading where
  json : Bool
  paths : Option (List String)
  extras : List String

def Reading.takeRun (r : Reading) (run : List String) : Reading :=
  match r.paths with
  | none => { r with paths := some (run.erase "--") }
  | some _ => { r with extras := run.reverse ++ r.extras }

def Reading.endRun (r : Reading) (run : List String) : Reading :=
  if run.isEmpty then r else r.takeRun run.reverse

def Reading.finish (r : Reading) : Except UsageError Request :=
  if r.extras.isEmpty then .ok (.run ⟨r.json, r.paths.getD []⟩)
  else .error (.unrecognized r.extras.reverse)

/-- Follows the arguments before `--` in order; `run` holds the paths since the last flag, the latest
first, and `behind` is `--` with all that follows it. -/
def follow (behind : List String) : Reading → List String → List Argument → Except UsageError Request
  | r, run, [] => (r.endRun (behind.reverse ++ run)).finish
  | r, run, .path text :: rest => follow behind r (text :: run) rest
  | _, _, .flag .help none :: _ => .ok .help
  | r, run, .flag .json none :: rest => follow behind { r.endRun run with json := true } [] rest
  | _, _, .flag flag (some value) :: _ => .error (.ignored flag value)
  | r, run, .unknown text :: rest =>
    let r := r.endRun run
    follow behind { r with extras := text :: r.extras } [] rest

def parse (argv : List String) : Except UsageError Request := do
  let before := argv.takeWhile (· != "--")
  let arguments ← before.mapM classify
  follow (argv.drop before.length) ⟨false, none, []⟩ [] arguments

def usage : String := "usage: emlint [-h] [--json] [paths ...]\n"

def help : String :=
  usage ++
    "\nCheck HTML email markup for defects.\n" ++
    "\npositional arguments:\n" ++
    "  paths       paths to HTML documents (defaults to stdin).\n" ++
    "\noptions:\n" ++
    "  -h, --help  show this help message and exit\n" ++
    "  --json      print all findings as one JSON array; each entry carries its\n" ++
    "              path.\n"

end MailMarkup.Command
