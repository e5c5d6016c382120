import MailMarkup.Command.Run

namespace MailMarkup.Command

def errorReason : IO.Error → String
  | .alreadyExists _ _ details | .otherError _ details | .resourceBusy _ details
  | .resourceVanished _ details | .unsupportedOperation _ details | .hardwareFault _ details
  | .unsatisfiedConstraints _ details | .illegalOperation _ details | .protocolError _ details
  | .timeExpired _ details | .interrupted _ _ details | .noFileOrDirectory _ _ details
  | .invalidArgument _ _ details | .permissionDenied _ _ details | .resourceExhausted _ _ details
  | .inappropriateType _ _ details | .noSuchThing _ _ details => details
  | .unexpectedEof => "unexpected end of file"
  | .userError message => message

def openErrorOf : IO.Error → OpenError
  | .noFileOrDirectory _ _ _ => .notFound
  | e => .refused (errorReason e)

def openFile (path : String) : IO (Except OpenError (List UInt8)) := do
  if path.toList.contains '\x00' then return .error .embeddedNul
  try
    let bytes ← IO.FS.readBinFile path
    return .ok bytes.toList
  catch e => return .error (openErrorOf e)

def environment : IO (List (String × String)) := do
  let found ← (Settings.names ++ Settings.names.map String.toUpper).mapM fun name => do
    return (← IO.getEnv name).map fun value => (name, value)
  return found.filterMap id

def settingsFile : IO (List UInt8) := do
  match ← openFile ".env" with
  | .ok bytes => return bytes
  | .error _ => return []

def requestedPaths (argv : List String) : List String :=
  match parse argv with
  | .ok (.run options) => options.paths
  | _ => []

def stdinWanted (argv : List String) : Bool :=
  match parse argv with
  | .ok (.run options) => options.paths.isEmpty
  | _ => false

def perform (argv : List String) : IO UInt32 := do
  let files ← (requestedPaths argv).mapM fun path => do return (path, ← openFile path)
  let stdin ← if stdinWanted argv then (← IO.getStdin).readBinToEnd else pure .empty
  let sources : Settings.Sources := ⟨[], ← environment, ← settingsFile⟩
  let world : World :=
    ⟨sources, fun path => (files.lookup path).getD (.error .notFound), stdin.toList⟩
  let result := run argv world
  IO.print result.stdout
  IO.eprint result.stderr
  match result.ending with
  | .exit status => return status.toUInt32
  | .settings faults =>
    for fault in faults do IO.eprintln fault.cause.message
    return 1
  | .level e => IO.eprintln e.message; return 1
  | .undecodable => IO.eprintln "the input is not text"; return 1
  | .embeddedNul => IO.eprintln "embedded null byte"; return 1

end MailMarkup.Command

def main (argv : List String) : IO UInt32 := MailMarkup.Command.perform argv
