import MailMarkup.Check

namespace MailMarkup

def Finding.line (f : Finding) : String :=
  s!"line {f.lineNumber} [{f.code.label}] {f.message}  (at {f.errorTag})"

def report (found : List Finding) : String :=
  match found with
  | [] => "No issues found."
  | _ :: _ =>
    let noun := if found.length = 1 then "issue" else "issues"
    "\n".intercalate (s!"Found {found.length} {noun}:" :: found.map fun f => "  " ++ f.line)

structure Verdict where
  valid : Bool
  errors : List Finding
  structuralCount : Int
  lintCount : Int
  deriving DecidableEq, Repr

def Verdict.ofFindings (found : List Finding) : Verdict :=
  let structural := found.countP (·.code.isStructural)
  ⟨found.isEmpty, found, structural, (found.length : Int) - structural⟩

end MailMarkup
