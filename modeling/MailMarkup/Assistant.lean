import MailMarkup.Color.Contrast
import MailMarkup.Decimal.Shortest
import MailMarkup.Reference
import MailMarkup.Report

namespace MailMarkup

inductive Query where
  | validate (html : String)
  | contrast (text background : String)
  | reference
  | repairGuide
  deriving DecidableEq, Repr

def outcome (passes : Bool) : String := if passes then "pass" else "fail"

def ContrastReport.lines (r : ContrastReport) : List String :=
  [s!"text {r.textColor} on {r.backgroundColor}",
   s!"  light mode: {Decimal.shortest r.lightModeContrast}:1 ({outcome r.passesLight})",
   s!"  dark mode:  {Decimal.shortest r.darkModeContrast}:1 ({outcome r.passesDark})"] ++
    r.suggestion.toList.map fun s => s!"  suggested text color: {s}"

def Query.answer : Query → Except InvalidColor String
  | .validate html => .ok (report (check html))
  | .contrast text background =>
    (Contrast.analyzeText text background).map fun r => "\n".intercalate r.lines
  | .reference => .ok MailMarkup.reference
  | .repairGuide => .ok MailMarkup.repairGuide

end MailMarkup
