import MailMarkup.Record.Decode
import MailMarkup.Report

namespace MailMarkup

namespace Code

def decode : Record.Decoder Code
  | .str s =>
    match ofLabel? s.shown with
    | some code => .ok code
    | none => Record.refuse (.notAmong (all.map label))
  | _ => Record.refuse (.notAmong (all.map label))

end Code

namespace Finding

def lineNumberField : Record.Field Int :=
  .required "lineNumber" "line_number" (Record.atLeast 1 Record.integer)

def lineContentField : Record.Field String := .required "lineContent" "line_content" Record.text

def errorTagField : Record.Field String := .required "errorTag" "error_tag" Record.text

def messageField : Record.Field String := .required "message" "message" Record.text

def codeField : Record.Field Code := .required "code" "code" Code.decode

def ofFields (fields : List (Text.Wide × Json)) : Record.Decoded Finding :=
  let number := lineNumberField.read fields
  let content := lineContentField.read fields
  let tag := errorTagField.read fields
  let message := messageField.read fields
  let code := codeField.read fields
  match number, content, tag, message, code with
  | .ok number, .ok content, .ok tag, .ok message, .ok code =>
    .ok ⟨number, content, tag, message, code⟩
  | _, _, _, _, _ =>
    .error (number.faults ++ content.faults ++ tag.faults ++ message.faults ++ code.faults)

def ofJson : Record.Decoder Finding
  | .obj fields => ofFields fields
  | _ => Record.refuse (.notRecord "ValidationError")

def toFields (f : Finding) : List (Text.Wide × Json) :=
  [("lineNumber", .int f.lineNumber), ("lineContent", .str f.lineContent),
   ("errorTag", .str f.errorTag), ("message", .str f.message), ("code", .str f.code.label)]

def toJson (f : Finding) : Json := .obj f.toFields

/-- Findings do not change: to set any part of one is refused. -/
def assign (_ : Finding) (name : String) : Fault := ⟨[.key name], .frozen⟩

end Finding

namespace Verdict

def validField : Record.Field Bool := .required "valid" "valid" Record.boolean

def errorsField : Record.Field (List Finding) :=
  ⟨"errors", "errors", Record.list Finding.ofJson, some []⟩

def structuralCountField : Record.Field Int :=
  ⟨"structuralCount", "structural_count", Record.integer, some 0⟩

def lintCountField : Record.Field Int := ⟨"lintCount", "lint_count", Record.integer, some 0⟩

def ofFields (fields : List (Text.Wide × Json)) : Record.Decoded Verdict :=
  let valid := validField.read fields
  let errors := errorsField.read fields
  let structural := structuralCountField.read fields
  let lint := lintCountField.read fields
  match valid, errors, structural, lint with
  | .ok valid, .ok errors, .ok structural, .ok lint => .ok ⟨valid, errors, structural, lint⟩
  | _, _, _, _ => .error (valid.faults ++ errors.faults ++ structural.faults ++ lint.faults)

def ofJson : Record.Decoder Verdict
  | .obj fields => ofFields fields
  | _ => Record.refuse (.notRecord "ValidationResult")

def toJson (v : Verdict) : Json :=
  .obj [("valid", .bool v.valid), ("errors", .arr (v.errors.map Finding.toJson)),
    ("structuralCount", .int v.structuralCount), ("lintCount", .int v.lintCount)]

end Verdict

end MailMarkup
