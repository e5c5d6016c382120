import MailMarkup.Json.Basic
import MailMarkup.Decimal.Shortest

namespace MailMarkup.Json

def hex4 (n : Nat) : List Char :=
  [n / 4096, n / 256, n / 16, n].map fun d => Nat.digitChar (d % 16)

def escape (c : Char) : List Char :=
  let n := c.toNat
  if n = 0x22 then ['\\', c]
  else if n = 0x5C then ['\\', c]
  else if c = '\n' then ['\\', 'n']
  else if c = '\r' then ['\\', 'r']
  else if c = '\t' then ['\\', 't']
  else if n = 8 then ['\\', 'b']
  else if n = 12 then ['\\', 'f']
  else if 0x20 ≤ n ∧ n < 0x7F then [c]
  else if n < 0x10000 then '\\' :: 'u' :: hex4 n
  else
    let m := n - 0x10000
    '\\' :: 'u' :: hex4 (0xD800 + m / 0x400) ++ '\\' :: 'u' :: hex4 (0xDC00 + m % 0x400)

def quote (s : String) : String := "\"" ++ String.ofList (s.toList.flatMap escape) ++ "\""

/-- How the parts of a container are set: behind its opening bracket, between parts, before its
closing bracket, at a depth; and between key and value. -/
structure Layout where
  inner : Nat → String
  outer : Nat → String
  between : String
  colon : String

def Layout.compact : Layout := ⟨fun _ => "", fun _ => "", ",", ":"⟩

def Layout.indented : Layout :=
  let newLine (depth : Nat) := "\n" ++ String.ofList (List.replicate (2 * depth) ' ')
  ⟨fun depth => newLine (depth + 1), newLine, ",", ": "⟩

def surround (layout : Layout) (depth : Nat) (opening closing : String) : List String → String
  | [] => opening ++ closing
  | parts => opening ++ layout.inner depth ++
      (layout.between ++ layout.inner depth).intercalate parts ++ layout.outer depth ++ closing

mutual

def write (layout : Layout) (depth : Nat) : Json → String
  | .null => "null"
  | .bool b => if b then "true" else "false"
  | .int n => toString n
  | .real x => Decimal.shortest x
  | .str s => quote s.shown
  | .arr items => surround layout depth "[" "]" (writeItems layout (depth + 1) items)
  | .obj fields => surround layout depth "\x7b" "\x7d" (writeFields layout (depth + 1) fields)

def writeItems (layout : Layout) (depth : Nat) : List Json → List String
  | [] => []
  | item :: items => write layout depth item :: writeItems layout depth items

def writeFields (layout : Layout) (depth : Nat) : List (Text.Wide × Json) → List String
  | [] => []
  | (key, value) :: fields =>
    (quote key.shown ++ layout.colon ++ write layout depth value) :: writeFields layout depth fields

end

def compact (j : Json) : String := write .compact 0 j

def indented (j : Json) : String := write .indented 0 j

end MailMarkup.Json
