import MailMarkup.Text.Blank

/-!
Settings files: one `NAME=value` a line. Names may follow `export`; values may be quoted, and a
quoted value may run over several lines. `$` and a name in braces stand for an earlier value. What is
not of this form is skipped, and the line on which it starts is reported.
-/

namespace MailMarkup.EnvFile

abbrev Binding := String × Option String

def skipInline (cs : List Char) : List Char := cs.dropWhile Text.isInlineBlank

def skipExport (cs : List Char) : List Char :=
  let rest := cs.drop 6
  if "export".toList.isPrefixOf cs && rest.head?.any Text.isInlineBlank then skipInline rest else cs

def dropLine (cs : List Char) : List Char := (cs.dropWhile (· != '\n')).tail

def endLine? (cs : List Char) : Option (List Char) :=
  let afterComment := match skipInline cs with
    | '#' :: rest => rest.dropWhile (· != '\n')
    | rest => rest
  match afterComment with
  | [] => some []
  | '\n' :: rest => some rest
  | _ => none

/-- Splits behind an opening quote at the quote that closes. A character behind a backslash does not
close. The inside is kept in reverse. -/
def splitQuoted (quote : Char) (inside : List Char) : List Char → Option (List Char × List Char)
  | [] => none
  | [c] => if c = quote then some (inside.reverse, []) else none
  | c :: d :: rest =>
    if c = quote then some (inside.reverse, d :: rest)
    else if c = '\\' then splitQuoted quote (d :: c :: inside) rest
    else splitQuoted quote (c :: inside) (d :: rest)

def doubleEscape? (c : Char) : Option Char :=
  if c = '\\' ∨ c = '\x27' ∨ c = '\x22' then some c
  else ([('a', '\x07'), ('b', '\x08'), ('f', '\x0c'), ('n', '\n'), ('r', '\r'), ('t', '\t'),
    ('v', '\x0b')] : List (Char × Char)).lookup c

def singleEscape? (c : Char) : Option Char := if c = '\\' ∨ c = '\x27' then some c else none

def unescape (escape? : Char → Option Char) : List Char → List Char
  | [] => []
  | [c] => [c]
  | c :: d :: rest =>
    match c == '\\', escape? d with
    | true, some e => e :: unescape escape? rest
    | _, _ => c :: unescape escape? (d :: rest)

def cutComment (cs : List Char) : List Char :=
  (((none :: cs.map some).zip cs).takeWhile fun (before, c) =>
    !(c == '#' && before.any Text.isBlank)).map (·.2)

def value? (cs : List Char) : Option (List Char × List Char) :=
  match skipInline cs with
  | '\x27' :: rest =>
    (splitQuoted '\x27' [] rest).map fun (inside, after) => (unescape singleEscape? inside, after)
  | '\x22' :: rest =>
    (splitQuoted '\x22' [] rest).map fun (inside, after) => (unescape doubleEscape? inside, after)
  | _ => some (Text.trim (cutComment (cs.takeWhile (· != '\n'))), cs.dropWhile (· != '\n'))

def isKeyChar (c : Char) : Bool := c != '=' && c != '#' && !Text.isBlank c

def key? (cs : List Char) : Option (Option (List Char) × List Char) :=
  match cs with
  | [] => none
  | c :: rest =>
    if c = '#' then some (none, cs)
    else if c = '\x27' then
      match rest.takeWhile (· != c), rest.dropWhile (· != c) with
      | _ :: _, _ :: after => some (some (rest.takeWhile (· != c)), after)
      | _, _ => none
    else if isKeyChar c then some (some (cs.takeWhile isKeyChar), cs.dropWhile isKeyChar)
    else none

inductive Statement where
  | binding (name : String) (value : Option String)
  | comment
  | malformed
  deriving DecidableEq, Repr

/-- Reads one statement. A malformed one is skipped up to the end of the line on which it goes
wrong. -/
def statement (cs : List Char) : Statement × List Char :=
  let body := skipExport cs
  match key? body with
  | none => (.malformed, dropLine body)
  | some (key, rest) =>
    let rest := skipInline rest
    let ends (value : Option (List Char)) (rest : List Char) : Statement × List Char :=
      match endLine? rest, key with
      | none, _ => (.malformed, dropLine rest)
      | some after, some k => (.binding (String.ofList k) (value.map String.ofList), after)
      | some after, none => (.comment, after)
    match rest with
    | '=' :: behind =>
      match value? behind with
      | none => (.malformed, dropLine behind)
      | some (value, after) => ends (some value) after
    | _ => ends none rest

/-- The statements of a text, each with the text from its start on, behind those already read, the
latest first. A statement starts where the one before it ends, with blank lines in front of it. Every
statement takes at least one character, so the length of the text bounds their number. -/
def statementsFrom : Nat → List (Statement × List Char) → List Char → List (Statement × List Char)
  | 0, done, _ => done.reverse
  | fuel + 1, done, cs =>
    match cs.dropWhile Text.isBlank with
    | [] => done.reverse
    | c :: rest =>
      let (found, after) := statement (c :: rest)
      statementsFrom fuel ((found, cs) :: done) after

def statements (text : List Char) : List (Statement × List Char) :=
  let body := if text.head? == some '\uFEFF' then text.tail else text
  statementsFrom (body.length + 1) [] body

def malformedLines (text : List Char) : List Nat :=
  (statements text).filterMap fun (s, start) =>
    if s = .malformed then some (1 + text.count '\n' - start.count '\n') else none

def bindings (text : List Char) : List Binding :=
  (statements text).filterMap fun
    | (.binding name value, _) => some (name, value)
    | _ => none

def reference? (cs : List Char) : Option (String × String × List Char) :=
  let inName := fun c => c != '\x7d' && c != ':'
  let name := String.ofList (cs.takeWhile inName)
  match cs.dropWhile inName with
  | '\x7d' :: rest => some (name, "", rest)
  | ':' :: '-' :: rest =>
    match rest.dropWhile (· != '\x7d') with
    | _ :: after => some (name, String.ofList (rest.takeWhile (· != '\x7d')), after)
    | [] => none
  | _ => none

def latest (known : List Binding) (name : String) : Option (Option String) :=
  (known.find? (·.1 == name)).map (·.2)

def expandFrom (known : List Binding) : Nat → List Char → List Char → String
  | 0, done, _ => String.ofList done.reverse
  | _ + 1, done, [] => String.ofList done.reverse
  | fuel + 1, done, c :: rest =>
    match c, rest with
    | '$', '\x7b' :: inside =>
      match reference? inside with
      | some (name, fallback, after) =>
        let found := ((latest known name).getD (some fallback)).getD ""
        expandFrom known fuel (found.toList.reverse ++ done) after
      | none => expandFrom known fuel (c :: done) rest
    | _, _ => expandFrom known fuel (c :: done) rest

def expand (known : List Binding) (value : String) : String :=
  expandFrom known (value.length + 1) [] value.toList

def assign (known : List Binding) (name : String) (value : Option String) : List Binding :=
  if known.any (·.1 == name) then
    known.map fun b => if b.1 == name then (name, value) else b
  else known ++ [(name, value)]

/-- The values of all names, in the order in which the names first occur. References to earlier
bindings and to the environment are filled in; a binding hides a variable of the environment. -/
def parse (environment : List (String × String)) (text : List Char) : List Binding :=
  let start := (environment.map fun (k, v) => (k, some v)).reverse
  (bindings text).foldl
    (fun known (name, value) => assign known name (value.map (expand (known ++ start)))) []

end MailMarkup.EnvFile
