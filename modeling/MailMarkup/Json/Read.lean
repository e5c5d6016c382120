import MailMarkup.Decimal.Read
import MailMarkup.Json.Basic

namespace MailMarkup.Json

/-- Why a text is not read. A text that is not JSON comes with what was left to read at the point of
complaint; a number with too many digits and values that nest too deep are refused without one. -/
inductive ReadError where
  | stuck (rest : List Char)
  | tooManyDigits
  | tooDeep

abbrev Read (α : Type) := Except ReadError (α × List Char)

def isSpace (c : Char) : Bool := c == ' ' || c == '\t' || c == '\n' || c == '\r'

def skipSpace (cs : List Char) : List Char := cs.dropWhile isSpace

def hexDigit? (c : Char) : Option Nat :=
  if c.isDigit then some (c.toNat - 48)
  else if 'a' ≤ c ∧ c ≤ 'f' then some (c.toNat - 87)
  else if 'A' ≤ c ∧ c ≤ 'F' then some (c.toNat - 55)
  else none

/-- The UTF-16 unit behind `\u`: four hexadecimal digits that do not end the text. -/
def unit? (cs : List Char) : Option (Nat × List Char) :=
  match cs with
  | a :: b :: c :: d :: rest =>
    match hexDigit? a, hexDigit? b, hexDigit? c, hexDigit? d, rest with
    | some a, some b, some c, some d, _ :: _ => some (((a * 16 + b) * 16 + c) * 16 + d, rest)
    | _, _, _, _, _ => none
  | _ => none

def unicode (u : List Char) : Read Nat :=
  match unit? u.tail with
  | none => .error (.stuck u)
  | some (high, rest) =>
    match decide (0xD800 ≤ high ∧ high < 0xDC00), rest with
    | true, '\\' :: 'u' :: more =>
      if (more.drop 4).isEmpty then .ok (high, rest)
      else match unit? more with
        | none => .error (.stuck ('u' :: more))
        | some (low, after) =>
          if 0xDC00 ≤ low ∧ low < 0xE000 then
            .ok (0x10000 + (high - 0xD800) * 0x400 + (low - 0xDC00), after)
          else .ok (high, rest)
    | _, _ => .ok (high, rest)

def escaped? (c : Char) : Option Char :=
  if c = '\x22' ∨ c = '\\' ∨ c = '/' then some c
  else if c = 'b' then some '\x08'
  else if c = 'f' then some '\x0c'
  else if c = 'n' then some '\n'
  else if c = 'r' then some '\r'
  else if c = 't' then some '\t'
  else none

/-- Where the text itself holds halves: the number of characters from each of them to the end, and
its value, in the order of the text. -/
abbrev Marks := List (Nat × Nat)

def Marks.at? (marks : Marks) (rest : List Char) : Option (Nat × Marks) :=
  if marks.isEmpty then none
  else
    let left := rest.length
    match marks.dropWhile (left < ·.1) with
    | (place, half) :: later => if place = left then some (half, later) else none
    | [] => none

/-- Reads a string behind its opening quote; `start` is the text from that quote on, and `draft` what
was read. Every step takes a character, so fuel for as many steps is enough. -/
def stringFrom (start : List Char) : Nat → Marks → Text.Wide.Draft → List Char → Read Text.Wide
  | 0, _, _, _ => .error (.stuck start)
  | _ + 1, _, _, [] => .error (.stuck start)
  | fuel + 1, marks, draft, c :: cs =>
    if c = '\x22' then .ok (draft.text, cs)
    else if c = '\\' then
      match cs with
      | [] => .error (.stuck start)
      | 'u' :: _ =>
        match unicode cs with
        | .error e => .error e
        | .ok (point, rest) => stringFrom start fuel marks (draft.pushPoint point) rest
      | e :: rest =>
        match escaped? e with
        | none => .error (.stuck (c :: cs))
        | some d => stringFrom start fuel marks (draft.push d) rest
    else if c.toNat ≤ 0x1F then .error (.stuck (c :: cs))
    else if c = Text.replacement then
      match marks.at? (c :: cs) with
      | some (half, marks) => stringFrom start fuel marks (draft.pushPoint half) cs
      | none => stringFrom start fuel marks (draft.push c) cs
    else stringFrom start fuel marks (draft.push c) cs

def string (marks : Marks) (fuel : Nat) (start : List Char) : Read Text.Wide :=
  stringFrom start fuel marks .empty start.tail

def fraction? (cs : List Char) : Option (List Char × List Char) :=
  match cs with
  | '.' :: rest =>
    match Decimal.digits rest with
    | ([], _) => none
    | (ds, after) => some (ds, after)
  | _ => none

def number (cs : List Char) : Read Json :=
  let negative := cs.head? == some '-'
  let body := if negative then cs.tail else cs
  let (whole, rest) :=
    if body.head? == some '0' then (['0'], body.tail) else Decimal.digits body
  if whole.isEmpty then .error (.stuck cs)
  else
    let (decimals, rest) := (fraction? rest).getD ([], rest)
    match decimals, Decimal.exponent? rest with
    | [], none =>
      if Text.maxDigits < whole.length then .error .tooManyDigits
      else .ok (.int (if negative then -Decimal.natOf whole else Decimal.natOf whole), rest)
    | _, none =>
      let n := Decimal.natOf (whole ++ decimals)
      .ok (.real (Decimal.realOf negative n (-decimals.length)), rest)
    | _, some (e, rest) =>
      let n := Decimal.natOf (whole ++ decimals)
      .ok (.real (Decimal.realOf negative n (e - decimals.length)), rest)

def constants : List (String × Json) :=
  [("null", .null), ("true", .bool true), ("false", .bool false), ("NaN", .real (0.0 / 0.0)),
   ("Infinity", .real (1.0 / 0.0)), ("-Infinity", .real (-1.0 / 0.0))]

def constant? (cs : List Char) : Option (Json × List Char) :=
  constants.findSome? fun (word, value) =>
    if word.toList.isPrefixOf cs then some (value, cs.drop word.length) else none

def maxDepth : Nat := 960

mutual

/-- Reads a value inside of `depth` others. The fuel bounds the number of steps: two for every
character that is left are enough. -/
def value (marks : Marks) : Nat → Nat → List Char → Read Json
  | 0, _, cs => .error (.stuck cs)
  | fuel + 1, depth, cs =>
    match cs with
    | [] => .error (.stuck [])
    | c :: rest =>
      if c = '\x22' then (string marks fuel cs).map fun (s, rest) => (.str s, rest)
      else if c = '\x7b' then
        let inside := skipSpace rest
        if maxDepth ≤ depth then .error .tooDeep
        else if inside.head? == some '\x7d' then .ok (.obj [], inside.tail)
        else fieldsFrom marks fuel (depth + 1) [] inside
      else if c = '[' then
        let inside := skipSpace rest
        if maxDepth ≤ depth then .error .tooDeep
        else if inside.head? == some ']' then .ok (.arr [], inside.tail)
        else itemsFrom marks fuel (depth + 1) [] inside
      else match constant? cs with
        | some found => .ok found
        | none => number cs

def itemsFrom (marks : Marks) : Nat → Nat → List Json → List Char → Read Json
  | 0, _, _, cs => .error (.stuck cs)
  | fuel + 1, depth, done, cs =>
    match value marks fuel depth cs with
    | .error e => .error e
    | .ok (item, rest) =>
      match skipSpace rest with
      | ']' :: rest => .ok (.arr (item :: done).reverse, rest)
      | ',' :: rest => itemsFrom marks fuel depth (item :: done) (skipSpace rest)
      | rest => .error (.stuck rest)

def fieldsFrom (marks : Marks) : Nat → Nat → List (Text.Wide × Json) → List Char → Read Json
  | 0, _, _, cs => .error (.stuck cs)
  | fuel + 1, depth, done, cs =>
    if cs.head? != some '\x22' then .error (.stuck cs)
    else match string marks fuel cs with
      | .error e => .error e
      | .ok (key, rest) =>
        match skipSpace rest with
        | ':' :: rest =>
          match value marks fuel depth (skipSpace rest) with
          | .error e => .error e
          | .ok (item, rest) =>
            match skipSpace rest with
            | '\x7d' :: rest => .ok (.obj ((key, item) :: done).reverse, rest)
            | ',' :: rest => fieldsFrom marks fuel depth ((key, item) :: done) (skipSpace rest)
            | rest => .error (.stuck rest)
        | rest => .error (.stuck rest)

end

inductive ParseError where
  | stuck (offset : Nat)
  | tooManyDigits
  | tooDeep
  deriving DecidableEq, Repr

def parse (text : Text.Wide) : Except ParseError Json :=
  let cs := text.shown.toList
  let length := cs.length
  let marks := text.halves.map fun (place, half) => (length - place, half)
  let complain (rest : List Char) := ParseError.stuck (length - rest.length)
  match value marks (2 * length + 2) 0 (skipSpace cs) with
  | .error (.stuck rest) => .error (complain rest)
  | .error .tooManyDigits => .error .tooManyDigits
  | .error .tooDeep => .error .tooDeep
  | .ok (v, rest) =>
    match skipSpace rest with
    | [] => .ok v
    | rest => .error (complain rest)

end MailMarkup.Json
