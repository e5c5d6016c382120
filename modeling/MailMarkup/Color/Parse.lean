import MailMarkup.Color.Basic
import MailMarkup.Text.Blank
import MailMarkup.Text.Case
import MailMarkup.Text.Digit

namespace MailMarkup

structure InvalidColor where
  text : String
  deriving DecidableEq, Repr

def InvalidColor.message (e : InvalidColor) : String := s!"Unrecognised color '{e.text}'"

namespace Rgb

def hexValue? (c : Char) : Option Nat :=
  if c.isDigit then some (c.toNat - 48)
  else if 'a' ≤ c ∧ c ≤ 'f' then some (c.toNat - 87)
  else if 'A' ≤ c ∧ c ≤ 'F' then some (c.toNat - 55)
  else none

def ofHex? (cs : List Char) : Option Rgb :=
  let digits := if cs.head? == some '#' then cs.tail else cs
  match digits.mapM hexValue? with
  | some [r, g, b] => some ⟨17 * r, 17 * g, 17 * b⟩
  | some [r, r', g, g', b, b'] => some ⟨16 * r + r', 16 * g + g', 16 * b + b'⟩
  | _ => none

def channel? (cs : List Char) : Option (Nat × List Char) :=
  let ds := cs.takeWhile Text.isDigit
  if ds.isEmpty || 3 < ds.length then none
  else some (Text.number ds, cs.dropWhile Text.isDigit)

def isSeparator (gap : List Char) : Bool :=
  gap.all (fun c => Text.isBlank c || c == ',') && gap.count ',' ≤ 1 &&
    (gap.contains ',' || gap.contains ' ')

def separator? (cs : List Char) : Option (List Char) :=
  if isSeparator (cs.takeWhile fun c => !Text.isDigit c) then
    some (cs.dropWhile fun c => !Text.isDigit c)
  else none

/-- Reads the last channel, of which at most three digits count, and whatever else there is up to
the parenthesis that ends the text. -/
def lastChannel? (cs : List Char) : Option Nat :=
  let ds := (cs.takeWhile Text.isDigit).take 3
  if ds.isEmpty || (cs.drop ds.length).dropWhile (· != ')') != [')'] then none
  else some (Text.number ds)

def channels? (cs : List Char) : Option (Nat × Nat × Nat) := do
  let (r, cs) ← channel? (cs.dropWhile Text.isBlank)
  let (g, cs) ← channel? (← separator? cs)
  let b ← lastChannel? (← separator? cs)
  return (r, g, b)

def ofFunction? (cs : List Char) : Option Rgb :=
  let inside? := ["rgb(", "rgba("].findSome? fun start =>
    if start.toList.isPrefixOf cs then some (cs.drop start.length) else none
  match inside?.bind channels? with
  | some (r, g, b) => if r ≤ 255 ∧ g ≤ 255 ∧ b ≤ 255 then some ⟨r, g, b⟩ else none
  | none => none

def parse (text : String) : Except InvalidColor Rgb :=
  let cs := Text.trim text.toList
  match (ofHex? cs).or (ofFunction? (Text.lower cs)) with
  | some c => .ok c
  | none => .error ⟨text⟩

def invertHex (text : String) : Except InvalidColor String :=
  (parse text).map fun c => c.invert.toHex

end Rgb

end MailMarkup
