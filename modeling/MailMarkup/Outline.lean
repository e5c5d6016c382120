import MailMarkup.Line
import MailMarkup.Text.Wide

/-!
Where halves of surrogate pairs stand on the lines of a document. The outline of a document has the
same lines with the same blanks, so a place on a line of it as displayed is one on the line itself.
-/

namespace MailMarkup

structure HalfRun where
  first : Nat
  units : List Nat
  deriving DecidableEq, Repr

namespace Outline

def mark (unit : Nat) : Char := Char.ofNat (0x10F800 + (unit - 0xD800))

def isMark (c : Char) : Bool := decide (0x10F800 ≤ c.toNat)

def unit (c : Char) : Nat := c.toNat - 0x10F800 + 0xD800

/-- Blanks stay as they are; which other character stands at a place does not matter. -/
def plain (c : Char) : Char := if Text.isBlank c then c else 'x'

def outlineFrom (place : Nat) (halves : List (Nat × Nat)) (done : List Char) :
    List Char → List Char
  | [] => done.reverse
  | c :: cs =>
    match halves with
    | [] => outlineFrom (place + 1) [] (plain c :: done) cs
    | (p, u) :: later =>
      if p = place then outlineFrom (place + 1) later (mark u :: done) cs
      else outlineFrom (place + 1) halves (plain c :: done) cs

def firstRun? (cs : List Char) : Option HalfRun :=
  match (cs.dropWhile (!isMark ·)).takeWhile isMark with
  | [] => none
  | run => some ⟨(cs.takeWhile (!isMark ·)).length, run.map unit⟩

end Outline

def outline (document : Text.Wide) : String :=
  String.ofList (Outline.outlineFrom 0 document.halves [] document.shown.toList)

/-- For every line of a document the first halves on it as it is displayed. -/
def halfRuns (document : Text.Wide) : List (Option HalfRun) :=
  (lines (outline document)).map fun line => Outline.firstRun? line.display.toList

end MailMarkup
