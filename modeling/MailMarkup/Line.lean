import MailMarkup.Text.Blank

namespace MailMarkup

/-- A physical line of a document. Lines are counted from 1; findings are attributed to them. -/
structure Line where
  number : Int
  text : String
  deriving DecidableEq, Repr

def Line.display (line : Line) : String := String.ofList (Text.trim line.text.toList)

structure Place where
  number : Int
  content : String
  deriving DecidableEq, Repr

def Line.place (line : Line) : Place := ⟨line.number, line.display⟩

/-- Writes `new` for `old` behind what is done, the latest character first; the next `skip`
characters belong to an `old` that was already replaced. -/
def Text.replaceFrom (old new : List Char) : List Char → Nat → List Char → List Char
  | done, _, [] => done.reverse
  | done, skip + 1, _ :: cs => replaceFrom old new done skip cs
  | done, 0, c :: cs =>
    if old.isPrefixOf (c :: cs) then replaceFrom old new (new.reverse ++ done) (old.length - 1) cs
    else replaceFrom old new (c :: done) 0 cs

def Text.replaceAll (old new cs : List Char) : List Char := replaceFrom old new [] 0 cs

def unifyLineEnds (cs : List Char) : List Char :=
  Text.replaceAll ['\r'] ['\n'] (Text.replaceAll ['\r', '\n'] ['\n'] cs)

def lines (document : String) : List Line :=
  ((Text.pieces (· == '\n') (unifyLineEnds document.toList)).zipIdx 1).map fun (text, i) =>
    ⟨i, String.ofList text⟩

theorem one_le_number_of_mem_lines {document : String} {line : Line} (h : line ∈ lines document) :
    1 ≤ line.number := by
  obtain ⟨⟨text, i⟩, hi, rfl⟩ := List.mem_map.1 h
  have := (List.mem_zipIdx hi).1
  simp only
  omega

end MailMarkup
