import MailMarkup.Text.Blank
import MailMarkup.Text.Case

namespace MailMarkup

/-- An opening or closing tag as it stands on a line: its lower-case name and the text between the
name and the `>`. -/
structure Tag where
  name : String
  closing : Bool
  attributes : String
  deriving DecidableEq, Repr

namespace Tag

def selfClosing (tag : Tag) : Bool := (Text.trim tag.attributes.toList).getLast? == some '/'

/-- Names may hold colons, as the vendor tags `v:rect` and `o:p` do. -/
def isNameChar (c : Char) : Bool := c.isAlphanum || c == ':'

def read? (cs : List Char) : Option (Tag × List Char) :=
  let closing := cs.head? == some '/'
  let body := if closing then cs.tail else cs
  let name := body.takeWhile isNameChar
  let inside := body.dropWhile isNameChar
  match name, inside.dropWhile (· != '>') with
  | [], _ => none
  | _ :: _, [] => none
  | _ :: _, _ :: rest =>
    some (⟨String.ofList (name.map Char.toLower), closing,
      String.ofList (inside.takeWhile (· != '>'))⟩, rest)

theorem length_lt_of_read? {cs rest : List Char} {tag : Tag} (h : read? cs = some (tag, rest)) :
    rest.length < cs.length := by
  have hbody : (if (cs.head? == some '/') = true then cs.tail else cs).length ≤ cs.length := by
    split <;> simp
  simp only [read?] at h
  generalize (if (cs.head? == some '/') = true then cs.tail else cs) = body at h hbody
  split at h
  · cases h
  · cases h
  · rename_i after hafter
    simp only [Option.some.injEq, Prod.mk.injEq] at h
    obtain ⟨-, rfl⟩ := h
    have hdrop := congrArg List.length hafter
    simp only [List.length_cons] at hdrop
    have hinside := (List.dropWhile_sublist (l := body) isNameChar).length_le
    have hrest := (List.dropWhile_sublist (l := body.dropWhile isNameChar) (· != '>')).length_le
    omega

def scanFrom (found : List Tag) : List Char → List Tag
  | [] => found.reverse
  | c :: cs =>
    if c = '<' then
      match _h : read? cs with
      | some (tag, rest) => scanFrom (tag :: found) rest
      | none => scanFrom found cs
    else scanFrom found cs
termination_by cs => cs.length
decreasing_by
  · exact Nat.lt_succ_of_lt (length_lt_of_read? _h)
  · exact Nat.lt_succ_self _
  · exact Nat.lt_succ_self _

def scan (line : String) : List Tag := scanFrom [] line.toList

end Tag

def isSkipped (line : String) : Bool :=
  let shown := Text.lower (Text.trim line.toList)
  "<!--".toList.isPrefixOf shown || "<!doctype".toList.isPrefixOf shown

end MailMarkup
