import MailMarkup.Text.Blank
import MailMarkup.Text.Keyword
import MailMarkup.Text.Word

namespace MailMarkup

structure QuotedAttribute where
  name : List Char
  value : List Char
  deriving DecidableEq, Repr

namespace QuotedAttribute

def isQuote (c : Char) : Bool := c == '\x22' || c == '\x27'

/-- Reads `= "value"` with blanks before and behind the sign: the value, and what follows the
closing quote. Either quote will do, but the same one closes. -/
def readValue? (cs : List Char) : Option (List Char × List Char) :=
  match cs.dropWhile Text.isBlank with
  | '=' :: behindSign =>
    match behindSign.dropWhile Text.isBlank with
    | q :: inside =>
      match isQuote q, inside.dropWhile (· != q) with
      | true, _ :: rest => some (inside.takeWhile (· != q), rest)
      | _, _ => none
    | [] => none
  | _ => none

def read? (names : List String) (cs : List Char) : Option (QuotedAttribute × List Char) :=
  names.findSome? fun name =>
    match Text.keyword? name.toList cs with
    | none => none
    | some (written, rest) => (readValue? rest).map fun (value, rest) => (⟨written, value⟩, rest)

def mayStart (before : Option Char) : Bool :=
  before.all fun c => !Text.isWord c && c != '-'

theorem length_lt_of_readValue? {cs value rest : List Char}
    (h : readValue? cs = some (value, rest)) : rest.length < cs.length := by
  unfold readValue? at h
  split at h
  · rename_i behindSign hsign
    have hs := (List.dropWhile_sublist (l := cs) Text.isBlank).length_le
    rw [hsign] at hs
    split at h
    · rename_i q inside hquote
      have hq := (List.dropWhile_sublist (l := behindSign) Text.isBlank).length_le
      rw [hquote] at hq
      split at h
      · rename_i after _ hafter
        simp only [Option.some.injEq, Prod.mk.injEq] at h
        obtain ⟨-, rfl⟩ := h
        have ha := (List.dropWhile_sublist (l := inside) (· != q)).length_le
        rw [hafter] at ha
        simp only [List.length_cons] at hs hq ha
        omega
      · cases h
    · cases h
  · cases h

theorem length_lt_of_read? {names : List String} {cs rest : List Char} {a : QuotedAttribute}
    (h : read? names cs = some (a, rest)) : rest.length < cs.length := by
  obtain ⟨name, -, hname⟩ := List.exists_of_findSome?_eq_some h
  split at hname
  · cases hname
  · rename_i written behind hkey
    obtain ⟨⟨value, after⟩, hvalue, he⟩ := Option.map_eq_some_iff.1 hname
    simp only [Prod.mk.injEq] at he
    obtain ⟨-, rfl⟩ := he
    have hlt := length_lt_of_readValue? hvalue
    have happ := congrArg List.length (Text.append_of_keyword? hkey)
    simp only [List.length_append] at happ
    omega

/-- The attributes of the given names in a text, behind those already found, the latest first.
A name may start right behind an attribute, since that ends with a quote. -/
def allFrom (names : List String) (found : List QuotedAttribute) (before : Option Char) :
    List Char → List QuotedAttribute
  | [] => found.reverse
  | c :: cs =>
    if mayStart before then
      match _h : read? names (c :: cs) with
      | some (a, rest) => allFrom names (a :: found) none rest
      | none => allFrom names found (some c) cs
    else allFrom names found (some c) cs
termination_by cs => cs.length
decreasing_by
  · exact length_lt_of_read? _h
  · exact Nat.lt_succ_self _
  · exact Nat.lt_succ_self _

def all (names : List String) (attributes : List Char) : List QuotedAttribute :=
  allFrom names [] none attributes

end QuotedAttribute

end MailMarkup
