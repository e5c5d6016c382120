import MailMarkup.Proofs.Relocate
import MailMarkup.Proofs.Scan
import MailMarkup.Proofs.Written

namespace MailMarkup

def Silent (text : String) : Prop := isSkipped text = true ∨ '<' ∉ text.toList

theorem Tag.scan_of_not_mem {text : String} (h : '<' ∉ text.toList) : scan text = [] := by
  have hrun := scanFrom_run h [] []
  rw [List.append_nil] at hrun
  rw [scan, hrun, scanFrom]
  rfl

theorem taggedPlaces_of_silent (line : Line) (h : Silent line.text) : taggedPlaces [line] = [] := by
  cases hskip : isSkipped line.text with
  | true => simp [taggedPlaces, hskip]
  | false =>
    have hfree : '<' ∉ line.text.toList := h.resolve_left (by simp [hskip])
    rw [taggedPlaces_singleton line hskip, Tag.scan_of_not_mem hfree, List.map_nil]

def SameButSilent : List String → List String → Prop :=
  List.Forall₂ fun text text' => text = text' ∨ Silent text ∧ Silent text'

theorem taggedPlaces_sameButSilent {texts texts' : List String} (h : SameButSilent texts texts')
    (n : Nat) : taggedPlaces (numberFrom n texts) = taggedPlaces (numberFrom n texts') := by
  induction h generalizing n with
  | nil => rfl
  | @cons text text' texts texts' hline hrest ih =>
    have hfirst : taggedPlaces [⟨n, text⟩] = taggedPlaces [⟨n, text'⟩] := by
      rcases hline with rfl | ⟨hsilent, hsilent'⟩
      · rfl
      · rw [taggedPlaces_of_silent ⟨n, text⟩ hsilent, taggedPlaces_of_silent ⟨n, text'⟩ hsilent']
    rw [numberFrom_cons, numberFrom_cons, ← List.singleton_append, taggedPlaces_append, hfirst, ih,
      ← taggedPlaces_append, List.singleton_append]

theorem check_sameButSilent {texts texts' : List String} (h : SameButSilent texts texts')
    (hfree : ∀ text ∈ texts, OnOneLine text) (hfree' : ∀ text ∈ texts', OnOneLine text) :
    check ("\n".intercalate texts) = check ("\n".intercalate texts') := by
  by_cases hnil : texts = []
  · subst hnil
    rw [List.forall₂_nil_left_iff.mp h]
  · have hnil' : texts' ≠ [] := by
      rintro rfl
      exact hnil (List.forall₂_nil_right_iff.mp h)
    rw [check, check, lines_intercalate hnil hfree, lines_intercalate hnil' hfree', checkLines,
      checkLines, taggedPlaces_sameButSilent h]

theorem sameButSilent_replace {old new : String} (hold : Silent old) (hnew : Silent new)
    (before after : List String) :
    SameButSilent (before ++ old :: after) (before ++ new :: after) := by
  have hsame (texts : List String) : SameButSilent texts texts :=
    List.forall₂_same.mpr fun _ _ => Or.inl rfl
  apply List.rel_append (hsame before)
  exact List.Forall₂.cons (Or.inr ⟨hold, hnew⟩) (hsame after)

/-- What is written on a skipped line, whatever it looks like, has no part in any finding. -/
theorem check_ignores_skipped_line (before after : List String) (old new : String)
    (hfree : ∀ text ∈ before ++ old :: after, OnOneLine text) (hnew : OnOneLine new)
    (hskip : isSkipped old = true) (hsilent : isSkipped new = true ∨ '<' ∉ new.toList) :
    check ("\n".intercalate (before ++ old :: after)) =
      check ("\n".intercalate (before ++ new :: after)) := by
  apply check_sameButSilent (sameButSilent_replace (Or.inl hskip) hsilent before after) hfree
  obtain ⟨hbefore, hrest⟩ := List.forall_mem_append.mp hfree
  obtain ⟨-, hafter⟩ := List.forall_mem_cons.mp hrest
  exact List.forall_mem_append.mpr ⟨hbefore, List.forall_mem_cons.mpr ⟨hnew, hafter⟩⟩

theorem open_row_found_around_any_comment :
    let before := ["<table><tr>"]
    let old := " <!--[if mso]><td class=\"x></b>"
    let comment := "<!DocType </tr>"
    let plain := "class='x > 0"
    let after := ["</table>"]
    let found : List Finding := [⟨1, "<table><tr>", "<tr>",
      "The tag <tr> was not closed before </table> was found.", .unclosedBeforeClose⟩]
    (isSkipped old = true ∧ isSkipped comment = true ∧ isSkipped plain = false) ∧
      check ("\n".intercalate (before ++ old :: after)) = found ∧
      check ("\n".intercalate (before ++ comment :: after)) = found ∧
      check ("\n".intercalate (before ++ plain :: after)) = found := by
  intro before old comment plain after found
  have hfree : ∀ text ∈ before ++ old :: after, OnOneLine text := by decide
  have hold : isSkipped old = true := by decide +kernel
  have hcomment : isSkipped comment = true := by decide +kernel
  have hplain : '<' ∉ plain.toList := by decide
  have hfound : check ("\n".intercalate (before ++ old :: after)) = found := by decide +kernel
  refine ⟨⟨hold, hcomment, by decide +kernel⟩, hfound, ?_, ?_⟩
  · rw [← hfound]
    exact (check_ignores_skipped_line before after old comment hfree (by decide) hold
      (Or.inl hcomment)).symm
  · rw [← hfound]
    exact (check_ignores_skipped_line before after old plain hfree (by decide) hold
      (Or.inr hplain)).symm

end MailMarkup
