import MailMarkup.Proofs.LineEnds
import MailMarkup.Proofs.NameTail

namespace MailMarkup

theorem exists_last_of_mem {c : Char} {cs : List Char} (h : c ∈ cs) :
    ∃ front back, cs = front ++ c :: back ∧ c ∉ back := by
  obtain ⟨back, front, hcs, hback⟩ := List.eq_append_cons_of_mem (List.mem_reverse.mpr h)
  refine ⟨front.reverse, back.reverse, ?_, by simpa using hback⟩
  rw [← List.reverse_reverse cs, hcs]
  simp

namespace Style

theorem parts_append (first second : List Char) :
    parts (first ++ ';' :: second) = parts first ++ parts second := by
  rw [parts, Text.pieces_append (by rfl), List.map_append, List.filter_append]
  rfl

theorem parts_of_free {style : List Char} (h : ';' ∉ style) :
    parts style = if Text.trim style = [] then [] else [Text.trim style] := by
  have hfree : ∀ c ∈ style, (c == ';') = false := by
    intro c hc
    rw [beq_eq_false_iff_ne]
    rintro rfl
    exact h hc
  rw [parts, Text.pieces_of_free hfree, List.map_singleton, List.filter_cons,
    List.filter_nil]
  by_cases htrim : Text.trim style = [] <;> simp [htrim]

theorem semicolon_not_mem {run : List Char} (h : ∀ c ∈ run, Text.isBlank c = true) : ';' ∉ run := by
  intro hmem
  exact absurd (h ';' hmem) (by decide)

theorem parts_blank_front {front : List Char} (hfront : ∀ c ∈ front, Text.isBlank c = true)
    (style : List Char) : parts (front ++ style) = parts style := by
  have hfree {part : List Char} (hpart : ';' ∉ part) :
      parts (front ++ part) = parts part := by
    have htrim := Text.trim_padded hfront (List.forall_mem_nil _) part
    rw [List.append_nil] at htrim
    rw [parts_of_free hpart, parts_of_free, htrim]
    simp [semicolon_not_mem hfront, hpart]
  by_cases hmem : ';' ∈ style
  · obtain ⟨first, rest, rfl, hfirst⟩ := List.eq_append_cons_of_mem hmem
    rw [← List.append_assoc, parts_append, parts_append, hfree hfirst]
  · exact hfree hmem

theorem parts_blank_back {back : List Char} (hback : ∀ c ∈ back, Text.isBlank c = true)
    (style : List Char) : parts (style ++ back) = parts style := by
  have hfree {part : List Char} (hpart : ';' ∉ part) :
      parts (part ++ back) = parts part := by
    have htrim := Text.trim_padded (List.forall_mem_nil _) hback part
    rw [List.nil_append] at htrim
    rw [parts_of_free hpart, parts_of_free, htrim]
    simp [semicolon_not_mem hback, hpart]
  by_cases hmem : ';' ∈ style
  · obtain ⟨rest, last, rfl, hlast⟩ := exists_last_of_mem hmem
    rw [List.append_assoc, List.cons_append, parts_append, parts_append, hfree hlast]
  · exact hfree hmem

def IsPadding (run : List Char) : Prop := ∀ c ∈ run, c = ';' ∨ Text.isBlank c = true

instance (run : List Char) : Decidable (IsPadding run) :=
  decidable_of_iff (run.all (fun c => c == ';' || Text.isBlank c) = true) (by simp [IsPadding])

theorem parts_padding_front {front : List Char} (h : IsPadding front) (style : List Char) :
    parts (front ++ style) = parts style := by
  induction front with
  | nil => rfl
  | cons c front ih =>
    obtain ⟨hc, hfront⟩ := List.forall_mem_cons.mp h
    rw [List.cons_append, ← ih hfront]
    rcases hc with rfl | hblank
    · exact parts_append [] (front ++ style)
    · have hrun : ∀ d ∈ [c], Text.isBlank d = true := by simpa using hblank
      exact parts_blank_front hrun (front ++ style)

theorem parts_padding_back {back : List Char} (h : IsPadding back) (style : List Char) :
    parts (style ++ back) = parts style := by
  induction back generalizing style with
  | nil => rw [List.append_nil]
  | cons c back ih =>
    obtain ⟨hc, hback⟩ := List.forall_mem_cons.mp h
    rw [← List.singleton_append, ← List.append_assoc, ih hback]
    rcases hc with rfl | hblank
    · rw [parts_append]
      exact List.append_nil _
    · have hrun : ∀ d ∈ [c], Text.isBlank d = true := by simpa using hblank
      exact parts_blank_back hrun style

theorem parts_withoutLastSemicolon (style : List Char) :
    parts (withoutLastSemicolon style) = parts style := by
  have hpadding : IsPadding [';'] := by decide
  rcases withoutLastSemicolon_cases style with hkept | hlast
  · rw [hkept]
  · rw [← parts_padding_back hpadding, hlast]

theorem declarations_eq_parts (style : List Char) : declarations style = parts style := by
  obtain ⟨front, back, hstyle, hfront, hback⟩ := Text.blanks_around_trim style
  calc declarations style
    _ = parts (Text.trim style) := parts_withoutLastSemicolon (Text.trim style)
    _ = parts (front ++ (Text.trim style ++ back)) := by
      rw [parts_blank_front hfront, parts_blank_back hback]
    _ = parts style := by rw [← hstyle]

theorem remarks_append (first second : List Char) :
    remarks (first ++ ';' :: second) = remarks first ++ remarks second := by
  simp only [remarks, declarations_eq_parts, parts_append, List.flatMap_append]

theorem remarks_padded {front back : List Char} (hfront : IsPadding front) (hback : IsPadding back)
    (style : List Char) : remarks (front ++ (style ++ back)) = remarks style := by
  simp only [remarks, declarations_eq_parts, parts_padding_front hfront, parts_padding_back hback]

theorem double_not_mem_padding {run : List Char} (h : IsPadding run) : '\x22' ∉ run := by
  intro hmem
  rcases h _ hmem with hc | hc <;> exact absurd hc (by decide)

end Style

namespace Attribute

open QuotedAttribute (written)

theorem styleRemarks_written {style : List Char} (h : '\x22' ∉ style) :
    styleRemarks (written ⟨"style".toList, style⟩) = Style.remarks style := by
  have hcalled : QuotedAttribute.IsCalled ["style"] "style".toList := by decide
  have hall : QuotedAttribute.all ["style"] (written ⟨"style".toList, style⟩) =
      [⟨"style".toList, style⟩] :=
    QuotedAttribute.all_written (by decide) hcalled h
  rw [styleRemarks, hall]

/-- What is found in a style is what is found in its parts on either side of any semicolon, and
semicolons and blanks at its ends may come and go. -/
theorem style_findings_of_joined_declarations {first second : List Char} (hfirst : '\x22' ∉ first)
    (hsecond : '\x22' ∉ second) (line : Line) :
    let found := fun style : List Char =>
      (styleRemarks (written ⟨"style".toList, style⟩)).map line.place.finding
    found (first ++ ';' :: second) = found first ++ found second ∧
      ∀ front back, Style.IsPadding front → Style.IsPadding back →
        found (front ++ (first ++ back)) = found first := by
  intro found
  have hfound {style : List Char} (h : '\x22' ∉ style) :
      found style = (Style.remarks style).map line.place.finding :=
    congrArg (List.map line.place.finding) (styleRemarks_written h)
  constructor
  · rw [hfound hfirst, hfound hsecond, hfound (by simp [hfirst, hsecond]), Style.remarks_append,
      List.map_append]
  · intro front back hfront hback
    have hpadded : '\x22' ∉ front ++ (first ++ back) := by
      simp [hfirst, Style.double_not_mem_padding hfront, Style.double_not_mem_padding hback]
    rw [hfound hfirst, hfound hpadded, Style.remarks_padded hfront hback]

theorem declarations_are_found_between_padding :
    let found := fun style : List Char =>
      (styleRemarks (written ⟨"style".toList, style⟩)).map (Line.place ⟨7, ""⟩).finding
    found " ;COLOR: fff \u3000;; width: 1PX ; ".toList =
        found "COLOR: fff".toList ++ found "width: 1PX".toList ∧
      (found "COLOR: fff".toList).map (·.code) = [.uppercaseProperty, .missingHash] ∧
      (found "width: 1PX".toList).map (·.code) = [.uppercaseUnit] := by
  intro found
  have hcolor : '\x22' ∉ "COLOR: fff".toList := by decide
  have hwidth : '\x22' ∉ "width: 1PX".toList := by decide
  have hcolors : '\x22' ∉ " ;COLOR: fff \u3000;".toList := by decide
  have hwidths : '\x22' ∉ " width: 1PX ; ".toList := by decide
  have hjoined := (style_findings_of_joined_declarations hcolors hwidths ⟨7, ""⟩).1
  have hfirst := (style_findings_of_joined_declarations hcolor hwidth ⟨7, ""⟩).2 " ;".toList
    " \u3000;".toList (by decide) (by decide)
  have hsecond := (style_findings_of_joined_declarations hwidth hcolor ⟨7, ""⟩).2 " ".toList
    " ; ".toList (by decide) (by decide)
  exact ⟨hjoined.trans (congrArg₂ (· ++ ·) hfirst hsecond), by decide +kernel, by decide +kernel⟩

end Attribute

end MailMarkup
