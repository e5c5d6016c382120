import MailMarkup.Proofs.Shift

namespace MailMarkup

namespace Stack

theorem code_ne_of_mem_visit {stack : Stack} {tagged : List (Place × Tag)} {f : Finding}
    (h : f ∈ (trace visit stack tagged).1) : f.code ≠ .unclosedTag := by
  obtain ⟨before, t, -, hf⟩ := exists_step_of_mem_trace h
  rw [visit, List.mem_append] at hf
  rcases hf with hf | hf
  · obtain ⟨-, -, hlint, -⟩ := mem_attributeFindings hf
    intro hcode
    simp [hcode, Code.isStructural] at hlint
  · exact code_ne_of_mem_settle hf

theorem code_of_mem_leftOpen {stack : Stack} {f : Finding} (h : f ∈ stack.leftOpen) :
    f.code = .unclosedTag ∧ f.message = neverClosedMessage f.errorTag f.lineNumber := by
  obtain ⟨frame, -, rfl⟩ := List.mem_map.mp h
  exact ⟨rfl, rfl⟩

end Stack

theorem filter_checkLines (document : List Line) :
    (checkLines document).filter (·.code != .unclosedTag) =
      (trace Stack.visit [] (taggedPlaces document)).1 := by
  have hvisit : ∀ f ∈ (trace Stack.visit [] (taggedPlaces document)).1,
      (f.code != .unclosedTag) = true := by
    intro f hf
    simpa using Stack.code_ne_of_mem_visit hf
  have hopen : ∀ f ∈ (trace Stack.visit [] (taggedPlaces document)).2.leftOpen,
      ¬(f.code != .unclosedTag) = true := by
    intro f hf
    simpa using (Stack.code_of_mem_leftOpen hf).1
  rw [checkLines, List.filter_append, List.filter_eq_self.mpr hvisit,
    List.filter_eq_nil_iff.mpr hopen, List.append_nil]

theorem message_of_mem_checkLines {document : List Line} {f : Finding}
    (h : f ∈ checkLines document) (hcode : f.code = .unclosedTag) :
    f.message = neverClosedMessage f.errorTag f.lineNumber := by
  rcases List.mem_append.mp h with hf | hf
  · exact absurd hcode (Stack.code_ne_of_mem_visit hf)
  · exact (Stack.code_of_mem_leftOpen hf).2

theorem checkLines_append (first second : List Line) :
    let left := (trace Stack.visit [] (taggedPlaces first)).2
    checkLines (first ++ second) =
      (checkLines first).filter (·.code != .unclosedTag) ++
        ((trace Stack.visit left (taggedPlaces second)).1 ++
          (trace Stack.visit left (taggedPlaces second)).2.leftOpen) := by
  intro left
  rw [filter_checkLines, checkLines, taggedPlaces_append, trace_append, List.append_assoc]

theorem checkLines_append_of_closed {first : List Line}
    (h : ∀ f ∈ checkLines first, f.code ≠ .unclosedTag) (second : List Line) :
    checkLines (first ++ second) = checkLines first ++ checkLines second := by
  have hfilter : (checkLines first).filter (·.code != .unclosedTag) = checkLines first := by
    apply List.filter_eq_self.mpr
    simpa using h
  have hleft : (trace Stack.visit [] (taggedPlaces first)).2 = [] := by
    apply List.eq_nil_iff_forall_not_mem.mpr
    intro frame hf
    have hreport : frame.neverClosed ∈ checkLines first :=
      List.mem_append_right _ (List.mem_map_of_mem (List.mem_reverse.mpr hf))
    exact h _ hreport rfl
  rw [checkLines_append, hleft, hfilter]
  rfl

theorem check_of_joined_documents (first second : String)
    (hseam : first.toList.getLast? ≠ some '\r') :
    (check first).filter (·.code != .unclosedTag) <+: check (first ++ "\n" ++ second) ∧
      ((∀ f ∈ check first, f.code ≠ .unclosedTag) →
        check (first ++ "\n" ++ second) =
          check first ++ (check second).map (Finding.shift (lines first).length)) ∧
      ∀ f ∈ check second, f.code = .unclosedTag →
        f.message = neverClosedMessage f.errorTag f.lineNumber := by
  refine ⟨?_, ?_, fun f => message_of_mem_checkLines⟩
  · rw [check, check, lines_append hseam, checkLines_append]
    exact List.prefix_append _ _
  · intro hclosed
    rw [check, lines_append hseam, checkLines_append_of_closed hclosed, checkLines_shift]
    rfl

theorem open_cell_shifts_behind_stray_bold :
    let first := "<p>\r\n</p></b>"
    let second := "<td>"
    first.toList.getLast? ≠ some '\r' ∧ (∀ f ∈ check first, f.code ≠ .unclosedTag) ∧
      check (first ++ "\n" ++ second) =
        check first ++ [⟨3, "<td>", "<td>", "The tag <td> on line 3 was never closed.",
          .unclosedTag⟩] := by
  intro first second
  have hseam : first.toList.getLast? ≠ some '\r' := by decide
  have hclosed : ∀ f ∈ check first, f.code ≠ .unclosedTag := by decide +kernel
  have hshift : (check second).map (Finding.shift (lines first).length) =
      [⟨3, "<td>", "<td>", "The tag <td> on line 3 was never closed.", .unclosedTag⟩] := by
    decide +kernel
  refine ⟨hseam, hclosed, ?_⟩
  rw [(check_of_joined_documents first second hseam).2.1 hclosed, hshift]

end MailMarkup
