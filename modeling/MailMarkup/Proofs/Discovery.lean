import MailMarkup.Proofs.Attribution
import MailMarkup.Proofs.Joined

namespace MailMarkup

/-- Findings with these codes stand on the line that is read when they are made. The others are
about a tag further up that was left open. -/
def Code.isPrompt (code : Code) : Bool := code != .unclosedBeforeClose && code != .unclosedTag

theorem lines_ascending (document : String) :
    (lines document).Pairwise fun line line' => line.number < line'.number := by
  rw [lines, List.pairwise_map]
  generalize Text.pieces (· == '\n') (unifyLineEnds document.toList) = texts
  have hindex : ((texts.zipIdx 1).map Prod.snd).Pairwise (· < ·) := by
    rw [List.zipIdx_map_snd]
    exact List.pairwise_lt_range'
  apply (List.pairwise_map.mp hindex).imp
  intro p q hpq
  exact Int.ofNat_lt.mpr hpq

theorem taggedPlaces_ascending (document : String) :
    (taggedPlaces (lines document)).Pairwise fun t t' => t.1.number ≤ t'.1.number := by
  apply List.pairwise_flatMap.mpr
  constructor
  · intro line _
    apply List.pairwise_map.mpr
    exact List.pairwise_of_forall fun _ _ => Int.le_refl _
  · apply ((lines_ascending document).filter _).imp
    intro line line' hlt t ht t' ht'
    obtain ⟨tag, -, rfl⟩ := List.mem_map.mp ht
    obtain ⟨tag', -, rfl⟩ := List.mem_map.mp ht'
    exact Int.le_of_lt hlt

namespace Stack

/-- Of two open tags the inner one stands no further up, and none stands below the line that is
read. -/
structure Ordered (stack : Stack) (current : Int) : Prop where
  nested : stack.Pairwise fun inner outer => outer.place.number ≤ inner.place.number
  reached : ∀ frame ∈ stack, frame.place.number ≤ current

section Ordered

variable {place : Place} {tag : Tag} {stack left : Stack} {found : List Finding} {current : Int}

theorem ordered_nil (current : Int) : Ordered [] current := ⟨List.Pairwise.nil, by simp⟩

theorem Ordered.later (h : Ordered stack current) {next : Int} (hle : current ≤ next) :
    Ordered stack next := by
  refine ⟨h.nested, ?_⟩
  intro frame hf
  have := h.reached frame hf
  omega

theorem Settled.ordered (h : Settled place tag stack found left)
    (hs : Ordered stack place.number) : Ordered left place.number := by
  cases h with
  | neutral _ _ => exact hs
  | opened _ _ =>
    constructor
    · exact List.pairwise_cons.mpr ⟨hs.reached, hs.nested⟩
    · exact List.forall_mem_cons.mpr ⟨Int.le_refl _, hs.reached⟩
  | unexpected _ => exact hs
  | mismatched _ _ _ _ => exact hs
  | matched _ above frame _ _ _ =>
    have hsub : List.Sublist left (above ++ frame :: left) :=
      (List.sublist_cons_self frame left).trans (List.sublist_append_right above _)
    exact ⟨hs.nested.sublist hsub, fun outer ho => hs.reached outer (hsub.subset ho)⟩

theorem Settled.number_le (h : Settled place tag stack found left)
    (hs : Ordered stack place.number) {f : Finding} (hf : f ∈ found) :
    f.lineNumber ≤ place.number := by
  rcases h.mem_found hf with rfl | ⟨expected, rfl⟩ | ⟨frame, hframe, rfl⟩
  · exact Int.le_refl _
  · exact Int.le_refl _
  · exact hs.reached frame hframe

theorem Settled.recovered (h : Settled place tag stack found left)
    (hs : Ordered stack place.number) {f : Finding} (hf : f ∈ found)
    (hcode : f.code = .unclosedBeforeClose) :
    tag.closes = true ∧ (∀ g ∈ found, g.code = .unclosedBeforeClose) ∧
      found.Pairwise fun g g' => g'.lineNumber ≤ g.lineNumber := by
  cases h with
  | neutral _ _ => simp at hf
  | opened _ _ => simp at hf
  | unexpected _ =>
    obtain rfl := List.mem_singleton.mp hf
    exact Code.noConfusion hcode
  | mismatched _ _ _ _ =>
    obtain rfl := List.mem_singleton.mp hf
    exact Code.noConfusion hcode
  | matched hc above frame _ _ _ =>
    refine ⟨hc, ?_, ?_⟩
    · intro g hg
      obtain ⟨inner, -, rfl⟩ := List.mem_map.mp hg
      rfl
    · apply List.pairwise_map.mpr
      exact (List.pairwise_append.mp hs.nested).1

end Ordered

theorem visit_number_le {stack : Stack} {t : Place × Tag} (hs : Ordered stack t.1.number)
    {f : Finding} (hf : f ∈ (stack.visit t).1) : f.lineNumber ≤ t.1.number := by
  rcases List.mem_append.mp hf with hf | hf
  · obtain ⟨-, -, -, remark, -, rfl⟩ := mem_attributeFindings hf
    exact Int.le_refl _
  · exact (stack.settled t.2 t.1).number_le hs hf

theorem visit_number_of_prompt {stack : Stack} {t : Place × Tag} {f : Finding}
    (hf : f ∈ (stack.visit t).1) (hprompt : f.code.isPrompt = true) :
    f.lineNumber = t.1.number := by
  rcases List.mem_append.mp hf with hf | hf
  · obtain ⟨-, -, -, remark, -, rfl⟩ := mem_attributeFindings hf
    rfl
  · rcases (stack.settled t.2 t.1).mem_found hf with rfl | ⟨expected, rfl⟩ | ⟨frame, -, rfl⟩
    · rfl
    · rfl
    · exact Bool.noConfusion hprompt

theorem visit_recovered {stack : Stack} {t : Place × Tag} (hs : Ordered stack t.1.number)
    {f : Finding} (hf : f ∈ (stack.visit t).1) (hcode : f.code = .unclosedBeforeClose) :
    t.2.closing = true ∧ (∀ g ∈ (stack.visit t).1, g.code = .unclosedBeforeClose) ∧
      (stack.visit t).1.Pairwise fun g g' => g'.lineNumber ≤ g.lineNumber := by
  rcases List.mem_append.mp hf with hf | hf
  · obtain ⟨-, -, hlint, -⟩ := mem_attributeFindings hf
    rw [hcode] at hlint
    exact absurd hlint (by decide)
  · obtain ⟨hcloses, hall, hdescending⟩ := (stack.settled t.2 t.1).recovered hs hf hcode
    have hclosing := (Tag.closes_iff.mp hcloses).2
    have hvisit : (stack.visit t).1 = (stack.settle t.2 t.1).1 := by
      rw [visit, attributeFindings, if_pos hclosing, List.nil_append]
    rw [hvisit]
    exact ⟨hclosing, hall, hdescending⟩

section Run

variable {stack : Stack} {tagged : List (Place × Tag)} {current : Int}

theorem Ordered.run (h : Ordered stack current)
    (hascending : tagged.Pairwise fun t t' => t.1.number ≤ t'.1.number)
    (hfrom : ∀ t ∈ tagged, current ≤ t.1.number) {next : Int} (hle : current ≤ next)
    (hto : ∀ t ∈ tagged, t.1.number ≤ next) : Ordered (trace visit stack tagged).2 next := by
  induction tagged generalizing stack current with
  | nil => exact h.later hle
  | cons t tagged ih =>
    obtain ⟨hbehind, hrest⟩ := List.pairwise_cons.mp hascending
    have hstep := (stack.settled t.2 t.1).ordered (h.later (hfrom t List.mem_cons_self))
    rw [trace_cons]
    apply ih hstep hrest hbehind (hto t List.mem_cons_self)
    intro t' ht'
    exact hto t' (List.mem_cons_of_mem t ht')

theorem Ordered.findings (h : Ordered stack current)
    (hascending : tagged.Pairwise fun t t' => t.1.number ≤ t'.1.number)
    (hfrom : ∀ t ∈ tagged, current ≤ t.1.number) :
    (trace visit stack tagged).1.Pairwise fun f g =>
      g.code.isPrompt = true → f.lineNumber ≤ g.lineNumber := by
  induction tagged generalizing stack current with
  | nil => exact List.Pairwise.nil
  | cons t tagged ih =>
    obtain ⟨hbehind, hrest⟩ := List.pairwise_cons.mp hascending
    have hstack := h.later (hfrom t List.mem_cons_self)
    have hstep := (stack.settled t.2 t.1).ordered hstack
    rw [trace_cons]
    apply List.pairwise_append.mpr
    -- all that `t` gives stands at or above its line, all that is prompt later at or below it
    refine ⟨?_, ih hstep hrest hbehind, ?_⟩
    · apply List.pairwise_of_forall_mem_list
      intro f hf g hg hprompt
      rw [visit_number_of_prompt hg hprompt]
      exact visit_number_le hstack hf
    · intro f hf g hg hprompt
      obtain ⟨before, t', ht', hg⟩ := exists_step_of_mem_trace hg
      have hle := visit_number_le hstack hf
      have hlater := hbehind t' ht'
      rw [visit_number_of_prompt hg hprompt]
      omega

end Run

theorem leftOpen_ascending {stack : Stack} {current : Int} (h : Ordered stack current) :
    stack.leftOpen.Pairwise fun f g => f.lineNumber ≤ g.lineNumber := by
  rw [leftOpen, List.pairwise_map, List.pairwise_reverse]
  exact h.nested

end Stack

theorem ordered_at {document : String} {before after : List (Place × Tag)} {t : Place × Tag}
    (h : taggedPlaces (lines document) = before ++ t :: after) :
    (trace Stack.visit [] before).2.Ordered t.1.number := by
  have hascending := taggedPlaces_ascending document
  rw [h] at hascending
  obtain ⟨hbefore, -, hacross⟩ := List.pairwise_append.mp hascending
  have hone (t' : Place × Tag) (ht' : t' ∈ before ++ t :: after) : 1 ≤ t'.1.number :=
    one_le_number_of_mem_taggedPlaces (h ▸ ht')
  apply (Stack.ordered_nil 1).run hbefore
  · intro t' ht'
    exact hone t' (List.mem_append_left _ ht')
  · exact hone t (List.mem_append_right _ List.mem_cons_self)
  · intro t' ht'
    exact hacross t' ht' t List.mem_cons_self

theorem ordered_at_end (document : String) :
    (trace Stack.visit [] (taggedPlaces (lines document))).2.Ordered (lines document).length := by
  apply (Stack.ordered_nil 0).run (taggedPlaces_ascending document)
  · intro t ht
    have := one_le_number_of_mem_taggedPlaces ht
    omega
  · omega
  · intro t ht
    obtain ⟨line, hline, -, -, hplace⟩ := mem_taggedPlaces.mp ht
    rw [hplace]
    exact (getElem?_lines_of_mem hline).2.1

theorem check_before_prompt (document : String) :
    (check document).Pairwise fun f g =>
      g.code.isPrompt = true → f.lineNumber ≤ g.lineNumber := by
  apply List.pairwise_append.mpr
  have hopen {g : Finding} (hg : g ∈ (trace Stack.visit [] (taggedPlaces (lines document))).2.leftOpen) :
      ¬g.code.isPrompt = true := by
    rw [(Stack.code_of_mem_leftOpen hg).1]
    decide
  refine ⟨?_, ?_, ?_⟩
  · apply (Stack.ordered_nil 1).findings (taggedPlaces_ascending document)
    intro t ht
    exact one_le_number_of_mem_taggedPlaces ht
  · apply (Stack.leftOpen_ascending (ordered_at_end document)).imp
    intro f g hle _
    exact hle
  · intro f _ g hg hprompt
    exact absurd hprompt (hopen hg)

theorem prefix_of_check {document : String} {before after : List (Place × Tag)} {t : Place × Tag}
    (h : taggedPlaces (lines document) = before ++ t :: after) :
    (trace Stack.visit [] before).1 ++ ((trace Stack.visit [] before).2.visit t).1 <+:
      check document := by
  rw [check, checkLines, h, trace_append, trace_cons]
  simp only [← List.append_assoc]
  rw [List.append_assoc]
  exact List.prefix_append _ _

theorem check_is_in_discovery_order (document : String) :
    (∃ early late, check document = early ++ late ∧ (∀ f ∈ early, f.code ≠ .unclosedTag) ∧
        (∀ f ∈ late, f.code = .unclosedTag) ∧
        late.Pairwise fun f g => f.lineNumber ≤ g.lineNumber) ∧
      (((check document).filter (·.code.isPrompt)).Pairwise fun f g =>
        f.lineNumber ≤ g.lineNumber) ∧
      ((check document).Pairwise fun f g => f.code = .unclosedBeforeClose →
        g.code.isPrompt = true → f.lineNumber ≤ g.lineNumber) ∧
      ∀ before t after, taggedPlaces (lines document) = before ++ t :: after →
        let sofar := trace Stack.visit [] before
        let made := (sofar.2.visit t).1
        sofar.2.Ordered t.1.number ∧ (sofar.2.visit t).2.Ordered t.1.number ∧
          sofar.1 ++ made <+: check document ∧
          ((∃ f ∈ made, f.code = .unclosedBeforeClose) →
            t.2.closing = true ∧ (∀ f ∈ made, f.code = .unclosedBeforeClose) ∧
              made.Pairwise fun f g => g.lineNumber ≤ f.lineNumber) := by
  have hprompt := check_before_prompt document
  refine ⟨?_, ?_, ?_, ?_⟩
  · refine ⟨_, _, rfl, ?_, ?_, Stack.leftOpen_ascending (ordered_at_end document)⟩
    · exact fun f hf => Stack.code_ne_of_mem_visit hf
    · exact fun f hf => (Stack.code_of_mem_leftOpen hf).1
  · apply (hprompt.filter _).imp_of_mem
    intro f g _ hg hle
    exact hle (List.mem_filter.mp hg).2
  · apply hprompt.imp
    intro f g hle _
    exact hle
  · intro before t after h sofar made
    have hordered := ordered_at h
    refine ⟨hordered, (sofar.2.settled t.2 t.1).ordered hordered, prefix_of_check h, ?_⟩
    rintro ⟨f, hf, hcode⟩
    exact Stack.visit_recovered hordered hf hcode

theorem open_row_and_cell_in_discovery_order :
    let document := "<table>\n<tr>\n<td bgcolor='fff'>\n</table></p>\n<b>"
    let before : List (Place × Tag) := [(⟨1, "<table>"⟩, ⟨"table", false, ""⟩),
      (⟨2, "<tr>"⟩, ⟨"tr", false, ""⟩),
      (⟨3, "<td bgcolor='fff'>"⟩, ⟨"td", false, " bgcolor='fff'"⟩)]
    let closer : Place × Tag := (⟨4, "</table></p>"⟩, ⟨"table", true, ""⟩)
    let after : List (Place × Tag) := [(⟨4, "</table></p>"⟩, ⟨"p", true, ""⟩),
      (⟨5, "<b>"⟩, ⟨"b", false, ""⟩)]
    let made := ((trace Stack.visit [] before).2.visit closer).1
    taggedPlaces (lines document) = before ++ closer :: after ∧
      (check document).map (fun f => (f.lineNumber, f.code)) =
        [(3, .missingHash), (3, .unclosedBeforeClose), (2, .unclosedBeforeClose),
          (4, .unexpectedClosingTag), (5, .unclosedTag)] ∧
      (∃ f ∈ made, f.code = .unclosedBeforeClose) ∧
      made.Pairwise fun f g => g.lineNumber ≤ f.lineNumber := by
  intro document before closer after made
  have htagged : taggedPlaces (lines document) = before ++ closer :: after := by decide +kernel
  have hrecovered : ∃ f ∈ made, f.code = .unclosedBeforeClose := by decide +kernel
  obtain ⟨-, -, -, hmade⟩ := check_is_in_discovery_order document
  refine ⟨htagged, by decide +kernel, hrecovered, ?_⟩
  exact ((hmade before closer after htagged).2.2.2 hrecovered).2.2

end MailMarkup
