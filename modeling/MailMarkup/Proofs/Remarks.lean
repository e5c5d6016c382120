import MailMarkup.Check

namespace MailMarkup

namespace Style

theorem code_of_mem_unitRemarks {word : List Char} {r : Remark} (h : r ∈ unitRemarks word) :
    r.code = .uppercaseUnit := by
  unfold unitRemarks at h
  split at h
  · simp at h
  · simp only [List.mem_ite_nil_right, List.mem_singleton] at h
    rw [h.2]

theorem code_of_mem_semicolonRemarks {declaration : List Char} {r : Remark}
    (h : r ∈ semicolonRemarks declaration) : r.code = .styleMissingSemicolon := by
  rw [semicolonRemarks, List.mem_ite_nil_right, List.mem_singleton] at h
  rw [h.2]

theorem code_of_mem_propertyRemarks {property : List Char} {r : Remark}
    (h : r ∈ propertyRemarks property) : r.code = .uppercaseProperty := by
  simp only [propertyRemarks, List.mem_ite_nil_left, List.mem_singleton] at h
  rw [h.2]

theorem code_of_mem_colorRemarks {property value : List Char} {r : Remark}
    (h : r ∈ colorRemarks property value) : r.code = .missingHash := by
  simp only [colorRemarks, List.mem_ite_nil_right, List.mem_singleton] at h
  rw [h.2]

theorem code_of_mem_remarks {style : List Char} {r : Remark} (h : r ∈ remarks style) :
    r.code = .styleMissingSemicolon ∨ r.code = .uppercaseProperty ∨ r.code = .uppercaseUnit ∨
      r.code = .missingHash := by
  obtain ⟨declaration, -, hr⟩ := List.mem_flatMap.mp h
  unfold declarationRemarks at hr
  split at hr
  · simp at hr
  · simp only [List.mem_append, List.mem_flatMap] at hr
    rcases hr with ((hr | hr) | ⟨word, -, hr⟩) | hr
    · exact Or.inl (code_of_mem_semicolonRemarks hr)
    · exact Or.inr (Or.inl (code_of_mem_propertyRemarks hr))
    · exact Or.inr (Or.inr (Or.inl (code_of_mem_unitRemarks hr)))
    · exact Or.inr (Or.inr (Or.inr (code_of_mem_colorRemarks hr)))

end Style

namespace QuotedAttribute

@[simp] theorem all_nil (names : List String) : all names [] = [] := by
  rw [all, allFrom, List.reverse_nil]

def EvenQuotes (cs : List Char) : Prop := ∀ q, isQuote q = true → cs.count q % 2 = 0

namespace EvenQuotes

theorem append {cs ds : List Char} (hcs : EvenQuotes cs) (hds : EvenQuotes ds) :
    EvenQuotes (cs ++ ds) := by
  intro q hq
  have hleft := hcs q hq
  have hright := hds q hq
  rw [List.count_append]
  omega

theorem enclose {cs : List Char} (h : EvenQuotes cs) (quote : Char) :
    EvenQuotes (quote :: (cs ++ [quote])) := by
  intro q hq
  have hinside := h q hq
  simp only [List.count_cons, List.count_append, List.count_nil]
  split <;> omega

theorem flatMap {α : Type} {text : α → List Char} (h : ∀ a, EvenQuotes (text a)) (as : List α) :
    EvenQuotes (as.flatMap text) := by
  induction as with
  | nil => exact fun _ _ => rfl
  | cons a as ih =>
    rw [List.flatMap_cons]
    exact (h a).append ih

end EvenQuotes

end QuotedAttribute

namespace Attribute

theorem code_of_mem_parityRemarks {attributes : List Char} {r : Remark}
    (h : r ∈ parityRemarks attributes) : r.code = .missingClosingQuote := by
  have hquote (quote : Char) (label : String) (hr : r ∈ quoteRemarks quote label attributes) :
      r.code = .missingClosingQuote := by
    rw [quoteRemarks, List.mem_ite_nil_right, List.mem_singleton] at hr
    rw [hr.2]
  rcases List.mem_append.mp h with hr | hr
  · exact hquote _ _ hr
  · exact hquote _ _ hr

theorem parityRemarks_of_even {attributes : List Char}
    (h : QuotedAttribute.EvenQuotes attributes) : parityRemarks attributes = [] := by
  have hdouble := h '\x22' rfl
  have hsingle := h '\x27' rfl
  rw [parityRemarks, quoteRemarks, quoteRemarks, if_neg (by omega), if_neg (by omega),
    List.append_nil]

theorem code_of_mem_colorRemarks {a : QuotedAttribute} {r : Remark} (h : r ∈ colorRemarks a) :
    r.code = .missingHash := by
  simp only [colorRemarks, List.mem_ite_nil_right, List.mem_singleton] at h
  rw [h.2]

theorem code_of_mem_legacyColorRemarks {attributes : List Char} {r : Remark}
    (h : r ∈ legacyColorRemarks attributes) : r.code = .missingHash := by
  obtain ⟨a, -, hr⟩ := List.mem_flatMap.mp h
  exact code_of_mem_colorRemarks hr

theorem code_of_mem_linkRemarks {attributes : List Char} {r : Remark}
    (h : r ∈ linkRemarks attributes) : r.code = .missingProtocol := by
  unfold linkRemarks at h
  split at h
  · simp at h
  · simp only [List.mem_ite_nil_left, List.mem_singleton] at h
    rw [h.2]

theorem code_of_mem_remarks {attributes tagName : String} {r : Remark}
    (h : r ∈ remarks attributes tagName) :
    r ∈ parityRemarks attributes.toList ∨ r.code ∈ [Code.styleMissingSemicolon, .uppercaseProperty,
      .uppercaseUnit, .missingHash, .missingProtocol] := by
  simp only [remarks, List.mem_append] at h
  rcases h with ((h | h) | h) | h
  · exact Or.inl h
  · unfold styleRemarks at h
    split at h
    · simp at h
    · rcases Style.code_of_mem_remarks h with hc | hc | hc | hc <;> simp [hc]
  · simp [code_of_mem_legacyColorRemarks h]
  · split at h
    · simp [code_of_mem_linkRemarks h]
    · simp at h

theorem isStructural_of_mem_remarks {attributes tagName : String} {r : Remark}
    (h : r ∈ remarks attributes tagName) : r.code.isStructural = false := by
  rcases code_of_mem_remarks h with h | h
  · rw [code_of_mem_parityRemarks h]
    rfl
  · revert h
    cases r.code <;> decide

theorem remarks_empty (tagName : String) : remarks "" tagName = [] := by
  simp [remarks, parityRemarks, quoteRemarks, styleRemarks, legacyColorRemarks, linkRemarks]

end Attribute

theorem mem_attributeFindings {place : Place} {tag : Tag} {f : Finding}
    (h : f ∈ attributeFindings place tag) :
    tag.closing = false ∧ tag.attributes ≠ "" ∧ f.code.isStructural = false ∧
      ∃ r ∈ Attribute.remarks tag.attributes tag.name, f = place.finding r := by
  unfold attributeFindings at h
  split at h
  · simp at h
  · rename_i hopen
    obtain ⟨r, hr, rfl⟩ := List.mem_map.mp h
    refine ⟨by simpa using hopen, ?_, Attribute.isStructural_of_mem_remarks hr, r, hr, rfl⟩
    intro hempty
    simp [hempty, Attribute.remarks_empty] at hr

end MailMarkup
