import MailMarkup.Proofs.Passes

namespace MailMarkup

def Stack.visitGuarded (stack : Stack) (t : Place × Tag) :
    Except (List Fault) (List Finding) × Stack :=
  andThen (admitAll (attributeFindings t.1 t.2), stack) fun stack => stack.feed t.2 t.1

def checkGuarded (document : String) : Except (List Fault) (List Finding) × Stack :=
  andThen (attempt Stack.visitGuarded [] (taggedPlaces (lines document))) Stack.finish

theorem Stack.visitGuarded_admits (stack : Stack) (t : Place × Tag) :
    Admits (stack.visitGuarded t) (stack.visit t) := by
  have hlint : Admits (admitAll (attributeFindings t.1 t.2), stack)
      (attributeFindings t.1 t.2, stack) := ⟨rfl, fun _ => rfl⟩
  exact hlint.andThen (stack.feed_admits t.2 t.1)

theorem checkGuarded_admits (document : String) :
    Admits (checkGuarded document) (check document, []) := by
  unfold checkGuarded check checkLines
  generalize taggedPlaces (lines document) = tagged
  exact (Admits.attempt Stack.visitGuarded_admits [] tagged).andThen (Stack.finish_admits _)

theorem getElem?_lines_of_mem {document : String} {line : Line} (h : line ∈ lines document) :
    1 ≤ line.number ∧ line.number ≤ (lines document).length ∧
      (lines document)[line.number.toNat - 1]? = some line := by
  obtain ⟨k, hk⟩ := List.mem_iff_getElem?.mp h
  have hlt := (List.getElem?_eq_some_iff.mp hk).1
  have hnumber : line.number = k + 1 := by
    simp only [lines, List.getElem?_map, Option.map_eq_some_iff] at hk
    obtain ⟨⟨text, i⟩, hi, rfl⟩ := hk
    rw [List.getElem?_zipIdx, Option.map_eq_some_iff] at hi
    obtain ⟨_, -, heq⟩ := hi
    obtain ⟨-, rfl⟩ := Prod.mk.inj heq
    simp only
    omega
  have hindex : line.number.toNat - 1 = k := by omega
  refine ⟨by omega, by omega, ?_⟩
  rw [hindex, hk]

theorem mem_taggedPlaces {document : List Line} {t : Place × Tag} :
    t ∈ taggedPlaces document ↔ ∃ line ∈ document, isSkipped line.text = false ∧
      t.2 ∈ Tag.scan line.text ∧ t.1 = line.place := by
  obtain ⟨place, tag⟩ := t
  simp only [taggedPlaces, List.mem_flatMap, List.mem_filter, List.mem_map, Prod.mk.injEq,
    Bool.not_eq_true']
  constructor
  · rintro ⟨line, ⟨hline, hskip⟩, tag, htag, rfl, rfl⟩
    exact ⟨line, hline, hskip, htag, rfl⟩
  · rintro ⟨line, hline, hskip, htag, rfl⟩
    exact ⟨line, ⟨hline, hskip⟩, tag, htag, rfl, rfl⟩

/-- The finding is about this tag of this line: structural ones name the tag, the others are among
what there is to say about its attributes. -/
def Finding.IsAbout (f : Finding) (line : Line) (tag : Tag) : Prop :=
  match f.code with
  | .unclosedTag | .unclosedBeforeClose => tag.closing = false ∧ f.errorTag = openText tag.name
  | .unexpectedClosingTag | .mismatchedClosingTag =>
    tag.closing = true ∧ f.errorTag = closeText tag.name
  | _ => tag.closing = false ∧ tag.attributes ≠ "" ∧
    f ∈ (Attribute.remarks tag.attributes tag.name).map line.place.finding

theorem Finding.Blames.isAbout {f : Finding} {t : Place × Tag} (h : f.Blames t) (line : Line) :
    f.IsAbout line t.2 := by
  rcases h.engages with ho | hc
  · obtain ⟨hcode | hcode, htag⟩ := h.of_opens ho
    all_goals
      simp only [IsAbout, hcode]
      exact ⟨(Tag.opens_iff.mp ho).2.1, htag⟩
  · obtain ⟨hcode | hcode, htag⟩ := h.of_closes hc
    all_goals
      simp only [IsAbout, hcode]
      exact ⟨(Tag.closes_iff.mp hc).2, htag⟩

theorem isAbout_of_mem_attributeFindings {f : Finding} {line : Line} {tag : Tag}
    (h : f ∈ attributeFindings line.place tag) : f.IsAbout line tag := by
  obtain ⟨hopen, hattributes, hlint, r, hr, rfl⟩ := mem_attributeFindings h
  have hmem := List.mem_map_of_mem (f := line.place.finding) hr
  unfold Finding.IsAbout
  split
  · simp_all [Code.isStructural]
  · simp_all [Code.isStructural]
  · simp_all [Code.isStructural]
  · simp_all [Code.isStructural]
  · exact ⟨hopen, hattributes, hmem⟩

theorem isAbout_of_mem_check {document : String} {f : Finding} (h : f ∈ check document) :
    ∃ line ∈ lines document, isSkipped line.text = false ∧ f.lineNumber = line.number ∧
      f.lineContent = line.display ∧ ∃ tag ∈ Tag.scan line.text, f.IsAbout line tag := by
  cases hcode : f.code.isStructural with
  | true =>
    have hmem : f ∈ Stack.balance (taggedPlaces (lines document)) := by
      rw [← structuralFindings_eq_balance]
      exact List.mem_filter.mpr ⟨h, hcode⟩
    obtain ⟨t, ht, hblames⟩ := Ledger.blames_of_mem_balance hmem
    obtain ⟨line, hline, hskip, htag, hplace⟩ := mem_taggedPlaces.mp ht
    obtain ⟨hnumber, hcontent⟩ := hblames.place_eq
    rw [hplace] at hnumber hcontent
    exact ⟨line, hline, hskip, hnumber, hcontent, t.2, htag, hblames.isAbout line⟩
  | false =>
    have hmem : f ∈ lintPass document := by
      rw [← lintFindings_eq_lintPass]
      exact List.mem_filter.mpr ⟨h, by rw [hcode]; rfl⟩
    obtain ⟨line, hline, hf⟩ := List.mem_flatMap.mp hmem
    obtain ⟨tag, htag, hf⟩ := List.mem_flatMap.mp hf
    obtain ⟨hline, hskip⟩ := List.mem_filter.mp hline
    obtain ⟨htag, hopen⟩ := List.mem_filter.mp htag
    have hattribute : f ∈ attributeFindings line.place tag := by
      rw [attributeFindings, if_neg (by simpa using hopen)]
      exact hf
    obtain ⟨r, -, rfl⟩ := List.mem_map.mp hf
    exact ⟨line, hline, by simpa using hskip, rfl, rfl, tag, htag,
      isAbout_of_mem_attributeFindings hattribute⟩

theorem check_attributes_every_finding (document : String) :
    checkGuarded document = (.ok (check document), []) ∧
      ∀ f ∈ check document, 1 ≤ f.lineNumber ∧ f.lineNumber ≤ (lines document).length ∧
        ∃ line, (lines document)[f.lineNumber.toNat - 1]? = some line ∧
          line.number = f.lineNumber ∧ f.lineContent = line.display ∧
          isSkipped line.text = false ∧ ∃ tag ∈ Tag.scan line.text, f.IsAbout line tag := by
  constructor
  · apply (checkGuarded_admits document).eq_ok
    intro f hf
    obtain ⟨line, hline, -, hnumber, -⟩ := isAbout_of_mem_check hf
    have hone := one_le_number_of_mem_lines hline
    simpa [Finding.isPlaced, hnumber] using hone
  · intro f hf
    obtain ⟨line, hline, hskip, hnumber, hcontent, htag⟩ := isAbout_of_mem_check hf
    obtain ⟨hone, hlength, hget⟩ := getElem?_lines_of_mem hline
    rw [hnumber]
    exact ⟨hone, hlength, line, hget, rfl, hcontent, hskip, htag⟩

end MailMarkup
