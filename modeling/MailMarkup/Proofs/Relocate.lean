import MailMarkup.Proofs.Remarks
import MailMarkup.Proofs.Settle

namespace MailMarkup

def neverClosedMessage (errorTag : String) (number : Int) : String :=
  s!"The tag {errorTag} on line {number} was never closed."

def Frame.relocate (g : Place → Place) (frame : Frame) : Frame :=
  { frame with place := g frame.place }

def Finding.place (f : Finding) : Place := ⟨f.lineNumber, f.lineContent⟩

/-- The finding when its line is shown elsewhere. A tag that is never closed has its line number in
the message, too. -/
def Finding.relocate (g : Place → Place) (f : Finding) : Finding :=
  { f with
    lineNumber := (g f.place).number
    lineContent := (g f.place).content
    message :=
      if f.code = .unclosedTag then neverClosedMessage f.errorTag (g f.place).number
      else f.message }

section Relocate

variable (g : Place → Place)

theorem Place.finding_relocate {remark : Remark} (h : remark.code ≠ .unclosedTag) (place : Place) :
    (g place).finding remark = (place.finding remark).relocate g := by
  simp [Place.finding, Finding.relocate, Finding.place, h]

theorem Frame.neverClosed_relocate (frame : Frame) :
    (frame.relocate g).neverClosed = frame.neverClosed.relocate g := by
  simp only [Frame.neverClosed, Frame.relocate, Frame.errorTag, Place.finding, Finding.relocate,
    ↓reduceIte]
  rfl

namespace Stack

theorem close_relocate (stack : Stack) (name : String) (place : Place) :
    Stack.close (stack.map (Frame.relocate g)) name (g place) =
      ((stack.close name place).1.map (Finding.relocate g),
        (stack.close name place).2.map (Frame.relocate g)) := by
  rcases stack.split_at_name name with hne | ⟨above, frame, below, rfl, hname, hne⟩
  · have hne' : ∀ frame ∈ stack.map (Frame.relocate g), frame.name ≠ name := by
      simpa [Frame.relocate] using hne
    cases stack with
    | nil =>
      simp only [List.map_nil, close_nil, List.map_singleton, Place.unexpectedClosing]
      rw [Place.finding_relocate g Code.noConfusion]
    | cons top rest =>
      rw [List.map_cons] at hne' ⊢
      rw [close_of_ne hne, close_of_ne hne', List.map_singleton, Place.mismatchedClosing,
        Place.finding_relocate g Code.noConfusion]
      rfl
  · have hne' : ∀ f ∈ above.map (Frame.relocate g), f.name ≠ name := by
      simpa [Frame.relocate] using hne
    have hname' : (frame.relocate g).name = name := hname
    have hreport (inner : Frame) :
        (inner.relocate g).unclosedBefore name = (inner.unclosedBefore name).relocate g :=
      Place.finding_relocate g Code.noConfusion inner.place
    rw [List.map_append, List.map_cons, close_append hne hname, close_append hne' hname',
      List.map_map, List.map_map]
    simp only [Function.comp_def, hreport]

theorem settle_relocate (stack : Stack) (tag : Tag) (place : Place) :
    Stack.settle (stack.map (Frame.relocate g)) tag (g place) =
      ((stack.settle tag place).1.map (Finding.relocate g),
        (stack.settle tag place).2.map (Frame.relocate g)) :=
  settle_of_close (List.map (Frame.relocate g)) rfl (close_relocate g stack tag.name place)

theorem leftOpen_relocate (stack : Stack) :
    leftOpen (stack.map (Frame.relocate g)) = stack.leftOpen.map (Finding.relocate g) := by
  simp only [leftOpen, ← List.map_reverse, List.map_map, Function.comp_def,
    Frame.neverClosed_relocate]

theorem attributeFindings_relocate (place : Place) (tag : Tag) :
    attributeFindings (g place) tag = (attributeFindings place tag).map (Finding.relocate g) := by
  unfold attributeFindings
  split
  · rfl
  · rw [List.map_map]
    apply List.map_congr_left
    intro remark hr
    have hlint := Attribute.isStructural_of_mem_remarks hr
    apply Place.finding_relocate
    intro hcode
    simp [hcode, Code.isStructural] at hlint

theorem visit_relocate (stack : Stack) (t : Place × Tag) :
    Stack.visit (stack.map (Frame.relocate g)) (g t.1, t.2) =
      ((stack.visit t).1.map (Finding.relocate g), (stack.visit t).2.map (Frame.relocate g)) := by
  simp only [visit, settle_relocate, attributeFindings_relocate, List.map_append]

end Stack

theorem checkLines_relocate {document document' : List Line}
    (h : taggedPlaces document' = (taggedPlaces document).map fun t => (g t.1, t.2)) :
    checkLines document' = (checkLines document).map (Finding.relocate g) := by
  have hrun : trace Stack.visit [] (taggedPlaces document') =
      ((trace Stack.visit [] (taggedPlaces document)).1.map (Finding.relocate g),
        (trace Stack.visit [] (taggedPlaces document)).2.map (Frame.relocate g)) := by
    rw [h]
    exact trace_map (fun stack t _ => Stack.visit_relocate g stack t) []
  simp only [checkLines, hrun, Stack.leftOpen_relocate, List.map_append]

end Relocate

theorem taggedPlaces_append (first second : List Line) :
    taggedPlaces (first ++ second) = taggedPlaces first ++ taggedPlaces second := by
  simp [taggedPlaces]

theorem taggedPlaces_singleton (line : Line) (h : isSkipped line.text = false) :
    taggedPlaces [line] = (Tag.scan line.text).map fun tag => (line.place, tag) := by
  simp [taggedPlaces, h]

theorem taggedPlaces_map {move : Line → Line} {change : Place × Tag → Place × Tag}
    {document : List Line}
    (h : ∀ line ∈ document, taggedPlaces [move line] = (taggedPlaces [line]).map change) :
    taggedPlaces (document.map move) = (taggedPlaces document).map change := by
  induction document with
  | nil => rfl
  | cons line document ih =>
    obtain ⟨hline, hrest⟩ := List.forall_mem_cons.mp h
    rw [List.map_cons, ← List.singleton_append, taggedPlaces_append, hline, ih hrest,
      ← List.map_append, ← taggedPlaces_append]
    rfl

theorem taggedPlaces_relocate (g : Place → Place) (move : Line → Line) {document : List Line}
    (h : ∀ line ∈ document, (move line).text = line.text ∧ (move line).place = g line.place) :
    taggedPlaces (document.map move) = (taggedPlaces document).map fun t => (g t.1, t.2) := by
  apply taggedPlaces_map
  intro line hmem
  obtain ⟨htext, hplace⟩ := h line hmem
  cases hskip : isSkipped line.text <;> simp [taggedPlaces, htext, hplace, hskip]

end MailMarkup
