import MailMarkup.Proofs.Feed

namespace MailMarkup.Stack

structure SplitsAt (stack : Stack) (name : String) (above : Stack) (frame : Frame)
    (below : Stack) : Prop where
  stack_eq : stack = above ++ frame :: below
  name_eq : frame.name = name
  name_ne : ∀ inner ∈ above, inner.name ≠ name

theorem SplitsAt.unique {stack above above' below below' : Stack} {name : String}
    {frame frame' : Frame} (h : stack.SplitsAt name above frame below)
    (h' : stack.SplitsAt name above' frame' below') :
    above' = above ∧ frame' = frame ∧ below' = below := by
  have hinner : ∀ inner ∈ above, (inner.name != name) = true := by simpa using h.name_ne
  have hinner' : ∀ inner ∈ above', (inner.name != name) = true := by simpa using h'.name_ne
  obtain ⟨htake, hdrop⟩ := span_append_cons below hinner (by simpa using h.name_eq)
  obtain ⟨htake', hdrop'⟩ := span_append_cons below' hinner' (by simpa using h'.name_eq)
  rw [← h.stack_eq] at htake hdrop
  rw [← h'.stack_eq] at htake' hdrop'
  have hcons : frame' :: below' = frame :: below := by rw [← hdrop', hdrop]
  obtain ⟨hframe, hbelow⟩ := List.cons.inj hcons
  exact ⟨by rw [← htake', htake], hframe, hbelow⟩

theorem exists_splitsAt {stack : Stack} {name : String} (h : name ∈ stack.map Frame.name) :
    ∃ above frame below, stack.SplitsAt name above frame below := by
  rcases stack.split_at_name name with hne | ⟨above, frame, below, hstack, hname, hinner⟩
  · obtain ⟨frame, hframe, rfl⟩ := List.mem_map.mp h
    exact absurd rfl (hne frame hframe)
  · exact ⟨above, frame, below, hstack, hname, hinner⟩

theorem feed_of_closes {tag : Tag} (htag : tag.closes = true) {stack left : Stack} {place : Place}
    {found : List Finding} (hclose : stack.close tag.name place = (found, left))
    (hfound : ∀ f ∈ found, f.isPlaced = true) : stack.feed tag place = (.ok found, left) := by
  have hsettle := (settle_of_closes htag stack place).trans hclose
  have hfeed := (stack.feed_admits tag place).eq_ok (by rwa [hsettle])
  rwa [hsettle] at hfeed

/-- A closing tag takes the innermost open tag of its name and all that is open inside it. Without
one it is itself what is wrong, and the open tags stay as they are. -/
theorem closing_tag_closes_innermost (stack : Stack) (tag : Tag) (place : Place)
    (hstack : ∀ frame ∈ stack, 1 ≤ frame.place.number) (hplace : 1 ≤ place.number)
    (hvoid : tag.name ∉ voidElements) (hclosing : tag.closing = true) :
    (tag.name ∈ stack.map Frame.name → ∃ above frame below,
      stack.SplitsAt tag.name above frame below ∧
      (∀ above' frame' below', stack.SplitsAt tag.name above' frame' below' →
        above' = above ∧ frame' = frame ∧ below' = below) ∧
      stack.feed tag place = (.ok (above.map fun inner =>
        { lineNumber := inner.place.number
          lineContent := inner.place.content
          errorTag := openText inner.name
          message :=
            s!"The tag {openText inner.name} was not closed before {closeText tag.name} was found."
          code := .unclosedBeforeClose }), below)) ∧
    (tag.name ∉ stack.map Frame.name →
      (stack = [] → stack.feed tag place = (.ok [
        { lineNumber := place.number
          lineContent := place.content
          errorTag := closeText tag.name
          message :=
            s!"Unexpected closing tag {closeText tag.name} with no corresponding opening tag."
          code := .unexpectedClosingTag }], stack)) ∧
      ∀ top rest, stack = top :: rest → stack.feed tag place = (.ok [
        { lineNumber := place.number
          lineContent := place.content
          errorTag := closeText tag.name
          message :=
            s!"Mismatched closing tag. Expected {closeText top.name} but found {closeText tag.name}."
          code := .mismatchedClosingTag }], stack)) := by
  have htag : tag.closes = true := Tag.closes_iff.mpr ⟨by simpa [Tag.isVoid] using hvoid, hclosing⟩
  constructor
  · intro hname
    obtain ⟨above, frame, below, hsplit⟩ := exists_splitsAt hname
    refine ⟨above, frame, below, hsplit, fun _ _ _ h => hsplit.unique h, ?_⟩
    have hclose : stack.close tag.name place = (above.map (·.unclosedBefore tag.name), below) := by
      rw [hsplit.stack_eq]
      exact close_append hsplit.name_ne hsplit.name_eq place
    apply feed_of_closes htag hclose
    intro f hf
    obtain ⟨inner, hinner, rfl⟩ := List.mem_map.mp hf
    apply decide_eq_true
    apply hstack
    rw [hsplit.stack_eq]
    exact List.mem_append_left _ hinner
  · intro hname
    have hne : ∀ frame ∈ stack, frame.name ≠ tag.name :=
      fun frame hframe h => hname (List.mem_map.mpr ⟨frame, hframe, h⟩)
    have hplaced (finding : Finding) (hnumber : finding.lineNumber = place.number) :
        ∀ f ∈ [finding], f.isPlaced = true := by
      intro f hf
      rw [List.mem_singleton.mp hf]
      exact decide_eq_true (hnumber ▸ hplace)
    constructor
    · rintro rfl
      exact feed_of_closes htag (close_nil tag.name place) (hplaced _ rfl)
    · rintro top rest rfl
      exact feed_of_closes htag (close_of_ne hne place) (hplaced _ rfl)

theorem inner_cell_is_closed_around_open_bold :
    let outer : Frame := ⟨"td", 1, "<td>"⟩
    let inner : Frame := ⟨"td", 2, "<td><b>"⟩
    let bold : Frame := ⟨"b", 2, "<td><b>"⟩
    let italic : Frame := ⟨"i", 3, "<i>"⟩
    let closer : Tag := ⟨"td", true, " "⟩
    let stack : Stack := [italic, bold, inner, outer]
    (∀ frame ∈ stack, 1 ≤ frame.place.number) ∧ closer.name ∉ voidElements ∧
      stack.feed closer ⟨4, "</td >"⟩ = (.ok [
        ⟨3, "<i>", "<i>", "The tag <i> was not closed before </td> was found.",
          .unclosedBeforeClose⟩,
        ⟨2, "<td><b>", "<b>", "The tag <b> was not closed before </td> was found.",
          .unclosedBeforeClose⟩], [outer]) := by
  intro outer inner bold italic closer stack
  have hplaced : ∀ frame ∈ stack, 1 ≤ frame.place.number := by decide
  have hvoid : closer.name ∉ voidElements := by decide
  obtain ⟨above, frame, below, -, hunique, hfeed⟩ :=
    (closing_tag_closes_innermost stack closer ⟨4, "</td >"⟩ hplaced (by decide) hvoid rfl).1
      (by decide)
  obtain ⟨rfl, rfl, rfl⟩ := hunique [italic, bold] inner [outer] ⟨rfl, rfl, by decide⟩
  exact ⟨hplaced, hvoid, hfeed⟩

end MailMarkup.Stack
