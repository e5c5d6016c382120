import MailMarkup.Proofs.Reports

namespace MailMarkup

/-- The finding as it is made inside an element of this name: there a closing tag without an opening
tag does not come unexpected, it takes the place of the element's own. -/
def Finding.expecting (name : String) (f : Finding) : Finding :=
  if f.code = .unexpectedClosingTag then
    { f with
      code := .mismatchedClosingTag
      message :=
        s!"Mismatched closing tag. Expected {closeText name} but found {f.errorTag}." }
  else f

theorem Finding.expecting_of_ne {f : Finding} (h : f.code ≠ .unexpectedClosingTag)
    (name : String) : f.expecting name = f := by
  simp only [Finding.expecting, if_neg h]

theorem Finding.isPlaced_expecting (name : String) (f : Finding) :
    (f.expecting name).isPlaced = f.isPlaced := by
  unfold Finding.expecting
  split
  · rfl
  · rfl

theorem Place.expecting_unexpectedClosing (place : Place) (expected name : String) :
    (place.unexpectedClosing name).expecting expected = place.mismatchedClosing expected name := rfl

namespace Stack

theorem close_enclosed {frame : Frame} {name : String} (hname : frame.name ≠ name) (stack : Stack)
    (place : Place) :
    Stack.close (stack ++ [frame]) name place =
      ((stack.close name place).1.map (Finding.expecting frame.name),
        (stack.close name place).2 ++ [frame]) := by
  rcases stack.split_at_name name with hne | ⟨above, found, below, rfl, hfound, hne⟩
  · cases stack with
    | nil =>
      -- the enclosing frame is the top, so its closing tag is the one expected
      rw [List.nil_append, close_of_ne (by simpa using hname), close_nil, List.map_singleton,
        Place.expecting_unexpectedClosing, List.nil_append]
    | cons top rest =>
      have hall : ∀ f ∈ top :: (rest ++ [frame]), f.name ≠ name := by
        rw [← List.cons_append]
        exact List.forall_mem_append.mpr ⟨hne, by simpa using hname⟩
      rw [List.cons_append, close_of_ne hall, close_of_ne hne, List.map_singleton,
        Finding.expecting_of_ne Code.noConfusion]
      rfl
  · have hreport : ∀ f ∈ above.map (·.unclosedBefore name), f.expecting frame.name = f := by
      rw [List.forall_mem_map]
      exact fun inner _ => Finding.expecting_of_ne Code.noConfusion _
    rw [List.append_assoc, List.cons_append, close_append hne hfound, close_append hne hfound,
      List.map_congr_left hreport, List.map_id']

theorem settle_enclosed {frame : Frame} {tag : Tag} (hname : frame.name ≠ tag.name) (stack : Stack)
    (place : Place) :
    Stack.settle (stack ++ [frame]) tag place =
      ((stack.settle tag place).1.map (Finding.expecting frame.name),
        (stack.settle tag place).2 ++ [frame]) :=
  settle_of_close (· ++ [frame]) rfl (close_enclosed hname stack place)

theorem run_enclosed {frame : Frame} {tagged : List (Place × Tag)}
    (h : ∀ t ∈ tagged, t.2.name ≠ frame.name) (stack : Stack) :
    Stack.run (stack ++ [frame]) tagged =
      ((stack.run tagged).1.map (Finding.expecting frame.name),
        (stack.run tagged).2 ++ [frame]) := by
  have hrun : Stack.run (stack ++ [frame]) (tagged.map id) =
      ((stack.run tagged).1.map (Finding.expecting frame.name),
        (stack.run tagged).2 ++ [frame]) :=
    trace_map (f := (· ++ [frame]))
      (fun stack t ht => settle_enclosed (h t ht).symm stack t.1) stack
  rwa [List.map_id] at hrun

theorem run_of_enclosed {tagged : List (Place × Tag)} {opener closer : Place × Tag}
    (ho : opener.2.opens = true) (hc : closer.2.closes = true)
    (hname : closer.2.name = opener.2.name) (hfresh : ∀ t ∈ tagged, t.2.name ≠ opener.2.name) :
    Stack.run [] (opener :: tagged ++ [closer]) =
      ((Stack.run [] tagged).1.map (Finding.expecting opener.2.name) ++
        (Stack.run [] tagged).2.map (·.unclosedBefore opener.2.name), []) := by
  have hopen : Stack.run [⟨opener.2.name, opener.1⟩] tagged =
      ((Stack.run [] tagged).1.map (Finding.expecting opener.2.name),
        (Stack.run [] tagged).2 ++ [⟨opener.2.name, opener.1⟩]) :=
    @run_enclosed ⟨opener.2.name, opener.1⟩ tagged hfresh []
  have hne : ∀ frame ∈ (Stack.run [] tagged).2, frame.name ≠ opener.2.name := by
    intro frame hf
    rcases frame_of_mem_run hf with hnil | ⟨t, ht, -, rfl⟩
    · simp at hnil
    · exact hfresh t ht
  rw [List.cons_append, run_cons, settle_of_opens ho, run_append, hopen, run_cons,
    settle_of_closes hc, hname, close_append hne rfl]
  simp

theorem enclosed_placed {tagged : List (Place × Tag)} (h : ∀ t ∈ tagged, 1 ≤ t.1.number)
    (name : String) :
    ∀ f ∈ (Stack.run [] tagged).1.map (Finding.expecting name) ++
      (Stack.run [] tagged).2.map (·.unclosedBefore name), f.isPlaced = true := by
  rw [List.forall_mem_append, List.forall_mem_map, List.forall_mem_map]
  constructor
  · intro f hf
    rw [Finding.isPlaced_expecting]
    exact Ledger.balance_placed h f (List.mem_append_left _ hf)
  · intro frame hf
    rcases frame_of_mem_run hf with hnil | ⟨t, ht, -, rfl⟩
    · simp at hnil
    · exact decide_eq_true (h t ht)

end Stack

theorem findings_inside_a_new_element (tagged : List (Place × Tag)) (opener closer : Place × Tag)
    (ho : opener.2.opens = true) (hc : closer.2.closes = true)
    (hname : closer.2.name = opener.2.name) (hfresh : ∀ t ∈ tagged, t.2.name ≠ opener.2.name) :
    let plain := Stack.run [] tagged
    let enclosed := plain.1.map (Finding.expecting opener.2.name) ++
      plain.2.map (·.unclosedBefore opener.2.name)
    Stack.run [] (opener :: tagged ++ [closer]) = (enclosed, []) ∧
      ((∀ t ∈ tagged, 1 ≤ t.1.number) →
        Stack.feedAll [] tagged = (.ok plain.1, plain.2) ∧
          Stack.feedAll [] (opener :: tagged ++ [closer]) = (.ok enclosed, []) ∧
          Stack.feedAndFinish (opener :: tagged ++ [closer]) = (.ok enclosed, [])) := by
  intro plain enclosed
  have hrun : Stack.run [] (opener :: tagged ++ [closer]) = (enclosed, []) :=
    Stack.run_of_enclosed ho hc hname hfresh
  have hbalance : Stack.balance (opener :: tagged ++ [closer]) = enclosed := by
    rw [Stack.balance, hrun]
    exact List.append_nil enclosed
  refine ⟨hrun, fun hplaced => ?_⟩
  have henclosed := Stack.enclosed_placed hplaced opener.2.name
  have hfeed := Stack.feedAll_admits [] (opener :: tagged ++ [closer])
  have hfinish := Stack.feedAndFinish_admits (opener :: tagged ++ [closer])
  rw [hrun] at hfeed
  rw [hbalance] at hfinish
  exact ⟨Ledger.feedAll_eq_run hplaced, hfeed.eq_ok henclosed, hfinish.eq_ok henclosed⟩

theorem stray_bold_inside_a_new_cell :
    let line : Place := ⟨4, "</b><p>"⟩
    let tagged : List (Place × Tag) := [(line, ⟨"b", true, ""⟩), (line, ⟨"p", false, ""⟩)]
    let opener : Place × Tag := (⟨3, "<td>"⟩, ⟨"td", false, ""⟩)
    let closer : Place × Tag := (⟨5, "</td>"⟩, ⟨"td", true, ""⟩)
    opener.2.opens = true ∧ closer.2.closes = true ∧ closer.2.name = opener.2.name ∧
      (∀ t ∈ tagged, t.2.name ≠ opener.2.name) ∧ (∀ t ∈ tagged, 1 ≤ t.1.number) ∧
      Stack.feedAndFinish (opener :: tagged ++ [closer]) =
        (.ok [line.mismatchedClosing "td" "b", Frame.unclosedBefore ⟨"p", line⟩ "td"], []) := by
  intro line tagged opener closer
  have ho : opener.2.opens = true := by decide
  have hc : closer.2.closes = true := by decide
  have hfresh : ∀ t ∈ tagged, t.2.name ≠ opener.2.name := by decide
  have hplaced : ∀ t ∈ tagged, 1 ≤ t.1.number := by decide
  obtain ⟨-, hfeed⟩ := findings_inside_a_new_element tagged opener closer ho hc rfl hfresh
  exact ⟨ho, hc, rfl, hfresh, hplaced, (hfeed hplaced).2.2⟩

end MailMarkup
