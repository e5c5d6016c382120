import MailMarkup.Proofs.Balanced

namespace MailMarkup

inductive Edit where
  | keep (tag : Tag)
  | insert (tag : Tag)
  | delete (tag : Tag)
  deriving DecidableEq, Repr

namespace Edit

def before? : Edit → Option Tag
  | .keep tag | .delete tag => some tag
  | .insert _ => none

def after? : Edit → Option Tag
  | .keep tag | .insert tag => some tag
  | .delete _ => none

def isChange : Edit → Bool
  | .keep _ => false
  | .insert _ | .delete _ => true

end Edit

def Finding.closer (f : Finding) : Tag :=
  ⟨String.ofList f.errorTag.toList.tail.dropLast, true, ""⟩

def Finding.isStray (f : Finding) : Bool :=
  f.code == .unexpectedClosingTag || f.code == .mismatchedClosingTag

def closersFor (code : Code) (found : List Finding) : List Edit :=
  (found.filter (·.code == code)).map fun f => .insert f.closer

def editsAt (tag : Tag) (found : List Finding) : List Edit :=
  closersFor .unclosedBeforeClose found ++
    [if found.any Finding.isStray then .delete tag else .keep tag]

/-- The edits that a report asks for. It is made of what was found at every tag and at the end. -/
def editScript (atTags : List (Tag × List Finding)) (atEnd : List Finding) : List Edit :=
  atTags.flatMap (fun reported => editsAt reported.1 reported.2) ++
    closersFor .unclosedTag atEnd.reverse

namespace Stack

def replies (stack : Stack) (tagged : List (Place × Tag)) : List (Tag × List Finding) :=
  (trace (fun stack t => ([(t.2, (stack.settle t.2 t.1).1)], (stack.settle t.2 t.1).2)) stack
    tagged).1

def repair (stack : Stack) (tagged : List (Place × Tag)) : List Edit :=
  editScript (stack.replies tagged) (stack.run tagged).2.leftOpen

theorem replies_cons (stack : Stack) (t : Place × Tag) (tagged : List (Place × Tag)) :
    stack.replies (t :: tagged) =
      (t.2, (stack.settle t.2 t.1).1) :: (stack.settle t.2 t.1).2.replies tagged := by
  simp [replies, trace_cons]

theorem flatMap_replies (stack : Stack) (tagged : List (Place × Tag)) :
    (stack.replies tagged).flatMap Prod.snd = (stack.run tagged).1 := by
  induction tagged generalizing stack with
  | nil => rfl
  | cons t tagged ih => rw [replies_cons, List.flatMap_cons, ih, run_cons]

end Stack

def Frame.closer (frame : Frame) : Tag := ⟨frame.name, true, ""⟩

theorem Finding.closer_of_errorTag {f : Finding} {frame : Frame}
    (h : f.errorTag = frame.errorTag) : f.closer = frame.closer := by
  have htext : frame.errorTag.toList = '<' :: (frame.name.toList ++ ['>']) := by
    change ("<" ++ frame.name ++ ">").toList = _
    simp
  simp [Finding.closer, h, htext, Frame.closer]

theorem closersFor_map {code : Code} (report : Frame → Finding)
    (hcode : ∀ frame, (report frame).code = code)
    (htag : ∀ frame, (report frame).errorTag = frame.errorTag) (frames : List Frame) :
    closersFor code (frames.map report) = frames.map fun frame => .insert frame.closer := by
  have hall : ∀ f ∈ frames.map report, (f.code == code) = true := by
    simp [hcode]
  rw [closersFor, List.filter_eq_self.mpr hall, List.map_map]
  apply List.map_congr_left
  intro frame _
  simp only [Function.comp_apply, Finding.closer_of_errorTag (htag frame)]

theorem editsAt_unclosedBefore (tag : Tag) (frames : List Frame) (name : String) :
    editsAt tag (frames.map (·.unclosedBefore name)) =
      frames.map (fun frame => .insert frame.closer) ++ [.keep tag] := by
  have hstray : (frames.map (·.unclosedBefore name)).any Finding.isStray = false := by
    rw [List.any_map, List.any_eq_false]
    exact fun _ _ => Bool.false_ne_true
  have hclosers : closersFor .unclosedBeforeClose (frames.map (·.unclosedBefore name)) =
      frames.map fun frame => .insert frame.closer :=
    closersFor_map (·.unclosedBefore name) (fun _ => rfl) (fun _ => rfl) frames
  rw [editsAt, hstray, hclosers]
  rfl

theorem before_editsAt (tag : Tag) (found : List Finding) :
    (editsAt tag found).filterMap Edit.before? = [tag] := by
  have hclosers : (closersFor .unclosedBeforeClose found).filterMap Edit.before? = [] := by
    simp [closersFor, Edit.before?]
  rw [editsAt, List.filterMap_append, hclosers]
  split
  · rfl
  · rfl

theorem Closes.after_closers {stack : Stack} (hclose : ∀ frame ∈ stack, frame.closer.closes = true)
    {names : List String} {rest : List Tag} (h : Closes names rest) :
    Closes (stack.map Frame.name ++ names) (stack.map Frame.closer ++ rest) := by
  induction stack with
  | nil => exact h
  | cons frame stack ih =>
    obtain ⟨hframe, hstack⟩ := List.forall_mem_cons.mp hclose
    exact Closes.next .nil hframe (ih hstack)

namespace Stack

section Settled

variable {place : Place} {tag : Tag} {stack left : Stack} {found : List Finding}

theorem Settled.count_edits (h : Settled place tag stack found left) :
    (editsAt tag found).countP Edit.isChange = found.length := by
  cases h with
  | neutral _ _ => rfl
  | opened _ _ => rfl
  | unexpected _ => rfl
  | mismatched _ _ _ _ => rfl
  | matched _ above _ _ _ _ =>
    rw [editsAt_unclosedBefore, List.countP_append, List.countP_map, List.length_map]
    exact List.countP_eq_length.mpr fun _ _ => rfl

theorem Settled.closes_edits (h : Settled place tag stack found left)
    (hclose : ∀ frame ∈ stack, frame.closer.closes = true) {rest : List Tag}
    (hrest : Closes (left.map Frame.name) rest) :
    Closes (stack.map Frame.name) ((editsAt tag found).filterMap Edit.after? ++ rest) := by
  cases h with
  | neutral hn _ => exact hrest.neutral hn
  | opened ho _ => exact hrest.opened ho
  | unexpected _ => exact hrest
  | mismatched _ _ _ _ => exact hrest
  | matched hc above frame _ hname _ =>
    have htag : Closes ((frame :: left).map Frame.name) (tag :: rest) := by
      rw [List.map_cons, hname]
      exact Closes.next .nil hc hrest
    have habove := htag.after_closers fun inner hi => hclose inner (List.mem_append_left _ hi)
    rw [editsAt_unclosedBefore]
    simpa [Edit.after?, List.filterMap_map, Function.comp_def] using habove

theorem Settled.closer_closes (h : Settled place tag stack found left)
    (hclose : ∀ frame ∈ stack, frame.closer.closes = true) :
    ∀ frame ∈ left, frame.closer.closes = true := by
  intro frame hf
  rcases h.mem_left hf with hstack | ⟨ho, rfl⟩
  · exact hclose frame hstack
  · exact Tag.closes_iff.mpr ⟨(Tag.opens_iff.mp ho).1, rfl⟩

end Settled

theorem repair_nil (stack : Stack) :
    stack.repair [] = stack.map fun frame => .insert frame.closer := by
  have hend : (leftOpen stack).reverse = stack.map Frame.neverClosed := by
    rw [leftOpen, ← List.map_reverse, List.reverse_reverse]
  have hclosers : closersFor .unclosedTag (stack.map Frame.neverClosed) =
      stack.map fun frame => .insert frame.closer :=
    closersFor_map Frame.neverClosed (fun _ => rfl) (fun _ => rfl) stack
  rw [← hclosers, ← hend]
  rfl

theorem repair_cons (stack : Stack) (t : Place × Tag) (tagged : List (Place × Tag)) :
    stack.repair (t :: tagged) =
      editsAt t.2 (stack.settle t.2 t.1).1 ++ (stack.settle t.2 t.1).2.repair tagged := by
  simp only [repair, editScript, replies_cons, run_cons, List.flatMap_cons, List.append_assoc]

theorem before_repair (stack : Stack) (tagged : List (Place × Tag)) :
    (stack.repair tagged).filterMap Edit.before? = tagged.map Prod.snd := by
  induction tagged generalizing stack with
  | nil => simp [repair_nil, Edit.before?]
  | cons t tagged ih =>
    rw [repair_cons, List.filterMap_append, before_editsAt, ih]
    rfl

theorem count_repair (stack : Stack) (tagged : List (Place × Tag)) :
    (stack.repair tagged).countP Edit.isChange =
      (stack.run tagged).1.length + (stack.run tagged).2.leftOpen.length := by
  induction tagged generalizing stack with
  | nil =>
    simp [repair_nil, leftOpen, Edit.isChange]
  | cons t tagged ih =>
    rw [repair_cons, List.countP_append, (stack.settled t.2 t.1).count_edits, ih, run_cons,
      List.length_append, Nat.add_assoc]

theorem closes_repair {stack : Stack} (hclose : ∀ frame ∈ stack, frame.closer.closes = true)
    (tagged : List (Place × Tag)) :
    Closes (stack.map Frame.name) ((stack.repair tagged).filterMap Edit.after?) := by
  induction tagged generalizing stack with
  | nil =>
    have hend := (Closes.done .nil).after_closers hclose
    simpa [repair_nil, Edit.after?, List.filterMap_map, Function.comp_def] using hend
  | cons t tagged ih =>
    have hsettled := stack.settled t.2 t.1
    rw [repair_cons, List.filterMap_append]
    exact hsettled.closes_edits hclose (ih (hsettled.closer_closes hclose))

theorem balanced_repair (tagged : List (Place × Tag)) :
    Balanced ((Stack.repair [] tagged).filterMap Edit.after?) := by
  have hcloses : Closes [] ((Stack.repair [] tagged).filterMap Edit.after?) :=
    @closes_repair [] (by simp) tagged
  cases hcloses with
  | done hb => exact hb

theorem feedAndFinish_of_balanced {tagged : List (Place × Tag)}
    (h : Balanced (tagged.map Prod.snd)) : feedAndFinish tagged = (.ok [], []) := by
  have hadmits := feedAndFinish_admits tagged
  rw [balance_eq_nil_iff.mpr h] at hadmits
  exact hadmits.eq_ok (by simp)

end Stack

theorem findings_are_a_complete_repair (tagged : List (Place × Tag)) :
    (Stack.replies [] tagged).flatMap Prod.snd ++ (Stack.run [] tagged).2.leftOpen =
        Stack.balance tagged ∧
      (Stack.repair [] tagged).filterMap Edit.before? = tagged.map Prod.snd ∧
      (∀ repaired : List (Place × Tag),
        repaired.map Prod.snd = (Stack.repair [] tagged).filterMap Edit.after? →
          Stack.feedAndFinish repaired = (.ok [], [])) ∧
      (Stack.repair [] tagged).countP Edit.isChange = (Stack.balance tagged).length ∧
      ((∀ t ∈ tagged, 1 ≤ t.1.number) →
        Stack.feedAndFinish tagged = (.ok (Stack.balance tagged), [])) := by
  refine ⟨?_, Stack.before_repair [] tagged, ?_, ?_, Ledger.feedAndFinish_eq_balance⟩
  · rw [Stack.flatMap_replies, Stack.balance]
  · intro repaired hrepaired
    apply Stack.feedAndFinish_of_balanced
    rw [hrepaired]
    exact Stack.balanced_repair tagged
  · rw [Stack.count_repair, Stack.balance, List.length_append]

theorem open_cell_stray_paragraph_and_open_division_are_mended :
    let line : Place := ⟨1, "<table><td><br></table></p><div>"⟩
    let tagged : List (Place × Tag) := [(line, ⟨"table", false, ""⟩), (line, ⟨"td", false, ""⟩),
      (line, ⟨"br", false, ""⟩), (line, ⟨"table", true, ""⟩), (line, ⟨"p", true, ""⟩),
      (line, ⟨"div", false, ""⟩)]
    let mended : Place := ⟨1, "<table><td><br></td></table><div></div>"⟩
    let repaired : List (Place × Tag) := [(mended, ⟨"table", false, ""⟩),
      (mended, ⟨"td", false, ""⟩), (mended, ⟨"br", false, ""⟩), (mended, ⟨"td", true, ""⟩),
      (mended, ⟨"table", true, ""⟩), (mended, ⟨"div", false, ""⟩), (mended, ⟨"div", true, ""⟩)]
    repaired.map Prod.snd = (Stack.repair [] tagged).filterMap Edit.after? ∧
      Stack.feedAndFinish repaired = (.ok [], []) ∧ (∀ t ∈ tagged, 1 ≤ t.1.number) ∧
      Stack.feedAndFinish tagged = (.ok [Frame.unclosedBefore ⟨"td", line⟩ "table",
        line.unexpectedClosing "p", Frame.neverClosed ⟨"div", line⟩], []) := by
  intro line tagged mended repaired
  have htags : repaired.map Prod.snd = (Stack.repair [] tagged).filterMap Edit.after? := by
    decide +kernel
  have hbalance : Stack.balance tagged = [Frame.unclosedBefore ⟨"td", line⟩ "table",
      line.unexpectedClosing "p", Frame.neverClosed ⟨"div", line⟩] := by
    decide +kernel
  have hplaced : ∀ t ∈ tagged, 1 ≤ t.1.number := by decide
  obtain ⟨-, -, hsilent, -, hfound⟩ := findings_are_a_complete_repair tagged
  refine ⟨htags, hsilent repaired htags, hplaced, ?_⟩
  rw [hfound hplaced, hbalance]

end MailMarkup
