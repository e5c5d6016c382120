import Mathlib.Data.List.TakeWhile
import MailMarkup.Balance
import MailMarkup.Trace

namespace MailMarkup

theorem span_append_cons {α : Type} {p : α → Bool} {above : List α} {a : α} (below : List α)
    (hp : ∀ b ∈ above, p b = true) (ha : p a = false) :
    (above ++ a :: below).takeWhile p = above ∧
      (above ++ a :: below).dropWhile p = a :: below := by
  constructor
  · rw [List.takeWhile_append_of_pos hp]
    simp [ha]
  · rw [List.dropWhile_append_of_pos hp]
    simp [ha]

namespace Tag

def isVoid (tag : Tag) : Bool := voidElements.contains tag.name

def opens (tag : Tag) : Bool := !tag.isVoid && !tag.closing && !tag.selfClosing

def closes (tag : Tag) : Bool := !tag.isVoid && tag.closing

def isNeutral (tag : Tag) : Bool := tag.isVoid || (!tag.closing && tag.selfClosing)

theorem kind_cases (tag : Tag) :
    (tag.isNeutral = true ∧ tag.opens = false ∧ tag.closes = false) ∨
      (tag.isNeutral = false ∧ tag.opens = true ∧ tag.closes = false) ∨
      (tag.isNeutral = false ∧ tag.opens = false ∧ tag.closes = true) := by
  simp only [isNeutral, opens, closes]
  cases tag.isVoid <;> cases tag.closing <;> cases tag.selfClosing <;> simp

theorem isNeutral_of_opens {tag : Tag} (h : tag.opens = true) : tag.isNeutral = false := by
  rcases tag.kind_cases with hk | hk | hk <;> simp_all

theorem isNeutral_of_closes {tag : Tag} (h : tag.closes = true) : tag.isNeutral = false := by
  rcases tag.kind_cases with hk | hk | hk <;> simp_all

theorem opens_of_closes {tag : Tag} (h : tag.closes = true) : tag.opens = false := by
  rcases tag.kind_cases with hk | hk | hk <;> simp_all

theorem closes_of_opens {tag : Tag} (h : tag.opens = true) : tag.closes = false := by
  rcases tag.kind_cases with hk | hk | hk <;> simp_all

theorem opens_iff {tag : Tag} :
    tag.opens = true ↔ tag.isVoid = false ∧ tag.closing = false ∧ tag.selfClosing = false := by
  simp [opens, and_assoc]

theorem closes_iff {tag : Tag} : tag.closes = true ↔ tag.isVoid = false ∧ tag.closing = true := by
  simp [closes]

end Tag

namespace Stack

theorem settle_of_neutral {tag : Tag} (h : tag.isNeutral = true) (stack : Stack) (place : Place) :
    stack.settle tag place = ([], stack) := by
  simp only [Tag.isNeutral, Tag.isVoid, Bool.or_eq_true, Bool.and_eq_true,
    Bool.not_eq_true'] at h
  unfold settle
  rcases h with h | ⟨hc, hs⟩
  · rw [if_pos h]
  · simp only [hc, hs, Bool.false_eq_true, ↓reduceIte, ite_self]

theorem settle_of_opens {tag : Tag} (h : tag.opens = true) (stack : Stack) (place : Place) :
    stack.settle tag place = ([], ⟨tag.name, place⟩ :: stack) := by
  obtain ⟨hv, hc, hs⟩ := Tag.opens_iff.mp h
  simp only [Tag.isVoid] at hv
  simp only [settle, hv, hc, hs, Bool.false_eq_true, ↓reduceIte]

theorem settle_of_closes {tag : Tag} (h : tag.closes = true) (stack : Stack) (place : Place) :
    stack.settle tag place = stack.close tag.name place := by
  obtain ⟨hv, hc⟩ := Tag.closes_iff.mp h
  simp only [Tag.isVoid] at hv
  simp only [settle, hv, hc, Bool.false_eq_true, ↓reduceIte]

theorem close_nil (name : String) (place : Place) :
    Stack.close [] name place = ([place.unexpectedClosing name], []) := rfl

theorem popTo_append (name : String) (found : List Finding) (above : Stack) (frame : Frame)
    (below : Stack) : popTo name found above.length (above ++ frame :: below) =
      (found.reverse ++ above.map (·.unclosedBefore name), below) := by
  induction above generalizing found with
  | nil => simp [popTo]
  | cons inner above ih =>
    rw [List.length_cons, List.cons_append, popTo, ih]
    simp

theorem findIdx?_of_ne {stack : Stack} {name : String} (h : ∀ frame ∈ stack, frame.name ≠ name) :
    stack.findIdx? (·.name == name) = none := by
  rw [List.findIdx?_eq_none_iff]
  intro frame hf
  simpa using h frame hf

theorem close_of_ne {top : Frame} {rest : Stack} {name : String}
    (h : ∀ frame ∈ top :: rest, frame.name ≠ name) (place : Place) :
    Stack.close (top :: rest) name place =
      ([place.mismatchedClosing top.name name], top :: rest) := by
  rw [close, if_neg (h top List.mem_cons_self), findIdx?_of_ne h]

theorem close_append {above below : Stack} {frame : Frame} {name : String}
    (ha : ∀ f ∈ above, f.name ≠ name) (hn : frame.name = name) (place : Place) :
    Stack.close (above ++ frame :: below) name place =
      (above.map (·.unclosedBefore name), below) := by
  cases above with
  | nil => simp [close, hn]
  | cons top above =>
    have hfound : (top :: above ++ frame :: below).findIdx? (·.name == name) =
        some (top :: above).length := by
      rw [List.findIdx?_append, findIdx?_of_ne ha, List.findIdx?_cons]
      simp [hn]
    rw [List.cons_append, close, if_neg (ha top List.mem_cons_self), ← List.cons_append, hfound]
    exact popTo_append name [] (top :: above) frame below

theorem split_at_name (stack : Stack) (name : String) :
    (∀ frame ∈ stack, frame.name ≠ name) ∨
      ∃ above frame below, stack = above ++ frame :: below ∧ frame.name = name ∧
        ∀ f ∈ above, f.name ≠ name := by
  cases h : stack.find? (·.name == name) with
  | none =>
    left
    simpa using h
  | some frame =>
    right
    obtain ⟨hn, above, below, hs, ha⟩ := List.find?_eq_some_iff_append.mp h
    exact ⟨above, frame, below, hs, by simpa using hn, by simpa using ha⟩

theorem settle_of_close (f : Stack → Stack) {h : Finding → Finding} {stack : Stack} {tag : Tag}
    {place place' : Place}
    (hpush : f (⟨tag.name, place⟩ :: stack) = ⟨tag.name, place'⟩ :: f stack)
    (hclose : Stack.close (f stack) tag.name place' =
      ((stack.close tag.name place).1.map h, f (stack.close tag.name place).2)) :
    Stack.settle (f stack) tag place' =
      ((stack.settle tag place).1.map h, f (stack.settle tag place).2) := by
  rcases tag.kind_cases with ⟨hn, -, -⟩ | ⟨-, ho, -⟩ | ⟨-, -, hc⟩
  · rw [settle_of_neutral hn, settle_of_neutral hn, List.map_nil]
  · rw [settle_of_opens ho, settle_of_opens ho, List.map_nil, hpush]
  · rw [settle_of_closes hc, settle_of_closes hc, hclose]

inductive Settled (place : Place) (tag : Tag) : Stack → List Finding → Stack → Prop
  | neutral (h : tag.isNeutral = true) (stack : Stack) : Settled place tag stack [] stack
  | opened (h : tag.opens = true) (stack : Stack) :
      Settled place tag stack [] (⟨tag.name, place⟩ :: stack)
  | unexpected (h : tag.closes = true) :
      Settled place tag [] [place.unexpectedClosing tag.name] []
  | mismatched (h : tag.closes = true) (top : Frame) (rest : Stack)
      (hne : ∀ frame ∈ top :: rest, frame.name ≠ tag.name) :
      Settled place tag (top :: rest) [place.mismatchedClosing top.name tag.name] (top :: rest)
  | matched (h : tag.closes = true) (above : Stack) (frame : Frame) (below : Stack)
      (hname : frame.name = tag.name) (hne : ∀ f ∈ above, f.name ≠ tag.name) :
      Settled place tag (above ++ frame :: below) (above.map (·.unclosedBefore tag.name)) below

theorem settled (stack : Stack) (tag : Tag) (place : Place) :
    Settled place tag stack (stack.settle tag place).1 (stack.settle tag place).2 := by
  rcases tag.kind_cases with ⟨hn, -, -⟩ | ⟨-, ho, -⟩ | ⟨-, -, hc⟩
  · rw [settle_of_neutral hn]
    exact .neutral hn stack
  · rw [settle_of_opens ho]
    exact .opened ho stack
  · rw [settle_of_closes hc]
    rcases stack.split_at_name tag.name with hne | ⟨above, frame, below, rfl, hname, hne⟩
    · cases stack with
      | nil => exact .unexpected hc
      | cons top rest =>
        rw [close_of_ne hne]
        exact .mismatched hc top rest hne
    · rw [close_append hne hname]
      exact .matched hc above frame below hname hne

section Settled

variable {place : Place} {tag : Tag} {stack left : Stack} {found : List Finding}

theorem Settled.mem_found {f : Finding} (h : Settled place tag stack found left)
    (hf : f ∈ found) :
    f = place.unexpectedClosing tag.name ∨
      (∃ expected, f = place.mismatchedClosing expected tag.name) ∨
      ∃ frame ∈ stack, f = frame.unclosedBefore tag.name := by
  cases h with
  | neutral _ _ => simp at hf
  | opened _ _ => simp at hf
  | unexpected _ => exact Or.inl (List.mem_singleton.mp hf)
  | mismatched _ top _ _ => exact Or.inr (Or.inl ⟨top.name, List.mem_singleton.mp hf⟩)
  | matched _ above _ _ _ _ =>
    obtain ⟨inner, hinner, rfl⟩ := List.mem_map.mp hf
    exact Or.inr (Or.inr ⟨inner, List.mem_append_left _ hinner, rfl⟩)

theorem Settled.mem_left {frame : Frame} (h : Settled place tag stack found left)
    (hf : frame ∈ left) : frame ∈ stack ∨ tag.opens = true ∧ frame = ⟨tag.name, place⟩ := by
  cases h with
  | neutral _ _ => exact Or.inl hf
  | opened ho _ => exact (List.mem_cons.mp hf).symm.imp_right fun heq => ⟨ho, heq⟩
  | unexpected _ => exact Or.inl hf
  | mismatched _ _ _ _ => exact Or.inl hf
  | matched _ _ _ _ _ _ => exact Or.inl (List.mem_append_right _ (List.mem_cons_of_mem _ hf))

end Settled

theorem code_ne_of_mem_settle {stack : Stack} {tag : Tag} {place : Place} {f : Finding}
    (h : f ∈ (stack.settle tag place).1) : f.code ≠ .unclosedTag := by
  rcases (stack.settled tag place).mem_found h with rfl | ⟨expected, rfl⟩ | ⟨frame, -, rfl⟩
  all_goals exact Code.noConfusion

abbrev run (stack : Stack) (tagged : List (Place × Tag)) : List Finding × Stack :=
  trace (fun stack t => stack.settle t.2 t.1) stack tagged

theorem run_cons (stack : Stack) (t : Place × Tag) (tagged : List (Place × Tag)) :
    stack.run (t :: tagged) =
      ((stack.settle t.2 t.1).1 ++ ((stack.settle t.2 t.1).2.run tagged).1,
        ((stack.settle t.2 t.1).2.run tagged).2) :=
  trace_cons _ stack t tagged

theorem run_append (stack : Stack) (as bs : List (Place × Tag)) :
    stack.run (as ++ bs) =
      ((stack.run as).1 ++ ((stack.run as).2.run bs).1, ((stack.run as).2.run bs).2) :=
  trace_append _ stack as bs

theorem frame_of_mem_run {stack : Stack} {tagged : List (Place × Tag)} {frame : Frame}
    (h : frame ∈ (stack.run tagged).2) :
    frame ∈ stack ∨ ∃ t ∈ tagged, t.2.opens = true ∧ frame = ⟨t.2.name, t.1⟩ := by
  induction tagged generalizing stack with
  | nil => exact Or.inl h
  | cons t tagged ih =>
    rw [run_cons] at h
    rcases ih h with hleft | ⟨t', ht', hframe⟩
    · rcases (stack.settled t.2 t.1).mem_left hleft with hstack | hframe
      · exact Or.inl hstack
      · exact Or.inr ⟨t, List.mem_cons_self, hframe⟩
    · exact Or.inr ⟨t', List.mem_cons_of_mem t ht', hframe⟩

end Stack

end MailMarkup
