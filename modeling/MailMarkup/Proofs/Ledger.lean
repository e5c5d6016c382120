import Mathlib.Data.List.Induction
import MailMarkup.Proofs.Settle

namespace MailMarkup

structure Entry where
  position : Nat
  frame : Frame
  deriving DecidableEq, Repr

/-- What becomes of a tag: an opening and a closing tag settle each other without a finding, or a
finding is made about one tag. -/
inductive Event where
  | resolved (opener closer : Nat)
  | reported (position : Nat) (finding : Finding)
  deriving DecidableEq, Repr

namespace Event

def positions : Event → List Nat
  | .resolved opener closer => [opener, closer]
  | .reported position _ => [position]

def finding? : Event → Option Finding
  | .resolved _ _ => none
  | .reported _ finding => some finding

def isResolved : Event → Bool
  | .resolved _ _ => true
  | .reported _ _ => false

def hasCode (code : Code) (event : Event) : Bool := event.finding?.any (·.code == code)

def concerns (position : Nat) (event : Event) : Bool := event.positions.contains position

end Event

namespace Entry

def unclosedBefore (entry : Entry) (name : String) : Event :=
  .reported entry.position (entry.frame.unclosedBefore name)

def neverClosed (entry : Entry) : Event := .reported entry.position entry.frame.neverClosed

end Entry

namespace Ledger

def close (entries : List Entry) (name : String) (place : Place) (position : Nat) :
    List Event × List Entry :=
  match entries.dropWhile (·.frame.name != name), entries with
  | entry :: below, _ =>
    ((entries.takeWhile (·.frame.name != name)).map (·.unclosedBefore name) ++
      [.resolved entry.position position], below)
  | [], [] => ([.reported position (place.unexpectedClosing name)], [])
  | [], top :: _ => ([.reported position (place.mismatchedClosing top.frame.name name)], entries)

def step (entries : List Entry) (numbered : (Place × Tag) × Nat) : List Event × List Entry :=
  let ((place, tag), position) := numbered
  if tag.closes then close entries tag.name place position
  else if tag.opens then ([], ⟨position, ⟨tag.name, place⟩⟩ :: entries)
  else ([], entries)

def history (tagged : List (Place × Tag)) : List Event × List Entry :=
  trace step [] tagged.zipIdx

def fates (tagged : List (Place × Tag)) : List Event :=
  (history tagged).1 ++ (history tagged).2.reverse.map Entry.neverClosed

inductive Step (position : Nat) (place : Place) (tag : Tag) :
    List Entry → List Event → List Entry → Prop
  | neutral (entries : List Entry) (h : tag.isNeutral = true) :
      Step position place tag entries [] entries
  | opened (entries : List Entry) (h : tag.opens = true) :
      Step position place tag entries [] (⟨position, ⟨tag.name, place⟩⟩ :: entries)
  | unexpected (h : tag.closes = true) :
      Step position place tag [] [.reported position (place.unexpectedClosing tag.name)] []
  | mismatched (top : Entry) (rest : List Entry) (h : tag.closes = true)
      (hne : ∀ e ∈ top :: rest, e.frame.name ≠ tag.name) :
      Step position place tag (top :: rest)
        [.reported position (place.mismatchedClosing top.frame.name tag.name)] (top :: rest)
  | matched (above : List Entry) (entry : Entry) (below : List Entry) (h : tag.closes = true)
      (hname : entry.frame.name = tag.name) (hne : ∀ e ∈ above, e.frame.name ≠ tag.name) :
      Step position place tag (above ++ entry :: below)
        (above.map (·.unclosedBefore tag.name) ++ [.resolved entry.position position]) below

theorem Step.of_close {position : Nat} {place : Place} {tag : Tag} (h : tag.closes = true)
    (entries : List Entry) :
    Step position place tag entries (close entries tag.name place position).1
      (close entries tag.name place position).2 := by
  cases hf : entries.find? (·.frame.name == tag.name) with
  | none =>
    have hne : ∀ e ∈ entries, e.frame.name ≠ tag.name := by simpa using hf
    cases entries with
    | nil => exact .unexpected h
    | cons top rest =>
      have hd : (top :: rest).dropWhile (·.frame.name != tag.name) = [] := by
        rw [List.dropWhile_eq_nil_iff]
        simpa using hne
      simp only [close, hd]
      exact .mismatched top rest h hne
  | some entry =>
    obtain ⟨hn, above, below, rfl, ha⟩ := List.find?_eq_some_iff_append.mp hf
    have hname : entry.frame.name = tag.name := by simpa using hn
    have hne : ∀ e ∈ above, e.frame.name ≠ tag.name := by simpa using ha
    obtain ⟨ht, hd⟩ := span_append_cons (p := (·.frame.name != tag.name)) below
      (by simpa using hne) (by simpa using hname)
    simp only [close, hd, ht]
    exact .matched above entry below h hname hne

theorem Step.of_step (entries : List Entry) (place : Place) (tag : Tag) (position : Nat) :
    Step position place tag entries (step entries ((place, tag), position)).1
      (step entries ((place, tag), position)).2 := by
  rcases tag.kind_cases with ⟨hn, ho, hc⟩ | ⟨hn, ho, hc⟩ | ⟨hn, ho, hc⟩
  · simp only [step, ho, hc]
    exact .neutral entries hn
  · simp only [step, ho, hc]
    exact .opened entries ho
  · simp only [step, hc]
    exact .of_close hc entries

theorem Step.settle {position : Nat} {place : Place} {tag : Tag} {entries left : List Entry}
    {events : List Event} (h : Step position place tag entries events left) :
    Stack.settle (entries.map Entry.frame) tag place =
      (events.filterMap Event.finding?, left.map Entry.frame) := by
  cases h with
  | neutral _ h => simp [Stack.settle_of_neutral h]
  | opened _ h => simp [Stack.settle_of_opens h]
  | unexpected h =>
    rw [Stack.settle_of_closes h]
    rfl
  | mismatched top rest h hne =>
    rw [Stack.settle_of_closes h, List.map_cons, Stack.close_of_ne]
    · rfl
    · simpa using hne
  | matched above entry _ h hname hne =>
    rw [Stack.settle_of_closes h, List.map_append, List.map_cons,
      Stack.close_append (by simpa using hne) hname]
    simp [List.filterMap_append, List.filterMap_map, Function.comp_def, Entry.unclosedBefore,
      Event.finding?]

theorem history_append (fed : List (Place × Tag)) (place : Place) (tag : Tag) :
    history (fed ++ [(place, tag)]) =
      ((history fed).1 ++ (step (history fed).2 ((place, tag), fed.length)).1,
        (step (history fed).2 ((place, tag), fed.length)).2) := by
  simp [history, List.zipIdx_append, trace_append, trace_cons]

theorem run_eq_history (tagged : List (Place × Tag)) :
    Stack.run [] tagged =
      ((history tagged).1.filterMap Event.finding?, (history tagged).2.map Entry.frame) := by
  induction tagged using List.reverseRecOn with
  | nil => rfl
  | append_singleton fed t ih =>
    obtain ⟨place, tag⟩ := t
    have hstep := (Step.of_step (history fed).2 place tag fed.length).settle
    rw [history_append, Stack.run, trace_append]
    rw [Stack.run] at ih
    simp [ih, trace_cons, hstep, List.filterMap_append]

theorem history_mono {fed tagged : List (Place × Tag)} (h : fed <+: tagged) :
    (history fed).1 <+: (history tagged).1 := by
  obtain ⟨rest, rfl⟩ := h
  simp only [history, List.zipIdx_append, trace_append]
  exact List.prefix_append _ _

theorem history_grows {fed tagged : List (Place × Tag)} (h : fed <+: tagged) :
    (history fed).1 <+: fates tagged :=
  (history_mono h).trans (List.prefix_append _ _)

end Ledger

end MailMarkup
