import Mathlib.Data.List.Nodup
import MailMarkup.Proofs.Ledger

namespace MailMarkup

def Finding.Blames (f : Finding) (t : Place × Tag) : Prop :=
  (t.2.opens = true ∧ ((∃ name, f = Frame.unclosedBefore ⟨t.2.name, t.1⟩ name) ∨
    f = Frame.neverClosed ⟨t.2.name, t.1⟩)) ∨
  (t.2.closes = true ∧ (f = t.1.unexpectedClosing t.2.name ∨
    ∃ expected, f = t.1.mismatchedClosing expected t.2.name))

def Entry.StandsIn (entry : Entry) (fed : List (Place × Tag)) : Prop :=
  ∃ t, fed[entry.position]? = some t ∧ t.2.opens = true ∧ entry.frame = ⟨t.2.name, t.1⟩

def Event.Holds (fed : List (Place × Tag)) : Event → Prop
  | .resolved i j => i < j ∧ ∃ opener closer, fed[i]? = some opener ∧ fed[j]? = some closer ∧
      opener.2.opens = true ∧ closer.2.closes = true ∧ opener.2.name = closer.2.name
  | .reported i f => ∃ t, fed[i]? = some t ∧ f.Blames t

theorem getElem?_append_of_eq_some {α : Type} {as : List α} {i : Nat} {a : α}
    (h : as[i]? = some a) (bs : List α) : (as ++ bs)[i]? = some a := by
  obtain ⟨hi, -⟩ := List.getElem?_eq_some_iff.mp h
  rw [List.getElem?_append_left hi, h]

theorem Entry.StandsIn.append {entry : Entry} {fed : List (Place × Tag)}
    (h : entry.StandsIn fed) (more : List (Place × Tag)) : entry.StandsIn (fed ++ more) := by
  obtain ⟨t, ht, ho, hf⟩ := h
  exact ⟨t, getElem?_append_of_eq_some ht more, ho, hf⟩

theorem Entry.StandsIn.lt {entry : Entry} {fed : List (Place × Tag)}
    (h : entry.StandsIn fed) : entry.position < fed.length := by
  obtain ⟨t, ht, -⟩ := h
  exact (List.getElem?_eq_some_iff.mp ht).1

theorem Event.Holds.append {event : Event} {fed : List (Place × Tag)}
    (h : event.Holds fed) (more : List (Place × Tag)) : event.Holds (fed ++ more) := by
  cases event with
  | resolved i j =>
    obtain ⟨hij, opener, closer, hi, hj, hk⟩ := h
    exact ⟨hij, opener, closer, getElem?_append_of_eq_some hi more,
      getElem?_append_of_eq_some hj more, hk⟩
  | reported i f =>
    obtain ⟨t, ht, hb⟩ := h
    exact ⟨t, getElem?_append_of_eq_some ht more, hb⟩

theorem Entry.StandsIn.unclosedBefore {entry : Entry} {fed : List (Place × Tag)}
    (h : entry.StandsIn fed) (name : String) : (entry.unclosedBefore name).Holds fed := by
  obtain ⟨t, ht, ho, hf⟩ := h
  exact ⟨t, ht, Or.inl ⟨ho, Or.inl ⟨name, by rw [hf]⟩⟩⟩

theorem Entry.StandsIn.neverClosed {entry : Entry} {fed : List (Place × Tag)}
    (h : entry.StandsIn fed) : entry.neverClosed.Holds fed := by
  obtain ⟨t, ht, ho, hf⟩ := h
  exact ⟨t, ht, Or.inl ⟨ho, Or.inr (by rw [hf])⟩⟩

namespace Ledger

def engaged (tagged : List (Place × Tag)) : List Nat :=
  (tagged.zipIdx.filter (!·.1.2.isNeutral)).map Prod.snd

theorem engaged_append (fed : List (Place × Tag)) (place : Place) (tag : Tag) :
    engaged (fed ++ [(place, tag)]) =
      engaged fed ++ if tag.isNeutral then [] else [fed.length] := by
  cases h : tag.isNeutral <;> simp [engaged, List.zipIdx_append, h]

theorem mem_engaged {tagged : List (Place × Tag)} {i : Nat} :
    i ∈ engaged tagged ↔ ∃ t, tagged[i]? = some t ∧ t.2.isNeutral = false := by
  simp [engaged, List.mem_zipIdx_iff_getElem?]

theorem engaged_nodup (tagged : List (Place × Tag)) : (engaged tagged).Nodup := by
  apply List.Nodup.sublist (List.filter_sublist.map _)
  rw [List.zipIdx_map_snd]
  exact List.nodup_range'

/-- Every tag that opens or closes something is accounted for once: by an event, or as open. -/
structure Accounted (fed : List (Place × Tag)) (events : List Event) (entries : List Entry) :
    Prop where
  once : (events.flatMap Event.positions ++ entries.map Entry.position).Perm (engaged fed)
  ordered : entries.Pairwise (fun inner outer => outer.position < inner.position)
  stands : ∀ entry ∈ entries, entry.StandsIn fed
  holds : ∀ event ∈ events, event.Holds fed

theorem flatMap_positions {report : Entry → Event}
    (h : ∀ entry, (report entry).positions = [entry.position]) (entries : List Entry) :
    (entries.map report).flatMap Event.positions = entries.map Entry.position := by
  rw [List.flatMap_map]
  simp only [h, ← List.map_eq_flatMap]

section Step

variable {fed : List (Place × Tag)} {entries left : List Entry} {new : List Event} {place : Place}
  {tag : Tag}

theorem Step.positions {position : Nat} (h : Step position place tag entries new left) :
    (new.flatMap Event.positions ++ left.map Entry.position).Perm
      (entries.map Entry.position ++ if tag.isNeutral then [] else [position]) := by
  apply List.perm_iff_count.mpr
  intro i
  cases h with
  | neutral _ h => simp [h]
  | opened _ h =>
    simp only [Tag.isNeutral_of_opens h, List.flatMap_nil, List.map_cons, List.count_append,
      List.count_cons, List.count_nil, Bool.false_eq_true, ↓reduceIte]
    omega
  | unexpected h => simp [Tag.isNeutral_of_closes h, Event.positions]
  | mismatched top rest h _ =>
    simp only [Tag.isNeutral_of_closes h, Event.positions, List.flatMap_cons, List.flatMap_nil,
      List.append_nil, List.count_append, Bool.false_eq_true, ↓reduceIte]
    omega
  | matched above entry _ h _ _ =>
    have habove := flatMap_positions (fun e => (rfl : (e.unclosedBefore tag.name).positions = _)) above
    simp only [Tag.isNeutral_of_closes h, habove, Event.positions, List.flatMap_append,
      List.flatMap_cons, List.flatMap_nil, List.map_append, List.map_cons, List.count_append,
      List.count_cons, List.count_nil, Bool.false_eq_true, ↓reduceIte]
    omega

theorem Step.stands (h : Step fed.length place tag entries new left)
    (hs : ∀ entry ∈ entries, entry.StandsIn fed) :
    ∀ entry ∈ left, entry.StandsIn (fed ++ [(place, tag)]) := by
  have hkept : ∀ entry ∈ entries, entry.StandsIn (fed ++ [(place, tag)]) :=
    fun entry he => (hs entry he).append _
  cases h with
  | neutral _ _ => exact hkept
  | opened _ h =>
    refine List.forall_mem_cons.mpr ⟨?_, hkept⟩
    exact ⟨(place, tag), by simp, h, rfl⟩
  | unexpected _ => exact hkept
  | mismatched _ _ _ _ => exact hkept
  | matched above entry _ _ _ _ =>
    intro e he
    exact hkept e (by simp [he])

theorem Step.ordered (h : Step fed.length place tag entries new left)
    (hs : ∀ entry ∈ entries, entry.StandsIn fed)
    (ho : entries.Pairwise (fun inner outer => outer.position < inner.position)) :
    left.Pairwise (fun inner outer => outer.position < inner.position) := by
  cases h with
  | neutral _ _ => exact ho
  | opened _ _ => exact List.pairwise_cons.mpr ⟨fun e he => (hs e he).lt, ho⟩
  | unexpected _ => exact ho
  | mismatched _ _ _ _ => exact ho
  | matched above entry _ _ _ _ => exact (List.pairwise_cons.mp (List.pairwise_append.mp ho).2.1).2

theorem Step.holds (h : Step fed.length place tag entries new left)
    (hs : ∀ entry ∈ entries, entry.StandsIn fed) :
    ∀ event ∈ new, event.Holds (fed ++ [(place, tag)]) := by
  have hlast : (fed ++ [(place, tag)])[fed.length]? = some (place, tag) := by simp
  cases h with
  | neutral _ _ => simp
  | opened _ _ => simp
  | unexpected h =>
    refine List.forall_mem_singleton.mpr ?_
    exact ⟨(place, tag), hlast, Or.inr ⟨h, Or.inl rfl⟩⟩
  | mismatched top _ h _ =>
    refine List.forall_mem_singleton.mpr ?_
    exact ⟨(place, tag), hlast, Or.inr ⟨h, Or.inr ⟨_, rfl⟩⟩⟩
  | matched above entry _ h hname _ =>
    simp only [List.forall_mem_append, List.forall_mem_map, List.forall_mem_singleton]
    constructor
    · intro e he
      exact ((hs e (by simp [he])).append _).unclosedBefore _
    · have hentry := hs entry (by simp)
      obtain ⟨opener, hi, ho, hf⟩ := hentry.append [(place, tag)]
      refine ⟨hentry.lt, opener, (place, tag), hi, hlast, ho, h, ?_⟩
      rw [← hname, hf]

theorem Accounted.step {events : List Event} (ha : Accounted fed events entries)
    (hs : Step fed.length place tag entries new left) :
    Accounted (fed ++ [(place, tag)]) (events ++ new) left where
  once := by
    rw [engaged_append, List.flatMap_append, List.append_assoc]
    apply (hs.positions.append_left _).trans
    rw [← List.append_assoc]
    exact ha.once.append_right _
  ordered := hs.ordered ha.stands ha.ordered
  stands := hs.stands ha.stands
  holds := List.forall_mem_append.mpr
    ⟨fun event he => (ha.holds event he).append _, hs.holds ha.stands⟩

end Step

theorem history_accounted (tagged : List (Place × Tag)) :
    Accounted tagged (history tagged).1 (history tagged).2 := by
  induction tagged using List.reverseRecOn with
  | nil => exact ⟨.nil, .nil, by simp [history], by simp [history]⟩
  | append_singleton fed t ih =>
    obtain ⟨place, tag⟩ := t
    rw [history_append]
    exact ih.step (.of_step _ place tag fed.length)

end Ledger

end MailMarkup
