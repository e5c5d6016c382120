import Mathlib.Data.List.Sort
import MailMarkup.Proofs.Accounts

namespace MailMarkup.Ledger

def unresolved (fed : List (Place × Tag)) : List Entry :=
  (fed.zipIdx.filter fun n => n.1.2.opens && !(history fed).1.any (·.concerns n.2)).map
    fun n => ⟨n.2, ⟨n.1.2.name, n.1.1⟩⟩

theorem mem_positions_iff {events : List Event} {i : Nat} :
    i ∈ events.flatMap Event.positions ↔ events.any (·.concerns i) = true := by
  simp [List.mem_flatMap, Event.concerns]

theorem mem_unresolved {fed : List (Place × Tag)} {entry : Entry} :
    entry ∈ unresolved fed ↔
      entry.StandsIn fed ∧ entry.position ∉ (history fed).1.flatMap Event.positions := by
  simp only [unresolved, List.mem_map, List.mem_filter, Bool.and_eq_true, Bool.not_eq_true',
    ← Bool.not_eq_true, ← mem_positions_iff, List.mem_zipIdx_iff_getElem?]
  constructor
  · rintro ⟨n, ⟨hn, ho, hfree⟩, rfl⟩
    exact ⟨⟨n.1, hn, ho, rfl⟩, hfree⟩
  · rintro ⟨⟨t, ht, ho, hf⟩, hfree⟩
    exact ⟨(t, entry.position), ⟨ht, ho, hfree⟩, by rw [← hf]⟩

theorem mem_open_iff {fed : List (Place × Tag)} {entry : Entry} :
    entry ∈ (history fed).2 ↔
      entry.StandsIn fed ∧ entry.position ∉ (history fed).1.flatMap Event.positions := by
  have ha := history_accounted fed
  have hnodup := ha.once.nodup_iff.mpr (engaged_nodup fed)
  constructor
  · intro he
    refine ⟨ha.stands entry he, fun hp => ?_⟩
    exact (List.nodup_append.mp hnodup).2.2 _ hp _ (List.mem_map_of_mem he) rfl
  · rintro ⟨⟨t, ht, ho, hf⟩, hfree⟩
    have hp := ha.once.mem_iff.mpr (mem_engaged.mpr ⟨t, ht, Tag.isNeutral_of_opens ho⟩)
    obtain ⟨other, hother, hpos⟩ := List.mem_map.mp ((List.mem_append.mp hp).resolve_left hfree)
    obtain ⟨t', ht', -, hf'⟩ := ha.stands other hother
    rw [hpos, ht] at ht'
    obtain rfl := Option.some.inj ht'
    have heq : other = entry := by
      cases other
      cases entry
      simp_all
    exact heq ▸ hother

theorem open_eq_unresolved (fed : List (Place × Tag)) :
    (history fed).2.reverse = unresolved fed := by
  let before (a b : Entry) : Prop := a.position < b.position
  have : Std.Irrefl before := ⟨fun a => Nat.lt_irrefl a.position⟩
  have : Std.Antisymm before := ⟨fun _ _ hab hba => absurd hab (Nat.lt_asymm hba)⟩
  -- both lists are ordered by position, so they are equal once they have the same members
  apply List.Pairwise.eq_of_mem_iff (r := before)
  · exact List.pairwise_reverse.mpr (history_accounted fed).ordered
  · refine List.pairwise_map.mpr (List.Pairwise.filter _ ?_)
    have hrange : (fed.zipIdx.map Prod.snd).Pairwise (· < ·) := by
      rw [List.zipIdx_map_snd]
      exact List.pairwise_lt_range'
    have hbefore := List.pairwise_map.mp hrange
    exact hbefore
  · intro entry
    rw [List.mem_reverse, mem_open_iff, mem_unresolved]

end MailMarkup.Ledger
