import MailMarkup.Proofs.Reports

namespace MailMarkup.Ledger

theorem countP_positions {p : Nat → Bool} {c d : Code} {events : List Event}
    (h : ∀ event ∈ events, event.positions.countP p = (if event.isResolved then 1 else 0) +
      (if event.hasCode c then 1 else 0) + if event.hasCode d then 1 else 0) :
    (events.flatMap Event.positions).countP p =
      events.countP Event.isResolved + events.countP (·.hasCode c) +
        events.countP (·.hasCode d) := by
  induction events with
  | nil => rfl
  | cons event events ih =>
    obtain ⟨he, hes⟩ := List.forall_mem_cons.mp h
    simp only [List.flatMap_cons, List.countP_append, List.countP_cons, he, ih hes]
    omega

theorem countP_engaged (tagged : List (Place × Tag)) {q : Tag → Bool}
    (hq : ∀ tag, q tag = true → tag.isNeutral = false) :
    (engaged tagged).countP (fun i => tagged[i]?.any (q ·.2)) = tagged.countP (q ·.2) := by
  rw [engaged, List.countP_map, List.countP_filter]
  have hcongr : tagged.zipIdx.countP (fun n => ((fun i => tagged[i]?.any (q ·.2)) ∘ Prod.snd) n &&
      !n.1.2.isNeutral) = tagged.zipIdx.countP ((q ·.2) ∘ Prod.fst) := by
    apply List.countP_congr
    intro n hn
    simp only [Function.comp_apply, List.mem_zipIdx_iff_getElem?.mp hn, Option.any_some,
      Bool.and_eq_true, Bool.not_eq_true']
    exact ⟨fun h => h.1, fun h => ⟨h, hq _ h⟩⟩
  rw [hcongr, ← List.countP_map, List.zipIdx_map_fst]

theorem countP_hasCode (code : Code) (events : List Event) :
    events.countP (·.hasCode code) =
      (events.filterMap Event.finding?).countP (·.code == code) := by
  rw [List.countP_filterMap]
  apply List.countP_congr
  intro event _
  cases event <;> simp [Event.hasCode, Event.finding?]

theorem count_side (tagged : List (Place × Tag)) {q : Tag → Bool} {c d : Code} (hcd : c ≠ d)
    (hpair : ∀ opener closer : Tag, opener.opens = true → closer.closes = true →
      q opener = !q closer)
    (hblame : ∀ (f : Finding) t, f.Blames t → q t.2 = (f.code == c || f.code == d))
    (hneutral : ∀ tag, q tag = true → tag.isNeutral = false) :
    tagged.countP (q ·.2) = (fates tagged).countP Event.isResolved +
      (reports tagged).countP (·.code == c) + (reports tagged).countP (·.code == d) := by
  rw [reports, ← countP_hasCode, ← countP_hasCode, ← countP_engaged tagged hneutral, ← (fates_once tagged).countP_eq]
  apply countP_positions
  intro event he
  cases event with
  | resolved i j =>
    obtain ⟨-, opener, closer, hi, hj, ho, hc, -⟩ := fates_hold tagged _ he
    simp only [Event.positions, Event.isResolved, Event.hasCode, Event.finding?, List.countP_cons,
      List.countP_nil, hi, hj, Option.any_some, Option.any_none, hpair _ _ ho hc]
    cases q closer.2 <;> rfl
  | reported i f =>
    obtain ⟨t, ht, hb⟩ := fates_hold tagged _ he
    simp only [Event.positions, Event.isResolved, Event.hasCode, Event.finding?,
      List.countP_singleton, ht, Option.any_some, hblame f t hb]
    by_cases hc : f.code = c
    · simp [hc, hcd]
    · simp [hc]

theorem openers_count (tagged : List (Place × Tag)) :
    tagged.countP (·.2.opens) = (fates tagged).countP Event.isResolved +
      (reports tagged).countP (·.code == .unclosedBeforeClose) +
      (reports tagged).countP (·.code == .unclosedTag) := by
  apply count_side tagged (by decide)
  · intro opener closer ho hc
    rw [ho, Tag.opens_of_closes hc, Bool.not_false]
  · intro f t hb
    rcases hb.engages with ho | hc
    · rcases (hb.of_opens ho).1 with h | h <;> simp [h, ho]
    · rcases (hb.of_closes hc).1 with h | h <;> simp [h, Tag.opens_of_closes hc]
  · exact fun _ => Tag.isNeutral_of_opens

theorem closers_count (tagged : List (Place × Tag)) :
    tagged.countP (·.2.closes) = (fates tagged).countP Event.isResolved +
      (reports tagged).countP (·.code == .unexpectedClosingTag) +
      (reports tagged).countP (·.code == .mismatchedClosingTag) := by
  apply count_side tagged (by decide)
  · intro opener closer ho hc
    rw [hc, Tag.closes_of_opens ho, Bool.not_true]
  · intro f t hb
    rcases hb.engages with ho | hc
    · rcases (hb.of_opens ho).1 with h | h <;> simp [h, Tag.closes_of_opens ho]
    · rcases (hb.of_closes hc).1 with h | h <;> simp [h, hc]
  · exact fun _ => Tag.isNeutral_of_closes

end MailMarkup.Ledger
