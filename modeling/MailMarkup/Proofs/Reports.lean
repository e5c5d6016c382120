import MailMarkup.Proofs.Accounts
import MailMarkup.Proofs.Feed

namespace MailMarkup

namespace Finding.Blames

variable {f : Finding} {t : Place × Tag}

theorem place_eq (h : f.Blames t) : f.lineNumber = t.1.number ∧ f.lineContent = t.1.content := by
  rcases h with ⟨-, ⟨name, rfl⟩ | rfl⟩ | ⟨-, rfl | ⟨expected, rfl⟩⟩
  all_goals exact ⟨rfl, rfl⟩

theorem of_opens (h : f.Blames t) (ho : t.2.opens = true) :
    (f.code = .unclosedBeforeClose ∨ f.code = .unclosedTag) ∧ f.errorTag = openText t.2.name := by
  rcases h with ⟨-, ⟨name, rfl⟩ | rfl⟩ | ⟨hc, -⟩
  · exact ⟨Or.inl rfl, rfl⟩
  · exact ⟨Or.inr rfl, rfl⟩
  · simp [Tag.opens_of_closes hc] at ho

theorem of_closes (h : f.Blames t) (hc : t.2.closes = true) :
    (f.code = .unexpectedClosingTag ∨ f.code = .mismatchedClosingTag) ∧
      f.errorTag = closeText t.2.name := by
  rcases h with ⟨ho, -⟩ | ⟨-, rfl | ⟨expected, rfl⟩⟩
  · simp [Tag.opens_of_closes hc] at ho
  · exact ⟨Or.inl rfl, rfl⟩
  · exact ⟨Or.inr rfl, rfl⟩

theorem engages (h : f.Blames t) : t.2.opens = true ∨ t.2.closes = true := by
  rcases h with ⟨ho, -⟩ | ⟨hc, -⟩
  · exact Or.inl ho
  · exact Or.inr hc

end Finding.Blames

namespace Ledger

theorem fates_once (tagged : List (Place × Tag)) :
    ((fates tagged).flatMap Event.positions).Perm (engaged tagged) := by
  refine List.Perm.trans ?_ (history_accounted tagged).once
  rw [fates, List.flatMap_append, flatMap_positions (fun _ => rfl), List.map_reverse]
  exact (List.reverse_perm _).append_left _

theorem fates_hold (tagged : List (Place × Tag)) : ∀ event ∈ fates tagged, event.Holds tagged := by
  have ha := history_accounted tagged
  refine List.forall_mem_append.mpr ⟨ha.holds, ?_⟩
  simp only [List.forall_mem_map, List.mem_reverse]
  exact fun entry he => (ha.stands entry he).neverClosed

def reports (tagged : List (Place × Tag)) : List Finding :=
  (fates tagged).filterMap Event.finding?

theorem balance_eq_reports (tagged : List (Place × Tag)) :
    Stack.balance tagged = reports tagged := by
  have hopen : ((history tagged).2.reverse.map Entry.neverClosed).filterMap Event.finding? =
      Stack.leftOpen ((history tagged).2.map Entry.frame) := by
    simp [Stack.leftOpen, List.filterMap_map, Function.comp_def, Entry.neverClosed, Event.finding?]
  rw [Stack.balance, run_eq_history, reports, fates, List.filterMap_append, hopen]

theorem blames_of_mem_balance {tagged : List (Place × Tag)} {f : Finding}
    (hf : f ∈ Stack.balance tagged) : ∃ t ∈ tagged, f.Blames t := by
  rw [balance_eq_reports, reports, List.mem_filterMap] at hf
  obtain ⟨event, he, hfind⟩ := hf
  cases event with
  | resolved i j => simp [Event.finding?] at hfind
  | reported i g =>
    obtain ⟨t, ht, hb⟩ := fates_hold tagged _ he
    obtain rfl : g = f := by simpa [Event.finding?] using hfind
    exact ⟨t, List.mem_of_getElem? ht, hb⟩

theorem balance_placed {tagged : List (Place × Tag)} (h : ∀ t ∈ tagged, 1 ≤ t.1.number) :
    ∀ f ∈ Stack.balance tagged, f.isPlaced = true := by
  intro f hf
  obtain ⟨t, ht, hb⟩ := blames_of_mem_balance hf
  simpa [Finding.isPlaced, hb.place_eq.1] using h t ht

theorem feedAll_eq_run {tagged : List (Place × Tag)} (h : ∀ t ∈ tagged, 1 ≤ t.1.number) :
    Stack.feedAll [] tagged = (.ok (Stack.run [] tagged).1, (Stack.run [] tagged).2) :=
  (Stack.feedAll_admits [] tagged).eq_ok fun f hf =>
    balance_placed h f (List.mem_append_left _ hf)

theorem feedAndFinish_eq_balance {tagged : List (Place × Tag)}
    (h : ∀ t ∈ tagged, 1 ≤ t.1.number) :
    Stack.feedAndFinish tagged = (.ok (Stack.balance tagged), []) :=
  (Stack.feedAndFinish_admits tagged).eq_ok (balance_placed h)

end Ledger

end MailMarkup
