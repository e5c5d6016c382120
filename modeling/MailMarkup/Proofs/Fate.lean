import MailMarkup.Proofs.Tally
import MailMarkup.Proofs.Unresolved

namespace MailMarkup.Ledger

def Sole (events : List Event) (i : Nat) (event : Event) : Prop :=
  events.filter (·.concerns i) = [event]

theorem length_filter_concerns {tagged : List (Place × Tag)} {events : List Event}
    (h : ∀ event ∈ events, event.Holds tagged) (i : Nat) :
    (events.filter (·.concerns i)).length = (events.flatMap Event.positions).count i := by
  induction events with
  | nil => rfl
  | cons event events ih =>
    obtain ⟨he, hes⟩ := List.forall_mem_cons.mp h
    -- an event has no position twice
    have hone : [event].countP (·.concerns i) = event.positions.count i := by
      cases event with
      | resolved opener closer =>
        have hlt := he.1
        simp only [Event.concerns, Event.positions, List.countP_singleton, List.count_cons]
        grind
      | reported j f =>
        simp only [Event.concerns, Event.positions, List.countP_singleton, List.count_cons]
        grind
    rw [List.flatMap_cons, List.count_append, ← ih hes, ← hone, ← List.countP_eq_length_filter,
      ← List.countP_eq_length_filter, ← List.countP_append, List.singleton_append]

theorem sole_of_engaged {tagged : List (Place × Tag)} {i : Nat} (h : i ∈ engaged tagged) :
    ∃ event, Sole (fates tagged) i event ∧ event.concerns i = true ∧ event.Holds tagged := by
  have hlen := length_filter_concerns (fates_hold tagged) i
  rw [(fates_once tagged).count_eq, List.count_eq_one_of_mem (engaged_nodup tagged) h] at hlen
  obtain ⟨event, he⟩ := List.length_eq_one_iff.mp hlen
  have hmem : event ∈ (fates tagged).filter (·.concerns i) := by simp [he]
  obtain ⟨hin, hc⟩ := List.mem_filter.mp hmem
  exact ⟨event, he, hc, fates_hold tagged event hin⟩

theorem filter_concerns_of_not_mem {tagged : List (Place × Tag)} {i : Nat}
    (h : i ∉ engaged tagged) : (fates tagged).filter (·.concerns i) = [] := by
  have hlen := length_filter_concerns (fates_hold tagged) i
  rw [(fates_once tagged).count_eq, List.count_eq_zero_of_not_mem h] at hlen
  exact List.length_eq_zero_iff.mp hlen

def OpenerFate (tagged : List (Place × Tag)) (i : Nat) (place : Place) (tag : Tag) : Prop :=
  (∃ j closer, Sole (fates tagged) i (.resolved i j) ∧ i < j ∧ tagged[j]? = some closer ∧
    closer.2.closes = true ∧ closer.2.name = tag.name) ∨
  ∃ f, Sole (fates tagged) i (.reported i f) ∧
    (f.code = .unclosedBeforeClose ∨ f.code = .unclosedTag) ∧ f.errorTag = openText tag.name ∧
    f.lineNumber = place.number ∧ f.lineContent = place.content

def CloserFate (tagged : List (Place × Tag)) (j : Nat) (place : Place) (tag : Tag) : Prop :=
  (∃ i opener, Sole (fates tagged) j (.resolved i j) ∧ i < j ∧ tagged[i]? = some opener ∧
    opener.2.opens = true ∧ opener.2.name = tag.name) ∨
  ∃ f, Sole (fates tagged) j (.reported j f) ∧
    (f.code = .unexpectedClosingTag ∨ f.code = .mismatchedClosingTag) ∧
    f.errorTag = closeText tag.name ∧ f.lineNumber = place.number ∧ f.lineContent = place.content

section Fates

variable {tagged : List (Place × Tag)} {i : Nat} {place : Place} {tag : Tag}

theorem sole_cases (ht : tagged[i]? = some (place, tag)) (hn : tag.isNeutral = false) :
    (tag.opens = true ∧ ∃ j closer, Sole (fates tagged) i (.resolved i j) ∧ i < j ∧
      tagged[j]? = some closer ∧ closer.2.closes = true ∧ closer.2.name = tag.name) ∨
    (tag.closes = true ∧ ∃ j opener, Sole (fates tagged) i (.resolved j i) ∧ j < i ∧
      tagged[j]? = some opener ∧ opener.2.opens = true ∧ opener.2.name = tag.name) ∨
    ∃ f, Sole (fates tagged) i (.reported i f) ∧ f.Blames (place, tag) := by
  obtain ⟨event, hsole, hconcerns, hholds⟩ := sole_of_engaged (mem_engaged.mpr ⟨_, ht, hn⟩)
  cases event with
  | resolved a b =>
    obtain ⟨hlt, opener, closer, ha, hb, hopens, hcloses, hname⟩ := hholds
    have hab : i = a ∨ i = b := by simpa [Event.concerns, Event.positions] using hconcerns
    rcases hab with rfl | rfl
    · obtain rfl := Option.some.inj (ht.symm.trans ha)
      exact Or.inl ⟨hopens, b, closer, hsole, hlt, hb, hcloses, hname.symm⟩
    · obtain rfl := Option.some.inj (ht.symm.trans hb)
      exact Or.inr (Or.inl ⟨hcloses, a, opener, hsole, hlt, ha, hopens, hname⟩)
  | reported a f =>
    obtain ⟨t, ha, hblames⟩ := hholds
    obtain rfl : i = a := by simpa [Event.concerns, Event.positions] using hconcerns
    obtain rfl := Option.some.inj (ht.symm.trans ha)
    exact Or.inr (Or.inr ⟨f, hsole, hblames⟩)

theorem openerFate (ht : tagged[i]? = some (place, tag)) (ho : tag.opens = true) :
    OpenerFate tagged i place tag := by
  rcases sole_cases ht (Tag.isNeutral_of_opens ho) with ⟨-, h⟩ | ⟨hc, -⟩ | ⟨f, hsole, hblames⟩
  · exact Or.inl h
  · simp [Tag.opens_of_closes hc] at ho
  · obtain ⟨hcode, htag⟩ := hblames.of_opens ho
    exact Or.inr ⟨f, hsole, hcode, htag, hblames.place_eq⟩

theorem closerFate (ht : tagged[i]? = some (place, tag)) (hc : tag.closes = true) :
    CloserFate tagged i place tag := by
  rcases sole_cases ht (Tag.isNeutral_of_closes hc) with ⟨ho, -⟩ | ⟨-, h⟩ | ⟨f, hsole, hblames⟩
  · simp [Tag.opens_of_closes hc] at ho
  · exact Or.inl h
  · obtain ⟨hcode, htag⟩ := hblames.of_closes hc
    exact Or.inr ⟨f, hsole, hcode, htag, hblames.place_eq⟩

theorem neutralFate (ht : tagged[i]? = some (place, tag)) (hn : tag.isNeutral = true) :
    (fates tagged).filter (·.concerns i) = [] := by
  apply filter_concerns_of_not_mem
  intro hengaged
  obtain ⟨t, ht', hfalse⟩ := mem_engaged.mp hengaged
  obtain rfl := Option.some.inj (ht.symm.trans ht')
  simp [hn] at hfalse

end Fates

theorem feedAll_eq_unresolved {fed : List (Place × Tag)} (h : ∀ t ∈ fed, 1 ≤ t.1.number) :
    Stack.feedAll [] fed = (.ok ((history fed).1.filterMap Event.finding?),
      ((unresolved fed).map Entry.frame).reverse) := by
  rw [feedAll_eq_run h, run_eq_history, ← open_eq_unresolved]
  simp

theorem every_tag_has_one_fate (tagged : List (Place × Tag))
    (hplaced : ∀ t ∈ tagged, 1 ≤ t.1.number) :
    Stack.feedAndFinish tagged = (.ok (reports tagged), []) ∧
      (∀ i place tag, tagged[i]? = some (place, tag) →
        (tag.opens = true → OpenerFate tagged i place tag) ∧
        (tag.closes = true → CloserFate tagged i place tag) ∧
        (tag.isNeutral = true → (fates tagged).filter (·.concerns i) = [])) ∧
      tagged.countP (·.2.opens) = (fates tagged).countP Event.isResolved +
        (reports tagged).countP (·.code == .unclosedBeforeClose) +
        (reports tagged).countP (·.code == .unclosedTag) ∧
      tagged.countP (·.2.closes) = (fates tagged).countP Event.isResolved +
        (reports tagged).countP (·.code == .unexpectedClosingTag) +
        (reports tagged).countP (·.code == .mismatchedClosingTag) ∧
      ∀ fed, fed <+: tagged → (history fed).1 <+: fates tagged ∧
        Stack.feedAll [] fed = (.ok ((history fed).1.filterMap Event.finding?),
          ((unresolved fed).map Entry.frame).reverse) := by
  refine ⟨?_, ?_, ?_, ?_, ?_⟩
  · rw [← balance_eq_reports]
    exact (Stack.feedAndFinish_admits tagged).eq_ok (balance_placed hplaced)
  · intro i place tag ht
    exact ⟨openerFate ht, closerFate ht, neutralFate ht⟩
  · exact openers_count tagged
  · exact closers_count tagged
  · intro fed hfed
    exact ⟨history_grows hfed, feedAll_eq_unresolved fun t ht => hplaced t (hfed.subset ht)⟩

theorem open_cell_has_one_fate :
    let line : Place := ⟨1, "<table><td></table></p>"⟩
    let tagged : List (Place × Tag) := [(line, ⟨"table", false, ""⟩), (line, ⟨"td", false, ""⟩),
      (line, ⟨"table", true, ""⟩), (line, ⟨"p", true, ""⟩)]
    (∀ t ∈ tagged, 1 ≤ t.1.number) ∧
      Stack.feedAndFinish tagged =
        (.ok [Frame.unclosedBefore ⟨"td", line⟩ "table", line.unexpectedClosing "p"], []) ∧
      OpenerFate tagged 1 line ⟨"td", false, ""⟩ ∧ CloserFate tagged 3 line ⟨"p", true, ""⟩ := by
  intro line tagged
  have hplaced : ∀ t ∈ tagged, 1 ≤ t.1.number := by decide
  obtain ⟨hfound, hfates, -⟩ := every_tag_has_one_fate tagged hplaced
  exact ⟨hplaced, hfound, (hfates 1 _ _ rfl).1 (by decide), (hfates 3 _ _ rfl).2.1 (by decide)⟩

end MailMarkup.Ledger
