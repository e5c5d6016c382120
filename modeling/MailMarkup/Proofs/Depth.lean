import MailMarkup.Proofs.Unresolved

namespace MailMarkup

namespace Stack

def depthAfter (tagged : List (Place × Tag)) (k : Nat) : Nat :=
  (Stack.run [] (tagged.take k)).2.length

/-- The tag at `i` makes the stack deeper, it stays so up to the tag at `j`, and this one takes it
back to where it was. -/
structure Spans (tagged : List (Place × Tag)) (i j : Nat) : Prop where
  lt : i < j
  lt_length : j < tagged.length
  deeper : ∀ k, i < k → k ≤ j → depthAfter tagged i < depthAfter tagged k
  back : depthAfter tagged (j + 1) = depthAfter tagged i

end Stack

namespace Ledger

section Step

variable {position : Nat} {place : Place} {tag : Tag} {entries left : List Entry}
  {new : List Event}

theorem Step.of_resolved {i j : Nat} (h : Step position place tag entries new left)
    (hmem : .resolved i j ∈ new) :
    j = position ∧ ∃ entry, entry :: left <:+ entries ∧ entry.position = i := by
  cases h with
  | neutral _ _ => simp at hmem
  | opened _ _ => simp at hmem
  | unexpected _ => simp at hmem
  | mismatched _ _ _ _ => simp at hmem
  | matched above entry _ _ _ _ =>
    obtain ⟨rfl, rfl⟩ : i = entry.position ∧ j = position := by
      simpa [Entry.unclosedBefore] using hmem
    exact ⟨rfl, entry, List.suffix_append above _, rfl⟩

theorem Step.shape (h : Step position place tag entries new left) :
    left = entries ∨ (∃ frame, left = ⟨position, frame⟩ :: entries) ∨
      ∃ entry, entry :: left <:+ entries ∧ .resolved entry.position position ∈ new := by
  cases h with
  | neutral _ _ => exact Or.inl rfl
  | opened _ _ => exact Or.inr (Or.inl ⟨_, rfl⟩)
  | unexpected _ => exact Or.inl rfl
  | mismatched _ _ _ _ => exact Or.inl rfl
  | matched above entry _ _ _ _ =>
    exact Or.inr (Or.inr ⟨entry, List.suffix_append above _, by simp⟩)

end Step

def openAfter (tagged : List (Place × Tag)) (k : Nat) : List Entry := (history (tagged.take k)).2

variable {tagged : List (Place × Tag)} {i j k : Nat}

theorem length_openAfter (tagged : List (Place × Tag)) (k : Nat) :
    (openAfter tagged k).length = Stack.depthAfter tagged k := by
  simp [openAfter, Stack.depthAfter, run_eq_history]

theorem step_at {place : Place} {tag : Tag} (h : tagged[k]? = some (place, tag)) :
    ∃ new, Step k place tag (openAfter tagged k) new (openAfter tagged (k + 1)) ∧
      (history (tagged.take (k + 1))).1 = (history (tagged.take k)).1 ++ new := by
  have hlength : (tagged.take k).length = k := by
    have hk := (List.getElem?_eq_some_iff.mp h).1
    simp only [List.length_take]
    omega
  have htake : tagged.take (k + 1) = tagged.take k ++ [(place, tag)] := by
    rw [List.take_add_one, h]
    rfl
  refine ⟨(step (openAfter tagged k) ((place, tag), k)).1, ?_, ?_⟩
  · rw [openAfter.eq_def tagged (k + 1), htake, history_append, hlength]
    exact Step.of_step (openAfter tagged k) place tag k
  · rw [htake, history_append, hlength]
    rfl

theorem exists_step_of_mem_history {event : Event} (h : event ∈ (history tagged).1) :
    ∃ k place tag new, tagged[k]? = some (place, tag) ∧
      Step k place tag (openAfter tagged k) new (openAfter tagged (k + 1)) ∧ event ∈ new := by
  have hupto : ∀ n, event ∈ (history (tagged.take n)).1 → ∃ k place tag new,
      tagged[k]? = some (place, tag) ∧
      Step k place tag (openAfter tagged k) new (openAfter tagged (k + 1)) ∧ event ∈ new := by
    intro n
    induction n with
    | zero => simp [history]
    | succ n ih =>
      intro hn
      cases ht : tagged[n]? with
      | none =>
        rw [List.take_add_one, ht, Option.toList_none, List.append_nil] at hn
        exact ih hn
      | some t =>
        obtain ⟨new, hstep, hevents⟩ := step_at ht
        rw [hevents, List.mem_append] at hn
        rcases hn with hold | hnew
        · exact ih hold
        · exact ⟨n, t.1, t.2, new, ht, hstep, hnew⟩
  exact hupto tagged.length (by rwa [List.take_length])

theorem open_shape (tagged : List (Place × Tag)) (k : Nat) :
    openAfter tagged (k + 1) = openAfter tagged k ∨
      (∃ frame, openAfter tagged (k + 1) = ⟨k, frame⟩ :: openAfter tagged k) ∨
      ∃ entry, entry :: openAfter tagged (k + 1) <:+ openAfter tagged k ∧
        .resolved entry.position k ∈ (history tagged).1 := by
  cases ht : tagged[k]? with
  | none =>
    left
    rw [openAfter, List.take_add_one, ht, Option.toList_none, List.append_nil, openAfter]
  | some t =>
    obtain ⟨new, hstep, hevents⟩ := step_at ht
    have hnew : ∀ event ∈ new, event ∈ (history tagged).1 := by
      intro event he
      apply (history_mono (List.take_prefix (k + 1) tagged)).subset
      rw [hevents]
      exact List.mem_append_right _ he
    rcases hstep.shape with hsame | hpush | ⟨entry, hpop, hresolved⟩
    · exact Or.inl hsame
    · exact Or.inr (Or.inl hpush)
    · exact Or.inr (Or.inr ⟨entry, hpop, hnew _ hresolved⟩)

theorem pushed_of_depth_lt (h : Stack.depthAfter tagged k < Stack.depthAfter tagged (k + 1)) :
    ∃ frame, openAfter tagged (k + 1) = ⟨k, frame⟩ :: openAfter tagged k := by
  rw [← length_openAfter, ← length_openAfter] at h
  rcases open_shape tagged k with hsame | hpush | ⟨entry, hpop, -⟩
  · rw [hsame] at h
    omega
  · exact hpush
  · have hlength := hpop.length_le
    rw [List.length_cons] at hlength
    omega

theorem popped_of_depth_lt (h : Stack.depthAfter tagged (k + 1) < Stack.depthAfter tagged k) :
    ∃ entry, entry :: openAfter tagged (k + 1) <:+ openAfter tagged k ∧
      .resolved entry.position k ∈ (history tagged).1 := by
  rw [← length_openAfter, ← length_openAfter] at h
  rcases open_shape tagged k with hsame | ⟨frame, hpush⟩ | hpop
  · rw [hsame] at h
    omega
  · rw [hpush, List.length_cons] at h
    omega
  · exact hpop

theorem lt_of_mem_openAfter {entry : Entry} (h : entry ∈ openAfter tagged k) :
    entry.position < k := by
  have hlt := ((history_accounted (tagged.take k)).stands entry h).lt
  rw [List.length_take] at hlt
  omega

theorem mem_openAfter_of_le {entry : Entry} (h : entry ∈ openAfter tagged j)
    (hk : entry.position < k) (hkj : k ≤ j) : entry ∈ openAfter tagged k := by
  obtain ⟨⟨t, ht, hframe⟩, hfree⟩ := mem_open_iff.mp h
  apply mem_open_iff.mpr
  constructor
  · rw [List.getElem?_take_of_lt (by omega)] at ht
    exact ⟨t, by rw [List.getElem?_take_of_lt hk, ht], hframe⟩
  · intro hmem
    obtain ⟨event, hevent, hposition⟩ := List.mem_flatMap.mp hmem
    have hgrow := history_mono (List.take_prefix_take_left (l := tagged) hkj)
    exact hfree (List.mem_flatMap.mpr ⟨event, hgrow.subset hevent, hposition⟩)

theorem suffix_of_depth (hij : i ≤ j)
    (h : ∀ k, i ≤ k → k ≤ j → Stack.depthAfter tagged i ≤ Stack.depthAfter tagged k) :
    openAfter tagged i <:+ openAfter tagged j := by
  induction j, hij using Nat.le_induction with
  | base => exact List.suffix_refl _
  | succ j hij ih =>
    have hsuffix := ih fun k hik hkj => h k hik (by omega)
    rcases open_shape tagged j with hsame | ⟨frame, hpush⟩ | ⟨entry, hpop, -⟩
    · rwa [hsame]
    · rw [hpush]
      exact hsuffix.trans (List.suffix_cons _ _)
    · apply List.suffix_of_suffix_length_le hsuffix ((List.suffix_cons _ _).trans hpop)
      rw [length_openAfter, length_openAfter]
      exact h (j + 1) (by omega) le_rfl

theorem cons_suffix_of_mem {entry : Entry} (hij : entry.position + 1 ≤ j)
    (h : entry ∈ openAfter tagged j) :
    entry :: openAfter tagged entry.position <:+ openAfter tagged j := by
  have hfresh : entry ∉ openAfter tagged entry.position :=
    fun hmem => Nat.lt_irrefl _ (lt_of_mem_openAfter hmem)
  induction j, hij using Nat.le_induction with
  | base =>
    rcases open_shape tagged entry.position with hsame | ⟨frame, hpush⟩ | ⟨top, hpop, -⟩
    · rw [hsame] at h
      exact absurd h hfresh
    · rw [hpush, List.mem_cons] at h
      rcases h with heq | hmem
      · rw [← heq] at hpush
        exact hpush ▸ List.suffix_refl _
      · exact absurd hmem hfresh
    · exact absurd (hpop.subset (List.mem_cons_of_mem _ h)) hfresh
  | succ j hij ih =>
    have hsuffix := ih (mem_openAfter_of_le h hij (Nat.le_succ j))
    rcases open_shape tagged j with hsame | ⟨frame, hpush⟩ | ⟨top, hpop, -⟩
    · rwa [hsame]
    · rw [hpush]
      exact hsuffix.trans (List.suffix_cons _ _)
    · -- a stack cut below the entry would not have it any more
      have hlast := (List.suffix_cons _ _).trans hpop
      rcases List.suffix_or_suffix_of_suffix hsuffix hlast with hdone | hshort
      · exact hdone
      · rcases List.suffix_cons_iff.mp hshort with heq | hbelow
        · exact heq ▸ List.suffix_refl _
        · exact absurd (hbelow.subset h) hfresh

theorem eq_of_cons_suffix {α : Type} {a : α} {as bs cs : List α} (has : a :: as <:+ cs)
    (hbs : a :: bs <:+ cs) (ha : a ∉ as) (hb : a ∉ bs) : as = bs := by
  rcases List.suffix_or_suffix_of_suffix has hbs with hsuffix | hsuffix
  · rcases List.suffix_cons_iff.mp hsuffix with heq | hinner
    · exact (List.cons.inj heq).2
    · exact absurd (hinner.subset List.mem_cons_self) hb
  · rcases List.suffix_cons_iff.mp hsuffix with heq | hinner
    · exact (List.cons.inj heq).2.symm
    · exact absurd (hinner.subset List.mem_cons_self) ha

theorem popped_of_resolved (h : .resolved i j ∈ (history tagged).1) :
    j < tagged.length ∧ ∃ entry, entry :: openAfter tagged (j + 1) <:+ openAfter tagged j ∧
      entry.position = i := by
  obtain ⟨k, place, tag, new, ht, hstep, hmem⟩ := exists_step_of_mem_history h
  obtain ⟨rfl, hpop⟩ := hstep.of_resolved hmem
  exact ⟨(List.getElem?_eq_some_iff.mp ht).1, hpop⟩

theorem spans_of_resolved (h : .resolved i j ∈ (history tagged).1) : Stack.Spans tagged i j := by
  obtain ⟨hj, entry, hpop, rfl⟩ := popped_of_resolved h
  have hmem : entry ∈ openAfter tagged j := hpop.subset List.mem_cons_self
  have hlt := lt_of_mem_openAfter hmem
  have hdeep : ∀ k, entry.position < k → k ≤ j →
      entry :: openAfter tagged entry.position <:+ openAfter tagged k :=
    fun k hik hkj => cons_suffix_of_mem hik (mem_openAfter_of_le hmem hik hkj)
  refine ⟨hlt, hj, ?_, ?_⟩
  · intro k hik hkj
    have hlength := (hdeep k hik hkj).length_le
    rwa [List.length_cons, length_openAfter, length_openAfter] at hlength
  · have hordered := (history_accounted (tagged.take j)).ordered.sublist hpop.sublist
    have hbelow := (List.pairwise_cons.mp hordered).1
    have heq : openAfter tagged (j + 1) = openAfter tagged entry.position := by
      apply eq_of_cons_suffix hpop (hdeep j hlt le_rfl)
      · exact fun hopen => Nat.lt_irrefl _ (hbelow entry hopen)
      · exact fun hopen => Nat.lt_irrefl _ (lt_of_mem_openAfter hopen)
    rw [← length_openAfter, heq, length_openAfter]

theorem resolved_of_spans (h : Stack.Spans tagged i j) : .resolved i j ∈ (history tagged).1 := by
  obtain ⟨frame, hpush⟩ := pushed_of_depth_lt (h.deeper (i + 1) (Nat.lt_succ_self i) h.lt)
  have hdepth : Stack.depthAfter tagged (i + 1) = Stack.depthAfter tagged i + 1 := by
    rw [← length_openAfter, hpush, List.length_cons, length_openAfter]
  have hshallower : Stack.depthAfter tagged (j + 1) < Stack.depthAfter tagged j := by
    rw [h.back]
    exact h.deeper j h.lt le_rfl
  obtain ⟨entry, hpop, hresolved⟩ := popped_of_depth_lt hshallower
  have hsuffix : openAfter tagged (i + 1) <:+ openAfter tagged j := by
    apply suffix_of_depth h.lt
    intro k hik hkj
    rw [hdepth]
    exact h.deeper k hik hkj
  -- both lists end the stack before `j` and are equally long
  have hlength : (entry :: openAfter tagged (j + 1)).length =
      (openAfter tagged (i + 1)).length := by
    rw [List.length_cons, length_openAfter, length_openAfter, h.back, hdepth]
  have heq := (List.suffix_of_suffix_length_le hpop hsuffix hlength.le).eq_of_length hlength
  rw [hpush] at heq
  obtain ⟨rfl, -⟩ := List.cons.inj heq
  exact hresolved

end Ledger

end MailMarkup
