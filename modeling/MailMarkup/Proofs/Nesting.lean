import MailMarkup.Proofs.Depth
import MailMarkup.Proofs.Reports

namespace MailMarkup

namespace Stack.Spans

variable {tagged : List (Place × Tag)} {i j i' j' : Nat}

theorem not_crossing (h : Spans tagged i j) (h' : Spans tagged i' j') :
    ¬(i < i' ∧ i' < j ∧ j < j') := by
  rintro ⟨hi, hij, hj⟩
  have hinner := h.deeper i' hi hij.le
  have hafter := h'.deeper (j + 1) (by omega) (by omega)
  have hback := h.back
  omega

theorem closer_unique (h : Spans tagged i j) (h' : Spans tagged i j') : ¬j < j' := by
  intro hj
  have hlt := h.lt
  have hafter := h'.deeper (j + 1) (by omega) (by omega)
  have hback := h.back
  omega

theorem opener_unique (h : Spans tagged i j) (h' : Spans tagged i' j) : ¬i < i' := by
  intro hi
  have hinner := h.deeper i' hi h'.lt.le
  have hback := h.back
  have hback' := h'.back
  omega

theorem closer_ne_opener (h : Spans tagged i j) (h' : Spans tagged i' j') : j ≠ i' := by
  rintro rfl
  have hinner := h.deeper j h.lt le_rfl
  have hafter := h'.deeper (j + 1) (by omega) h'.lt
  have hback := h.back
  omega

theorem eq_of_shared (h : Spans tagged i j) (h' : Spans tagged i' j')
    (hshared : i = i' ∨ i = j' ∨ j = i' ∨ j = j') : i = i' ∧ j = j' := by
  rcases hshared with rfl | heq | heq | rfl
  · have hle := h.closer_unique h'
    have hge := h'.closer_unique h
    omega
  · exact absurd heq.symm (h'.closer_ne_opener h)
  · exact absurd heq (h.closer_ne_opener h')
  · have hle := h.opener_unique h'
    have hge := h'.opener_unique h
    omega

end Stack.Spans

namespace Ledger

def Resolves (tagged : List (Place × Tag)) (i j : Nat) : Prop :=
  .resolved i j ∈ (history tagged).1

variable {tagged : List (Place × Tag)} {i j k n : Nat}

theorem resolves_iff_spans : Resolves tagged i j ↔ Stack.Spans tagged i j :=
  ⟨spans_of_resolved, resolved_of_spans⟩

theorem code_ne_of_reported {f : Finding} (h : .reported i f ∈ (history tagged).1) :
    f.code ≠ .unclosedTag := by
  have hfound : f ∈ (Stack.run [] tagged).1 := by
    rw [run_eq_history]
    exact List.mem_filterMap.mpr ⟨_, h, rfl⟩
  obtain ⟨stack, t, -, hf⟩ := exists_step_of_mem_trace hfound
  exact Stack.code_ne_of_mem_settle hf

theorem not_open_inside (h : Resolves tagged i j) (hik : i < k) (hkj : k < j)
    (hn : j < n) : ∀ entry ∈ openAfter tagged n, entry.position ≠ k := by
  rintro entry hopen rfl
  have hspans := resolves_iff_spans.mp h
  have hkj' : entry.position < j + 1 := by omega
  have hlast := mem_openAfter_of_le hopen hkj' hn
  have hlength := (cons_suffix_of_mem hkj' hlast).length_le
  rw [List.length_cons, length_openAfter, length_openAfter] at hlength
  have hdeeper := hspans.deeper entry.position hik hkj.le
  have hback := hspans.back
  omega

theorem settled_inside {t : Place × Tag} (h : Resolves tagged i j) (hik : i < k) (hkj : k < j)
    (ht : tagged[k]? = some t) (ho : t.2.opens = true) :
    (∃ l, k < l ∧ l < j ∧ Resolves tagged k l) ∨
      ∃ name, .reported k (Frame.unclosedBefore ⟨t.2.name, t.1⟩ name) ∈
        (history (tagged.take (j + 1))).1 := by
  have htake : (tagged.take (j + 1))[k]? = some t := by
    rw [List.getElem?_take_of_lt (by omega), ht]
  have hclosed : (⟨k, ⟨t.2.name, t.1⟩⟩ : Entry) ∉ openAfter tagged (j + 1) :=
    fun hopen => not_open_inside h hik hkj (Nat.lt_succ_self j) _ hopen rfl
  have hevent : k ∈ (history (tagged.take (j + 1))).1.flatMap Event.positions := by
    by_contra hfree
    exact hclosed (mem_open_iff.mpr ⟨⟨t, htake, ho, rfl⟩, hfree⟩)
  obtain ⟨event, he, hposition⟩ := List.mem_flatMap.mp hevent
  have hholds := (history_accounted (tagged.take (j + 1))).holds event he
  cases event with
  | resolved a b =>
    obtain ⟨hab, opener, closer, -, hb, -, hc, -⟩ := hholds
    have hor : k = a ∨ k = b := by simpa [Event.positions] using hposition
    rcases hor with rfl | rfl
    · have hresolves : Resolves tagged k b :=
        (history_mono (List.take_prefix (j + 1) tagged)).subset he
      have hbj : b ≠ j := by
        rintro rfl
        have hsame := (resolves_iff_spans.mp h).eq_of_shared (resolves_iff_spans.mp hresolves)
          (by simp)
        omega
      have hlt := (List.getElem?_eq_some_iff.mp hb).1
      rw [List.length_take] at hlt
      exact Or.inl ⟨b, hab, by omega, hresolves⟩
    · obtain rfl := Option.some.inj (htake.symm.trans hb)
      simp [Tag.opens_of_closes hc] at ho
  | reported a f =>
    obtain ⟨t', ha, hblames⟩ := hholds
    obtain rfl : k = a := by simpa [Event.positions] using hposition
    obtain rfl := Option.some.inj (htake.symm.trans ha)
    rcases hblames with ⟨-, ⟨name, rfl⟩ | rfl⟩ | ⟨hc, -⟩
    · exact Or.inr ⟨name, he⟩
    · exact absurd rfl (code_ne_of_reported he)
    · simp [Tag.opens_of_closes hc] at ho

/-- The pairs are a non-crossing matching of opening with closing tags, and an opening tag inside a
pair is settled inside it. -/
structure Nests (tagged : List (Place × Tag)) (pairs : Nat → Nat → Prop) : Prop where
  ordered : ∀ {i j}, pairs i j → i < j
  same_name : ∀ {i j}, pairs i j → ∃ opener closer, tagged[i]? = some opener ∧
    tagged[j]? = some closer ∧ opener.2.opens = true ∧ closer.2.closes = true ∧
    opener.2.name = closer.2.name
  sole : ∀ {i j i' j'}, pairs i j → pairs i' j' → i = i' ∨ i = j' ∨ j = i' ∨ j = j' →
    i = i' ∧ j = j'
  uncrossed : ∀ {i j i' j'}, pairs i j → pairs i' j' → ¬(i < i' ∧ i' < j ∧ j < j')
  inside : ∀ {i j k t}, pairs i j → i < k → k < j → tagged[k]? = some t → t.2.opens = true →
    (∃ l, k < l ∧ l < j ∧ pairs k l) ∨
      ∃ name, .reported k (Frame.unclosedBefore ⟨t.2.name, t.1⟩ name) ∈
        (history (tagged.take (j + 1))).1
  off_stack : ∀ {i j k n}, pairs i j → i < k → k < j → j < n →
    ∀ entry ∈ openAfter tagged n, entry.position ≠ k

theorem silent_resolutions_nest (tagged : List (Place × Tag)) :
    (∀ n, Stack.run [] (tagged.take n) =
      ((history (tagged.take n)).1.filterMap Event.finding?,
        (openAfter tagged n).map Entry.frame)) ∧
      ((∀ t ∈ tagged, 1 ≤ t.1.number) → ∀ n, Stack.feedAll [] (tagged.take n) =
        (.ok (Stack.run [] (tagged.take n)).1, (Stack.run [] (tagged.take n)).2)) ∧
      (∀ i j, Resolves tagged i j ↔ Stack.Spans tagged i j) ∧
      Nests tagged (Resolves tagged) := by
  refine ⟨fun n => run_eq_history _, ?_, fun i j => resolves_iff_spans, ?_⟩
  · intro hplaced n
    exact feedAll_eq_run fun t ht => hplaced t (List.mem_of_mem_take ht)
  · exact {
      ordered := fun h => (resolves_iff_spans.mp h).lt
      same_name := fun h => ((history_accounted tagged).holds _ h).2
      sole := fun h h' => (resolves_iff_spans.mp h).eq_of_shared (resolves_iff_spans.mp h')
      uncrossed := fun h h' => (resolves_iff_spans.mp h).not_crossing (resolves_iff_spans.mp h')
      inside := settled_inside
      off_stack := not_open_inside }

theorem bold_nests_beside_an_open_cell :
    let line : Place := ⟨2, "<table><td><b></b></table>"⟩
    let cell : Place × Tag := (line, ⟨"td", false, ""⟩)
    let tagged : List (Place × Tag) := [(line, ⟨"table", false, ""⟩), cell,
      (line, ⟨"b", false, ""⟩), (line, ⟨"b", true, ""⟩), (line, ⟨"table", true, ""⟩)]
    (∀ t ∈ tagged, 1 ≤ t.1.number) ∧
      Stack.feedAll [] (tagged.take 5) = (.ok [Frame.unclosedBefore ⟨"td", line⟩ "table"], []) ∧
      Resolves tagged 0 4 ∧ Resolves tagged 2 3 ∧ ¬(0 < 2 ∧ 2 < 4 ∧ 4 < 3) ∧
      tagged[1]? = some cell ∧ cell.2.opens = true ∧
      ((∃ l, 1 < l ∧ l < 4 ∧ Resolves tagged 1 l) ∨
        ∃ name, .reported 1 (Frame.unclosedBefore ⟨"td", line⟩ name) ∈
          (history (tagged.take 5)).1) := by
  intro line cell tagged
  have hplaced : ∀ t ∈ tagged, 1 ≤ t.1.number := by decide
  have htable : Event.resolved 0 4 ∈ (history tagged).1 := by decide +kernel
  have hbold : Event.resolved 2 3 ∈ (history tagged).1 := by decide +kernel
  have hrun : Stack.run [] (tagged.take 5) =
      ([Frame.unclosedBefore ⟨"td", line⟩ "table"], []) := by
    decide +kernel
  have ho : cell.2.opens = true := by decide
  obtain ⟨-, hfeed, -, hnests⟩ := silent_resolutions_nest tagged
  refine ⟨hplaced, ?_, htable, hbold, hnests.uncrossed htable hbold, rfl, ho,
    hnests.inside htable (by decide) (by decide) rfl ho⟩
  rw [hfeed hplaced 5, hrun]

end Ledger

end MailMarkup
