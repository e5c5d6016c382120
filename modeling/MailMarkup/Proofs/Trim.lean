import MailMarkup.Proofs.Scan
import MailMarkup.Text.Blank

namespace MailMarkup.Text

theorem trimLeft_suffix_self (cs : List Char) : trimLeft cs <:+ cs := List.dropWhile_suffix _

theorem trimRight_prefix_self (cs : List Char) : trimRight cs <+: cs := by
  rw [← List.reverse_suffix, trimRight, List.reverse_reverse]
  exact List.dropWhile_suffix _

theorem infix_of_trim (cs : List Char) : trim cs <:+: cs :=
  (trimRight_prefix_self _).isInfix.trans (trimLeft_suffix_self cs).isInfix

theorem infix_trimLeft {part cs : List Char} (h : part <:+: cs)
    (hhead : ∀ c ∈ part.head?, isBlank c = false) : part <:+: trimLeft cs := by
  induction cs with
  | nil => exact h
  | cons c cs ih =>
    cases hc : isBlank c with
    | false =>
      rw [trimLeft, List.dropWhile_cons_of_neg (by simp [hc])]
      exact h
    | true =>
      rw [trimLeft, List.dropWhile_cons_of_pos hc]
      apply ih
      rcases List.infix_cons_iff.mp h with hfront | hbehind
      · cases part with
        | nil => exact List.nil_infix
        | cons d part =>
          obtain ⟨rfl, -⟩ := List.cons_prefix_cons.mp hfront
          rw [hhead d rfl] at hc
          cases hc
      · exact hbehind

theorem infix_trim {part cs : List Char} (h : part <:+: cs)
    (hhead : ∀ c ∈ part.head?, isBlank c = false)
    (hlast : ∀ c ∈ part.getLast?, isBlank c = false) : part <:+: trim cs := by
  have hleft := infix_trimLeft h hhead
  rw [← List.reverse_infix, trim, trimRight, List.reverse_reverse]
  apply infix_trimLeft (List.reverse_infix.mpr hleft)
  rwa [List.head?_reverse]

theorem mem_trim {c : Char} {cs : List Char} (h : c ∈ cs) (hc : isBlank c = false) :
    c ∈ trim cs := by
  have hpart : [c] <:+: trim cs := by
    apply infix_trim
    · obtain ⟨front, back, rfl⟩ := List.append_of_mem h
      exact ⟨front, back, by simp⟩
    · simpa using hc
    · simpa using hc
  exact hpart.subset List.mem_cons_self

theorem trim_ne_nil {c : Char} {cs : List Char} (h : c ∈ cs) (hc : isBlank c = false) :
    trim cs ≠ [] :=
  List.ne_nil_of_mem (mem_trim h hc)

theorem trim_append_back (cs : List Char) :
    trim cs ++ ((trimLeft cs).reverse.takeWhile isBlank).reverse = trimLeft cs := by
  rw [trim, trimRight, ← List.reverse_append, List.takeWhile_append_dropWhile,
    List.reverse_reverse]

theorem blanks_around_trim (cs : List Char) :
    ∃ front back, cs = front ++ (trim cs ++ back) ∧ (∀ c ∈ front, isBlank c = true) ∧
      ∀ c ∈ back, isBlank c = true := by
  refine ⟨cs.takeWhile isBlank, ((trimLeft cs).reverse.takeWhile isBlank).reverse, ?_, ?_, ?_⟩
  · rw [trim_append_back, trimLeft, List.takeWhile_append_dropWhile]
  · intro c hc
    exact List.mem_takeWhile_imp hc
  · intro c hc
    exact List.mem_takeWhile_imp (List.mem_reverse.mp hc)

theorem isBlank_of_head_trim {cs : List Char} : ∀ c ∈ (trim cs).head?, isBlank c = false := by
  intro c hc
  have hhead : c ∈ (trimLeft cs).head? := by
    rw [← trim_append_back, List.head?_append, Option.mem_def.mp hc]
    rfl
  exact head_dropWhile hhead

theorem trim_eq_self {cs : List Char} (hhead : ∀ c ∈ cs.head?, isBlank c = false)
    (hlast : ∀ c ∈ cs.getLast?, isBlank c = false) : trim cs = cs :=
  (infix_of_trim cs).eq_of_length_le (infix_trim List.infix_rfl hhead hlast).length_le

theorem isBlank_of_last_trim {cs : List Char} : ∀ c ∈ (trim cs).getLast?, isBlank c = false := by
  intro c hc
  rw [trim, trimRight, List.getLast?_reverse] at hc
  exact head_dropWhile hc

theorem trim_of_parts {front part back : List Char} (hfront : ∀ c ∈ front, isBlank c = true)
    (hback : ∀ c ∈ back, isBlank c = true) (hhead : ∀ c ∈ part.head?, isBlank c = false)
    (hlast : ∀ c ∈ part.getLast?, isBlank c = false) : trim (front ++ (part ++ back)) = part := by
  have hright : trimRight (part ++ back) = part := by
    have hrun : ∀ c ∈ back.reverse, isBlank c = true :=
      fun c hc => hback c (List.mem_reverse.mp hc)
    have hstop : ∀ c ∈ part.reverse.head?, isBlank c = false := by rwa [List.head?_reverse]
    rw [trimRight, List.reverse_append, (span_of_head hrun hstop).2, List.reverse_reverse]
  cases part with
  | nil =>
    have hleft : trimLeft (front ++ ([] ++ back)) = [] :=
      List.dropWhile_eq_nil_iff.mpr (List.forall_mem_append.mpr ⟨hfront, hback⟩)
    rw [trim, hleft]
    rfl
  | cons c part =>
    have hstop : ∀ d ∈ (c :: part ++ back).head?, isBlank d = false := hhead
    have hleft : trimLeft (front ++ (c :: part ++ back)) = c :: part ++ back :=
      (span_of_head hfront hstop).2
    rw [trim, hleft, hright]

theorem trim_padded {front back : List Char} (hfront : ∀ c ∈ front, isBlank c = true)
    (hback : ∀ c ∈ back, isBlank c = true) (cs : List Char) :
    trim (front ++ (cs ++ back)) = trim cs := by
  obtain ⟨left, right, hcs, hleft, hright⟩ := blanks_around_trim cs
  have hparts : front ++ (cs ++ back) = (front ++ left) ++ (trim cs ++ (right ++ back)) := by
    nth_rewrite 1 [hcs]
    simp
  rw [hparts]
  exact trim_of_parts (List.forall_mem_append.mpr ⟨hfront, hleft⟩)
    (List.forall_mem_append.mpr ⟨hright, hback⟩) isBlank_of_head_trim isBlank_of_last_trim

theorem trim_trimLeft (cs : List Char) : trim (trimLeft cs) = trim cs := by
  have hfront : ∀ c ∈ cs.takeWhile isBlank, isBlank c = true := fun _ => List.mem_takeWhile_imp
  have hpadded := trim_padded hfront (List.forall_mem_nil _) (trimLeft cs)
  rw [List.append_nil, trimLeft, List.takeWhile_append_dropWhile] at hpadded
  exact hpadded.symm

theorem trim_trimRight (cs : List Char) : trim (trimRight cs) = trim cs := by
  have hback : ∀ c ∈ (cs.reverse.takeWhile isBlank).reverse, isBlank c = true :=
    fun c hc => List.mem_takeWhile_imp (List.mem_reverse.mp hc)
  have hpadded := trim_padded (List.forall_mem_nil _) hback (trimRight cs)
  rw [List.nil_append, trimRight, ← List.reverse_append, List.takeWhile_append_dropWhile,
    List.reverse_reverse] at hpadded
  exact hpadded.symm

theorem trimLeft_append_cons {c : Char} (hc : isBlank c = false) (front back : List Char) :
    trimLeft (front ++ c :: back) = trimLeft front ++ c :: back := by
  induction front with
  | nil => simp [trimLeft, hc]
  | cons d front ih =>
    rw [List.cons_append, trimLeft, trimLeft, List.dropWhile_cons, List.dropWhile_cons]
    split
    · exact ih
    · rfl

theorem trimRight_append_cons {c : Char} (hc : isBlank c = false) (front back : List Char) :
    trimRight (front ++ c :: back) = front ++ c :: trimRight back := by
  have hleft := trimLeft_append_cons hc back.reverse front.reverse
  rw [trimLeft, trimLeft] at hleft
  rw [trimRight, List.reverse_append, List.reverse_cons, List.append_assoc, List.singleton_append,
    hleft, trimRight]
  simp

theorem trim_append_cons {c : Char} (hc : isBlank c = false) (front back : List Char) :
    trim (front ++ c :: back) = trimLeft front ++ c :: trimRight back := by
  rw [trim, trimLeft_append_cons hc, trimRight_append_cons hc]

theorem trim_trim (cs : List Char) : trim (trim cs) = trim cs :=
  trim_eq_self isBlank_of_head_trim isBlank_of_last_trim

end MailMarkup.Text
