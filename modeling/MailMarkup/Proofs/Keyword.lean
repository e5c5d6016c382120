import MailMarkup.Attribute.Quoted
import MailMarkup.Proofs.Scan

namespace MailMarkup.Text

structure IsKeyword (word : List Char) : Prop where
  ne_nil : word ≠ []
  isLower : ∀ k ∈ word, k.isLower = true

instance (word : List Char) : Decidable (IsKeyword word) :=
  decidable_of_iff (word ≠ [] ∧ word.all Char.isLower = true)
    ⟨fun h => ⟨h.1, List.all_eq_true.mp h.2⟩, fun h => ⟨h.ne_nil, List.all_eq_true.mpr h.isLower⟩⟩

theorem code_of_isLower {k : Char} (h : k.isLower = true) : 97 ≤ k.toNat ∧ k.toNat ≤ 122 := by
  obtain ⟨hlow, hhigh⟩ := Bool.and_eq_true_iff.mp h
  exact ⟨UInt32.le_iff_toNat_le.mp (of_decide_eq_true hlow),
    UInt32.le_iff_toNat_le.mp (of_decide_eq_true hhigh)⟩

theorem toLower_of_isLower {k : Char} (h : k.isLower = true) : k.toLower = k := by
  apply dif_neg
  rintro ⟨-, hupper⟩
  have hle : k.toNat ≤ 90 := UInt32.le_iff_toNat_le.mp hupper
  have hge := (code_of_isLower h).1
  omega

theorem code_of_toLower {c : Char} (h : c.toLower.isLower = true) :
    65 ≤ c.toNat ∧ c.toNat ≤ 122 := by
  by_cases hc : c.val ≥ 'A'.val ∧ c.val ≤ 'Z'.val
  · have hle : 65 ≤ c.toNat := UInt32.le_iff_toNat_le.mp hc.1
    have hge : c.toNat ≤ 90 := UInt32.le_iff_toNat_le.mp hc.2
    omega
  · have hsame : c.toLower = c := dif_neg hc
    have hcode := code_of_isLower (hsame ▸ h)
    omega

theorem code_of_sameLetter {k c : Char} (hk : k.isLower = true) (h : sameLetter k c = true) :
    65 ≤ c.toNat ∧ c.toNat ≤ 122 ∨ c.toNat ∈ [0x17F, 0x212A, 0x130, 0x131] := by
  simp only [sameLetter, Bool.or_eq_true, Bool.and_eq_true, beq_iff_eq] at h
  rcases h with (((rfl | rfl) | ⟨-, rfl⟩) | ⟨-, rfl⟩) | ⟨-, rfl | rfl⟩
  · have hcode := code_of_isLower hk
    omega
  · exact Or.inl (code_of_toLower hk)
  all_goals exact Or.inr (by decide)

theorem sameLetter_eq_false {k c : Char} (hk : k.isLower = true)
    (hc : isBlank c = true ∨ c = '=' ∨ QuotedAttribute.isQuote c = true) :
    sameLetter k c = false := by
  rw [Bool.eq_false_iff]
  intro h
  have hcode := code_of_sameLetter hk h
  rcases hc with hblank | rfl | hquote
  · simp only [isBlank, Bool.or_eq_true, decide_eq_true_eq, beq_iff_eq] at hblank
    simp only [List.mem_cons, List.not_mem_nil, or_false] at hcode
    omega
  · revert hcode
    decide
  · simp only [QuotedAttribute.isQuote, Bool.or_eq_true, beq_iff_eq] at hquote
    rcases hquote with rfl | rfl
    all_goals
      revert hcode
      decide

theorem eq_of_sameLetter_mark {c : Char} (h : sameLetter '!' c = true) : c = '!' := by
  have hlower : c = '!' ∨ c.toLower = '!' := by simpa [sameLetter] using h
  rcases hlower with rfl | hlower
  · rfl
  · by_cases hc : c.val ≥ 'A'.val ∧ c.val ≤ 'Z'.val
    · have hcode : c.toNat ≤ 90 := UInt32.le_iff_toNat_le.mp hc.2
      revert hlower
      exact of_ascii (p := fun c => c.toLower = '!' → c = '!') (by decide +kernel) (by omega)
    · have hsame : c.toLower = c := dif_neg hc
      rw [← hsame, hlower]

def blankCodes : List Nat :=
  [9, 10, 11, 12, 13, 28, 29, 30, 31, 32, 0x85, 0xA0, 0x1680, 0x2000, 0x2001, 0x2002, 0x2003,
   0x2004, 0x2005, 0x2006, 0x2007, 0x2008, 0x2009, 0x200A, 0x2028, 0x2029, 0x202F, 0x205F, 0x3000]

theorem of_isBlank {p : Char → Prop} (h : ∀ n ∈ blankCodes, p (Char.ofNat n)) {c : Char}
    (hc : isBlank c = true) : p c := by
  have hmem : c.toNat ∈ blankCodes := by
    simp only [isBlank, Bool.or_eq_true, decide_eq_true_eq, beq_iff_eq] at hc
    simp only [blankCodes, List.mem_cons, List.not_mem_nil, or_false]
    omega
  have hcode := h c.toNat hmem
  rwa [Char.ofNat_toNat] at hcode

theorem isWord_of_isBlank {c : Char} (h : isBlank c = true) : isWord c = false :=
  of_isBlank (p := fun c => isWord c = false) (by decide +kernel) h

theorem isWord_of_sameLetter {k c : Char} (hk : k.isLower = true) (h : sameLetter k c = true) :
    isWord c = true := by
  have hlower : c.toLower.isLower = true → isWord c = true := by
    intro hc
    have hcode := (code_of_toLower hc).2
    revert hc
    exact of_ascii (p := fun c => c.toLower.isLower = true → isWord c = true) (by decide +kernel)
      (by omega)
  simp only [sameLetter, Bool.or_eq_true, Bool.and_eq_true, beq_iff_eq] at h
  rcases h with (((rfl | rfl) | ⟨-, rfl⟩) | ⟨-, rfl⟩) | ⟨-, rfl | rfl⟩
  · exact hlower (by rwa [toLower_of_isLower hk])
  · exact hlower hk
  all_goals decide +kernel

def letter (c : Char) : Char :=
  if c = '\u017F' then 's'
  else if c = '\u212A' then 'k'
  else if c = '\u0130' ∨ c = '\u0131' then 'i'
  else c.toLower

theorem letter_of_sameLetter {k c : Char} (hk : k.isLower = true) (h : sameLetter k c = true) :
    letter c = k := by
  have hascii {c : Char} (hc : c.toNat < 0x80) : letter c = c.toLower :=
    of_ascii (p := fun c => letter c = c.toLower) (by decide +kernel) hc
  simp only [sameLetter, Bool.or_eq_true, Bool.and_eq_true, beq_iff_eq] at h
  rcases h with (((rfl | rfl) | ⟨rfl, rfl⟩) | ⟨rfl, rfl⟩) | ⟨rfl, rfl | rfl⟩
  · have hcode := (code_of_isLower hk).2
    rw [hascii (by omega), toLower_of_isLower hk]
  · have hcode := (code_of_toLower hk).2
    exact hascii (by omega)
  all_goals decide

theorem keyword?_eq_none_of_head {word : List Char} (hword : IsKeyword word) {c : Char}
    (hc : isBlank c = true ∨ c = '=' ∨ QuotedAttribute.isQuote c = true) (cs : List Char) :
    keyword? word (c :: cs) = none := by
  obtain ⟨k, ks, rfl⟩ := List.exists_cons_of_ne_nil hword.ne_nil
  have hletter := sameLetter_eq_false (hword.isLower k List.mem_cons_self) hc
  rw [keyword?, hletter]
  rfl

theorem suffix_of_keyword? {word text rest written after : List Char} {quote : Char}
    (hword : ∀ k ∈ word, k.isLower = true) (hquote : QuotedAttribute.isQuote quote = true)
    (h : keyword? word (text ++ quote :: rest) = some (written, after)) :
    ∃ back, back <:+ text ∧ after = back ++ quote :: rest := by
  induction word generalizing text written with
  | nil =>
    obtain ⟨-, rfl⟩ := Prod.mk.inj (Option.some.inj h)
    exact ⟨text, List.suffix_rfl, rfl⟩
  | cons k ks ih =>
    have hks : ∀ k ∈ ks, k.isLower = true := fun k hk => hword k (List.mem_cons_of_mem _ hk)
    cases text with
    | nil =>
      have hletter := sameLetter_eq_false (hword k List.mem_cons_self) (Or.inr (Or.inr hquote))
      rw [List.nil_append, keyword?, hletter] at h
      cases h
    | cons c text =>
      rw [List.cons_append, keyword?] at h
      split at h
      · obtain ⟨⟨w, r⟩, hw, he⟩ := Option.map_eq_some_iff.mp h
        obtain ⟨-, rfl⟩ := Prod.mk.inj he
        obtain ⟨back, hback, rfl⟩ := ih hks hw
        exact ⟨back, hback.trans (List.suffix_cons c text), rfl⟩
      · cases h

end MailMarkup.Text
