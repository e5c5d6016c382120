import MailMarkup.Color.Parse
import MailMarkup.Proofs.Excerpts

namespace MailMarkup

namespace Text

theorem lower_eq_self {cs : List Char} (h : ∀ c ∈ cs, c.toNat < 0x80 ∧ c.isUpper = false) :
    lower cs = cs := by
  induction cs with
  | nil => rfl
  | cons c cs ih =>
    obtain ⟨hascii, hsmall⟩ := h c List.mem_cons_self
    have hc : c.toLower = c := dif_neg (of_decide_eq_false hsmall)
    have hrest := ih fun d hd => h d (List.mem_cons_of_mem c hd)
    rw [← List.singleton_append, lower_append, hrest, lower, List.flatMap_singleton,
      lowerChar_ascii hascii, hc]

theorem digit?_of_isDigit {c : Char} (h : c.isDigit = true) : digit? c = some (c.toNat - 48) :=
  if_pos h

theorem isDigit_of_isDigit {c : Char} (h : c.isDigit = true) : isDigit c = true := by
  rw [isDigit, digit?_of_isDigit h, Option.isSome_some]

theorem isBlank_of_isDigit {c : Char} (h : c.isDigit = true) : isBlank c = false := by
  have hcode : 48 ≤ c.toNat ∧ c.toNat ≤ 57 := Char.isDigit_iff_toNat.mp h
  simp only [isBlank, Bool.or_eq_false_iff, decide_eq_false_iff_not, beq_eq_false_iff_ne]
  omega

theorem isSmall_of_isDigit {c : Char} (h : c.isDigit = true) :
    c.toNat < 0x80 ∧ c.isUpper = false := by
  have hcode : 48 ≤ c.toNat ∧ c.toNat ≤ 57 := Char.isDigit_iff_toNat.mp h
  refine ⟨by omega, decide_eq_false ?_⟩
  intro hupper
  have hle : 65 ≤ c.toNat := UInt32.le_iff_toNat_le.mp hupper.1
  omega

theorem number_eq_ofDigitChars {ds : List Char} (h : ∀ d ∈ ds, d.isDigit = true) :
    number ds = Nat.ofDigitChars 10 ds 0 := by
  rw [number, Nat.ofDigitChars_eq_foldl]
  apply List.foldl_ext
  intro n d hd
  rw [digit?_of_isDigit (h d hd)]
  rfl

end Text

section Numeral

variable (n : Nat)

theorem isDigit_numeral : ∀ d ∈ Nat.toDigits 10 n, d.isDigit = true :=
  fun _ hd => Nat.isDigit_of_mem_toDigits (by decide) (by decide) hd

theorem number_numeral : Text.number (Nat.toDigits 10 n) = n := by
  rw [Text.number_eq_ofDigitChars (isDigit_numeral n), Nat.ofDigitChars_ten_toDigits]

theorem span_numeral (back : List Char) (hback : ∀ c ∈ back.head?, Text.isDigit c = false) :
    (Nat.toDigits 10 n ++ back).takeWhile Text.isDigit = Nat.toDigits 10 n ∧
      (Nat.toDigits 10 n ++ back).dropWhile Text.isDigit = back :=
  span_of_head (fun d hd => Text.isDigit_of_isDigit (isDigit_numeral n d hd)) hback

theorem head_numeral (back : List Char) :
    ∀ c ∈ (Nat.toDigits 10 n ++ back).head?, c.isDigit = true := by
  intro c hc
  obtain ⟨d, ds, hds⟩ := List.exists_cons_of_ne_nil (Nat.toDigits_ne_nil (n := n) (b := 10))
  rw [hds] at hc
  apply isDigit_numeral n
  rw [hds, ← Option.some.inj hc]
  exact List.mem_cons_self

end Numeral

namespace Rgb

def leading (n : Nat) : Nat := if n < 1000 then n else leading (n / 10)

theorem leading_of_lt {n : Nat} (h : n < 1000) : leading n = n := by
  rw [leading, if_pos h]

theorem number_take_numeral (n : Nat) : Text.number ((Nat.toDigits 10 n).take 3) = leading n := by
  fun_induction leading n with
  | case1 n h =>
    have hshort : (Nat.toDigits 10 n).length ≤ 3 :=
      (Nat.length_toDigits_le_iff (by decide) (by decide)).mpr h
    rw [List.take_of_length_le hshort, number_numeral]
  | case2 n h ih =>
    have hlong : 3 ≤ (Nat.toDigits 10 (n / 10)).length := by
      have hiff : (Nat.toDigits 10 (n / 10)).length ≤ 2 ↔ n / 10 < 10 ^ 2 :=
        Nat.length_toDigits_le_iff (by decide) (by decide)
      omega
    rw [Nat.toDigits_of_base_le (by decide) (by omega), List.take_append_of_le_length hlong, ih]

theorem channel?_numeral (n : Nat) {back : List Char}
    (hback : ∀ c ∈ back.head?, Text.isDigit c = false) :
    channel? (Nat.toDigits 10 n ++ back) = if n < 1000 then some (n, back) else none := by
  obtain ⟨htake, hdrop⟩ := span_numeral n back hback
  have hlength : (Nat.toDigits 10 n).length ≤ 3 ↔ n < 10 ^ 3 :=
    Nat.length_toDigits_le_iff (by decide) (by decide)
  have hempty : (Nat.toDigits 10 n).isEmpty = false := by simp [Nat.toDigits_ne_nil]
  simp only [channel?, htake, hdrop, number_numeral, hempty, Bool.false_or, decide_eq_true_eq]
  by_cases h : n < 1000
  · rw [if_neg (by omega), if_pos h]
  · rw [if_pos (by omega), if_neg h]

theorem separator?_numeral (n : Nat) (back : List Char) :
    separator? (',' :: ' ' :: (Nat.toDigits 10 n ++ back)) = some (Nat.toDigits 10 n ++ back) := by
  have hdigit : ∀ c ∈ (Nat.toDigits 10 n ++ back).head?, (!Text.isDigit c) = false := by
    intro c hc
    rw [Text.isDigit_of_isDigit (head_numeral n back c hc), Bool.not_true]
  have hgap : ∀ c ∈ [',', ' '], (!Text.isDigit c) = true := List.all_eq_true.mp rfl
  obtain ⟨htake, hdrop⟩ := span_of_head hgap hdigit
  simp only [List.cons_append, List.nil_append] at htake hdrop
  rw [separator?, htake, hdrop, if_pos (by decide)]

theorem lastChannel?_numeral (n : Nat) :
    lastChannel? (Nat.toDigits 10 n ++ [')']) = some (leading n) := by
  have hback : ∀ c ∈ [')'].head?, Text.isDigit c = false := by
    rintro c ⟨⟩
    decide
  obtain ⟨htake, -⟩ := span_numeral n [')'] hback
  have hempty : ((Nat.toDigits 10 n).take 3).isEmpty = false := by simp [Nat.toDigits_ne_nil]
  have hparen : ((Nat.toDigits 10 n ++ [')']).drop ((Nat.toDigits 10 n).take 3).length).dropWhile
      (· != ')') = [')'] := by
    have hfree : ')' ∉ (Nat.toDigits 10 n).drop ((Nat.toDigits 10 n).take 3).length := by
      intro hmem
      exact absurd (isDigit_numeral n _ (List.mem_of_mem_drop hmem)) (by decide)
    rw [List.drop_append_of_le_length (List.length_take_le' _ _)]
    exact (span_at hfree []).2
  simp only [lastChannel?, htake, hempty, hparen, number_take_numeral, bne_self_eq_false,
    Bool.or_self, Bool.false_eq_true, ↓reduceIte]

def inside (r g b : Nat) : List Char :=
  Nat.toDigits 10 r ++ ',' :: ' ' ::
    (Nat.toDigits 10 g ++ ',' :: ' ' :: (Nat.toDigits 10 b ++ [')']))

theorem channels?_inside (r g b : Nat) :
    channels? (inside r g b) =
      if r < 1000 ∧ g < 1000 then some (r, g, leading b) else none := by
  have hblank : (inside r g b).dropWhile Text.isBlank = inside r g b := by
    have hhead : ∀ c ∈ (inside r g b).head?, Text.isBlank c = false :=
      fun c hc => Text.isBlank_of_isDigit (head_numeral r _ c hc)
    exact (span_of_head (List.forall_mem_nil _) hhead).2
  have hcomma : ∀ rest, ∀ c ∈ (',' :: ' ' :: rest).head?, Text.isDigit c = false := by
    rintro rest c ⟨⟩
    decide
  rw [channels?, hblank, inside, channel?_numeral r (hcomma _)]
  by_cases hr : r < 1000
  · simp only [hr, ↓reduceIte, Option.bind_eq_bind, Option.bind_some, separator?_numeral,
      channel?_numeral g (hcomma _), true_and]
    by_cases hg : g < 1000
    · simp [hg, separator?_numeral, lastChannel?_numeral]
    · simp [hg]
  · simp [hr]

theorem ofFunction?_inside (r g b : Nat) :
    ofFunction? ('r' :: 'g' :: 'b' :: '(' :: inside r g b) =
      if r ≤ 255 ∧ g ≤ 255 ∧ leading b ≤ 255 then some ⟨r, g, leading b⟩ else none := by
  have hstart : (["rgb(", "rgba("].findSome? fun start =>
      if start.toList.isPrefixOf ('r' :: 'g' :: 'b' :: '(' :: inside r g b) then
        some (('r' :: 'g' :: 'b' :: '(' :: inside r g b).drop start.length)
      else none) = some (inside r g b) := by
    rfl
  rw [ofFunction?, hstart, Option.bind_some, channels?_inside]
  by_cases hshort : r < 1000 ∧ g < 1000
  · rw [if_pos hshort]
  · rw [if_neg hshort, if_neg (by omega)]

theorem toList_text (r g b : Nat) :
    (s!"rgb({r}, {g}, {b})").toList = 'r' :: 'g' :: 'b' :: '(' :: inside r g b := by
  simp [inside, toString, Nat.toList_repr]

theorem parse_text (r g b : Nat) :
    parse s!"rgb({r}, {g}, {b})" =
      if r ≤ 255 ∧ g ≤ 255 ∧ leading b ≤ 255 then .ok ⟨r, g, leading b⟩
      else .error ⟨s!"rgb({r}, {g}, {b})"⟩ := by
  have htrim : Text.trim ('r' :: 'g' :: 'b' :: '(' :: inside r g b) =
      'r' :: 'g' :: 'b' :: '(' :: inside r g b := by
    have hlast : ('r' :: 'g' :: 'b' :: '(' :: inside r g b).getLast? = some ')' := by
      simp [inside, List.getLast?_cons, List.getLast?_append]
    apply Text.trim_eq_self
    · rintro c ⟨⟩
      decide
    · rw [hlast]
      rintro c ⟨⟩
      decide
  have hlower : Text.lower ('r' :: 'g' :: 'b' :: '(' :: inside r g b) =
      'r' :: 'g' :: 'b' :: '(' :: inside r g b := by
    apply Text.lower_eq_self
    have hnumeral (n : Nat) : ∀ c ∈ Nat.toDigits 10 n, c.toNat < 0x80 ∧ c.isUpper = false :=
      fun c hc => Text.isSmall_of_isDigit (isDigit_numeral n c hc)
    simp only [inside, List.forall_mem_cons, List.forall_mem_append]
    exact ⟨by decide, by decide, by decide, by decide, hnumeral r, by decide, by decide, hnumeral g,
      by decide, by decide, hnumeral b, by decide, by simp⟩
  have hhex : ofHex? ('r' :: 'g' :: 'b' :: '(' :: inside r g b) = none := by
    simp [ofHex?, hexValue?]
  simp only [parse, toList_text, htrim, hlower, hhex, ofFunction?_inside, Option.none_or]
  by_cases h : r ≤ 255 ∧ g ≤ 255 ∧ leading b ≤ 255
  · simp only [if_pos h]
  · simp only [if_neg h]

/-- Of the last channel only the first three digits are looked at, so it is the one channel that may
be too large without being refused. -/
theorem parse_reads_three_digits_of_last_channel (r g b : Nat) :
    parse s!"rgb({r}, {g}, {b})" = (if r ≤ 255 ∧ g ≤ 255 ∧ leading b ≤ 255 then
      .ok ⟨r, g, leading b⟩ else .error ⟨s!"rgb({r}, {g}, {b})"⟩) ∧
    (parse s!"rgb({r}, {g}, {b})" = (if r ≤ 255 ∧ g ≤ 255 ∧ b ≤ 255 then .ok ⟨r, g, b⟩
      else .error ⟨s!"rgb({r}, {g}, {b})"⟩) ↔
      255 < r ∨ 255 < g ∨ b < 1000 ∨ 255 < leading b) := by
  refine ⟨parse_text r g b, ?_⟩
  rw [parse_text]
  by_cases hfirst : r ≤ 255 ∧ g ≤ 255
  · obtain ⟨hr, hg⟩ := hfirst
    by_cases hb : b < 1000
    · simp [leading_of_lt hb, hb]
    · rw [if_neg (c := r ≤ 255 ∧ g ≤ 255 ∧ b ≤ 255) (by omega)]
      by_cases hleading : leading b ≤ 255
      · rw [if_pos ⟨hr, hg, hleading⟩]
        exact iff_of_false (by simp) (by omega)
      · rw [if_neg (by omega)]
        exact iff_of_true rfl (by omega)
  · rw [if_neg (by omega), if_neg (by omega)]
    exact iff_of_true rfl (by omega)

theorem thousand_is_read_as_a_hundred :
    255 < 1000 ∧ parse "rgb(1, 2, 1000)" = .ok ⟨1, 2, 100⟩ ∧
      parse "rgb(1000, 2, 1)" = .error ⟨"rgb(1000, 2, 1)"⟩ ∧
      parse "rgb(1, 1000, 2)" = .error ⟨"rgb(1, 1000, 2)"⟩ := by
  decide +kernel

end Rgb

end MailMarkup
