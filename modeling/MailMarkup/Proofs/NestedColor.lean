import MailMarkup.Proofs.BareColor

namespace MailMarkup

namespace Text

theorem pieces_seam {p : Char → Bool} {left right last first : List Char}
    {front back : List (List Char)} (hleft : pieces p left = front ++ [last])
    (hright : pieces p right = first :: back) :
    pieces p (left ++ right) = front ++ (last ++ first) :: back := by
  induction left generalizing front last with
  | nil =>
    have hsame : [[]] = front ++ [last] := hleft
    cases front with
    | nil =>
      obtain ⟨rfl, -⟩ := List.cons.inj hsame
      exact hright
    | cons f front => simp at hsame
  | cons c left ih =>
    obtain ⟨w, ws, hpieces⟩ := List.exists_cons_of_ne_nil (pieces_ne_nil p left)
    cases hc : p c with
    | true =>
      rw [pieces_cons_of_pos hc] at hleft
      rw [List.cons_append, pieces_cons_of_pos hc]
      cases front with
      | nil => simp [hpieces] at hleft
      | cons f front =>
        obtain ⟨rfl, hrest⟩ := List.cons.inj hleft
        rw [ih hrest, List.cons_append]
    | false =>
      rw [pieces_cons_of_neg hc hpieces] at hleft
      rw [List.cons_append]
      cases front with
      | nil =>
        obtain ⟨rfl, rfl⟩ := List.cons.inj hleft
        have hseam : pieces p left = [] ++ [w] := hpieces
        exact pieces_cons_of_neg hc (ih hseam)
      | cons f front =>
        obtain ⟨rfl, rfl⟩ := List.cons.inj hleft
        have hseam : pieces p left = (w :: front) ++ [last] := hpieces
        exact pieces_cons_of_neg hc (ih hseam)

theorem length_lowerChar_pos (c : Char) : 0 < (lowerChar c).length := by
  unfold lowerChar
  split
  · exact Nat.one_pos
  · split <;> simp

theorem lower_eq_self_iff {cs : List Char} : cs = lower cs ↔ ∀ c ∈ cs, lowerChar c = [c] := by
  have hlength (cs : List Char) : cs.length ≤ (lower cs).length := by
    induction cs with
    | nil => exact Nat.le_refl _
    | cons c cs ih =>
      have hpos := length_lowerChar_pos c
      rw [lower, List.flatMap_cons, List.length_append, List.length_cons]
      change cs.length ≤ (cs.flatMap lowerChar).length at ih
      omega
  induction cs with
  | nil => simp
  | cons c cs ih =>
    have hcons : lower (c :: cs) = lowerChar c ++ lower cs := rfl
    rw [List.forall_mem_cons, hcons]
    constructor
    · intro h
      have htotal := congrArg List.length h
      have hrest := hlength cs
      have hpos := length_lowerChar_pos c
      rw [List.length_cons, List.length_append] at htotal
      obtain ⟨d, hd⟩ := List.length_eq_one_iff.mp (show (lowerChar c).length = 1 by omega)
      rw [hd] at h ⊢
      obtain ⟨rfl, hcs⟩ := List.cons.inj h
      exact ⟨rfl, ih.mp hcs⟩
    · rintro ⟨hc, hcs⟩
      rw [hc, ← ih.mpr hcs]
      rfl

theorem isPrefixOf_append_cons {word : List Char} {c : Char} (h : c ∉ word)
    (front back : List Char) : word.isPrefixOf (front ++ c :: back) = word.isPrefixOf front := by
  induction word generalizing front with
  | nil => simp
  | cons k word ih =>
    obtain ⟨hk, hword⟩ := not_or.mp (mt List.mem_cons.mpr h)
    cases front with
    | nil => simp [List.isPrefixOf, Ne.symm hk]
    | cons d front => simp [List.isPrefixOf, ih hword]

theorem occursIn_append_cons {word : List Char} {c : Char} (h : c ∉ word) (front back : List Char) :
    occursIn word (front ++ c :: back) = (occursIn word front || occursIn word back) := by
  induction front with
  | nil =>
    have hhead := isPrefixOf_append_cons h [] back
    have hcons : occursIn word (c :: back) =
        (word.isPrefixOf (c :: back) || occursIn word back) := rfl
    rw [List.nil_append] at hhead ⊢
    rw [hcons, hhead]
    cases word <;> rfl
  | cons d front ih =>
    have hhead := isPrefixOf_append_cons h (d :: front) back
    rw [List.cons_append] at hhead ⊢
    rw [occursIn, hhead, ih, occursIn, Bool.or_assoc]

def hasNoQuote (word : List Char) : Bool :=
  word.all fun k => !sameLetter k '\x22' && !sameLetter k '\x27'

theorem sameLetter_quote {word : List Char} (h : hasNoQuote word = true) {c : Char}
    (hc : QuotedAttribute.isQuote c = true) : ∀ k ∈ word, sameLetter k c = false := by
  intro k hk
  obtain ⟨hdouble, hsingle⟩ := Bool.and_eq_true_iff.mp (List.all_eq_true.mp h k hk)
  rw [Bool.not_eq_true'] at hdouble hsingle
  exact QuotedAttribute.of_isQuote (p := fun c => sameLetter k c = false) hdouble hsingle hc

theorem startsWithKeyword_append_cons {word : String} {c : Char}
    (h : ∀ k ∈ word.toList, sameLetter k c = false) (front back back' : List Char) :
    startsWithKeyword word (front ++ c :: back) = startsWithKeyword word (front ++ c :: back') := by
  rw [startsWithKeyword, startsWithKeyword]
  generalize word.toList = ks at h
  induction ks generalizing front with
  | nil => rfl
  | cons k ks ih =>
    obtain ⟨hk, hks⟩ := List.forall_mem_cons.mp h
    cases front with
    | nil => simp [keyword?, hk]
    | cons d front =>
      rw [List.cons_append, List.cons_append, keyword?, keyword?]
      split
      · rw [Option.isSome_map, Option.isSome_map, ih front hks]
      · rfl

end Text

namespace Style

open QuotedAttribute (isQuote of_isQuote)

theorem unitRemarks_of_mem {word : List Char} {c : Char} (h : c ∈ word)
    (hc : c = '#' ∨ QuotedAttribute.isQuote c = true) : unitRemarks word = [] := by
  have hforeign : c ≠ '-' ∧ (Text.isDigit c || c == '.') = false ∧ c.isAlpha = false := by
    rcases hc with rfl | hc
    · decide
    · exact of_isQuote (p := fun c => c ≠ '-' ∧ (Text.isDigit c || c == '.') = false ∧
        c.isAlpha = false) (by decide) (by decide) hc
  have hunit : unit? word = none := by
    cases hunit : unit? word with
    | none => rfl
    | some unit =>
      exfalso
      obtain ⟨hsign, hnumber, hletter⟩ := hforeign
      obtain ⟨sign, number, rfl, hs, hn, hu⟩ := parts_of_unit? hunit
      simp only [List.mem_append] at h
      rcases h with h | h | h
      · exact hsign (hs c h)
      · rw [hn c h] at hnumber
        cases hnumber
      · rw [hu c h] at hletter
        cases hletter
  rw [unitRemarks, hunit]

theorem unitRemarks_of_isBareHex {word : List Char} (h : isBareHex word = true) :
    unitRemarks word = [] := by
  unfold unitRemarks
  split
  · rfl
  · rename_i unit hunit
    obtain ⟨sign, number, rfl, -⟩ := parts_of_unit? hunit
    apply if_neg
    -- every unit has a letter that is no digit of a color
    have hletter : ∀ name ∈ lengthUnits,
        name.toList.all (fun c => "0123456789abcdef".toList.contains c) = false := by
      decide
    intro hlength
    rw [Bool.and_eq_true, List.contains_iff_mem] at hlength
    have hforeign := hletter _ hlength.1
    rw [String.toList_ofList, List.all_eq_false] at hforeign
    obtain ⟨c, hc, hforeign⟩ := hforeign
    obtain ⟨d, hd, rfl⟩ := List.mem_map.mp hc
    exact hforeign (of_isBareHex
      (p := fun d => "0123456789abcdef".toList.contains d.toLower = true) (by decide) h
      (by simp [hd]))

theorem not_mem_of_isLeftOut {word : List Char} (h : IsLeftOut word) {c : Char}
    (hc : QuotedAttribute.isQuote c = true) : c ∉ word := by
  have hnone : Text.hasNoQuote "!important".toList = true := by decide
  have hletters := Text.sameLetter_quote hnone hc
  rw [IsLeftOut] at h
  generalize "!important".toList = ks at h hletters
  induction h with
  | nil => exact List.not_mem_nil
  | cons hletter _ ih =>
    obtain ⟨hk, hks⟩ := List.forall_mem_cons.mp hletters
    rw [List.mem_cons, not_or]
    refine ⟨?_, ih hks⟩
    rintro rfl
    rw [hletter] at hk
    cases hk

theorem colorRemarks_of_mem {value : List Char} {c : Char} (h : c ∈ value)
    (hc : QuotedAttribute.isQuote c = true) (property : List Char) :
    colorRemarks property value = [] := by
  have hblank := (QuotedAttribute.quote_facts hc).1
  have hmem : c ∈ withoutImportant value := by
    rcases withoutImportant_cases value with hsame | ⟨front, word, back, rfl, hword, hrest⟩
    · rwa [hsame]
    · have hfree := not_mem_of_isLeftOut hword hc
      rw [hrest]
      simpa [hfree] using h
  have hbare : ¬ isBareHex (Text.trim (withoutImportant value)) = true := by
    intro hhex
    have hquote := of_isBareHex (p := fun d => QuotedAttribute.isQuote d = false) (by decide) hhex
      (Text.mem_trim hmem hblank)
    rw [hc] at hquote
    cases hquote
  rw [colorRemarks, if_neg]
  rw [Bool.and_eq_true]
  exact fun hboth => hbare hboth.2

theorem codes_semicolonRemarks {declaration declaration' : List Char}
    (h : declaration.count ':' = declaration'.count ':') :
    (semicolonRemarks declaration).map Remark.code =
      (semicolonRemarks declaration').map Remark.code := by
  rw [semicolonRemarks, semicolonRemarks, h]
  split <;> rfl

theorem codes_propertyRemarks {property property' : List Char}
    (h : property = Text.lower property ↔ property' = Text.lower property') :
    (propertyRemarks property).map Remark.code = (propertyRemarks property').map Remark.code := by
  simp only [propertyRemarks, h]
  split <;> rfl

theorem codes_colorRemarks {property property' : List Char}
    (h : isColorProperty property = isColorProperty property') (value : List Char) :
    (colorRemarks property value).map Remark.code =
      (colorRemarks property' value).map Remark.code := by
  simp only [colorRemarks, h]
  split <;> rfl

theorem declarationRemarks_of_not_mem {declaration : List Char} (h : ':' ∉ declaration) :
    declarationRemarks declaration = [] := by
  rw [declarationRemarks, List.dropWhile_eq_nil_iff.mpr (bne_of_not_mem h)]

theorem flatMap_words (cs : List Char) :
    (Text.words cs).flatMap unitRemarks = (Text.pieces Text.isBlank cs).flatMap unitRemarks := by
  rw [Text.words]
  generalize Text.pieces Text.isBlank cs = ws
  induction ws with
  | nil => rfl
  | cons w ws ih =>
    rw [List.filter_cons, List.flatMap_cons, ← ih]
    cases w with
    | nil => rfl
    | cons c w => rfl

end Style

structure QuotedColor where
  quote : Char
  lead : List Char
  digits : List Char
  trail : List Char
  isQuote_quote : QuotedAttribute.isQuote quote = true
  isBlank_lead : ∀ c ∈ lead, Text.isBlank c = true
  isBlank_trail : ∀ c ∈ trail, Text.isBlank c = true
  isBareHex_digits : isBareHex digits = true

namespace QuotedColor

open QuotedAttribute (isQuote of_isQuote)

def value (color : QuotedColor) (hash : List Char) : List Char :=
  color.lead ++ (hash ++ (color.digits ++ color.trail))

def within (color : QuotedColor) (front hash back : List Char) : List Char :=
  front ++ color.quote :: (color.value hash ++ color.quote :: back)

theorem within_front (color : QuotedColor) (front front' hash back : List Char) (c : Char) :
    color.within (front ++ c :: front') hash back =
      front ++ c :: color.within front' hash back := by
  simp [within]

theorem within_back (color : QuotedColor) (front hash back back' : List Char) (c : Char) :
    color.within front hash (back ++ c :: back') = color.within front hash back ++ c :: back' := by
  simp [within]

theorem quote_mem_within (color : QuotedColor) (front hash back : List Char) :
    color.quote ∈ color.within front hash back := by
  simp [within]

theorem trim_within (color : QuotedColor) (front hash back : List Char) :
    Text.trim (color.within front hash back) =
      color.within (Text.trimLeft front) hash (Text.trimRight back) := by
  have hquote := (QuotedAttribute.quote_facts color.isQuote_quote).1
  rw [within, Text.trim_append_cons hquote, Text.trimRight_append_cons hquote, within]

theorem last_piece (color : QuotedColor) (front : List Char) :
    ∃ pre last, Text.pieces Text.isBlank (front ++ color.quote :: color.lead) = pre ++ [last] ∧
      (last = [] ∨ color.quote ∈ last) := by
  have hquote := (QuotedAttribute.quote_facts color.isQuote_quote).1
  rcases List.eq_nil_or_concat color.lead with hlead | ⟨lead, b, hlead⟩
  · have hpieces := Text.pieces_ne_nil Text.isBlank front
    have hfree : ∀ c ∈ [color.quote], Text.isBlank c = false := by simpa using hquote
    rw [hlead]
    exact ⟨_, _, Text.pieces_seam (List.dropLast_concat_getLast hpieces).symm
      (Text.pieces_of_free hfree), Or.inr (by simp)⟩
  · rw [List.concat_eq_append] at hlead
    have hblank : Text.isBlank b = true := color.isBlank_lead b (by simp [hlead])
    have hsplit : front ++ color.quote :: color.lead = (front ++ color.quote :: lead) ++ [b] := by
      simp [hlead]
    exact ⟨_, [], by rw [hsplit, Text.pieces_append hblank, Text.pieces_nil], Or.inl rfl⟩

theorem first_piece (color : QuotedColor) (back : List Char) :
    ∃ first post, Text.pieces Text.isBlank (color.digits ++ (color.trail ++ color.quote :: back)) =
      first :: post ∧ (first = color.digits ∨ color.quote ∈ first) := by
  have hdigits : ∀ c ∈ color.digits, Text.isBlank c = false :=
    fun c hc => (bareHex_facts color.isBareHex_digits hc).1
  have hquote := (QuotedAttribute.quote_facts color.isQuote_quote).1
  have hblank := color.isBlank_trail
  cases htrail : color.trail with
  | nil =>
    obtain ⟨w, ws, hback⟩ := List.exists_cons_of_ne_nil (Text.pieces_ne_nil Text.isBlank back)
    exact ⟨_, ws, Text.pieces_run hdigits (Text.pieces_cons_of_neg hquote hback),
      Or.inr (by simp)⟩
  | cons b trail =>
    have hb : Text.isBlank b = true := hblank b (by simp [htrail])
    refine ⟨color.digits, Text.pieces Text.isBlank (trail ++ color.quote :: back), ?_, Or.inl rfl⟩
    rw [List.cons_append, Text.pieces_append hb, Text.pieces_of_free hdigits]
    rfl

section Hash

variable (color : QuotedColor) {hash : List Char} (hhash : ∀ c ∈ hash, c = '#')
include hhash

theorem of_mem_value {p : Char → Prop} (hp : p '#')
    (hblank : ∀ n ∈ Text.blankCodes, p (Char.ofNat n)) (hhex : ∀ n ∈ hexCodes, p (Char.ofNat n)) :
    ∀ c ∈ color.value hash, p c := by
  intro c hc
  simp only [value, List.mem_append] at hc
  rcases hc with hc | hc | hc | hc
  · exact Text.of_isBlank hblank (color.isBlank_lead c hc)
  · rwa [hhash c hc]
  · exact of_isBareHex hhex color.isBareHex_digits hc
  · exact Text.of_isBlank hblank (color.isBlank_trail c hc)

theorem not_mem_within {c : Char} (hc : c ∈ [':', ';']) {front back : List Char}
    (hfront : c ∉ front) (hback : c ∉ back) : c ∉ color.within front hash back := by
  have hvalue := color.of_mem_value hhash (p := (· ∉ [':', ';'])) (by decide) (by decide)
    (by decide)
  have hquote : color.quote ∉ [':', ';'] :=
    of_isQuote (p := (· ∉ [':', ';'])) (by decide) (by decide) color.isQuote_quote
  have hne : c ≠ color.quote := by
    rintro rfl
    exact hquote hc
  simp only [within, List.mem_append, List.mem_cons, not_or]
  exact ⟨hfront, hne, fun hmem => hvalue c hmem hc, hne, hback⟩

theorem count_within {c : Char} (hc : c ≠ '#') (front back : List Char) :
    (color.within front hash back).count c = (color.within front [] back).count c := by
  have hnone : hash.count c = 0 := by
    rw [List.count_eq_zero]
    intro hmem
    exact hc (hhash c hmem)
  simp only [within, value, List.count_append, List.count_cons, List.nil_append, hnone,
    Nat.zero_add]

theorem lower_within_iff (front back : List Char) :
    color.within front hash back = Text.lower (color.within front hash back) ↔
      color.within front [] back = Text.lower (color.within front [] back) := by
  have hplain : ∀ c ∈ hash, Text.lowerChar c = [c] := by
    intro c hc
    rw [hhash c hc]
    decide
  rw [Text.lower_eq_self_iff, Text.lower_eq_self_iff]
  simp only [within, value, List.forall_mem_append, List.forall_mem_cons, List.nil_append]
  grind

theorem isColorProperty_within (front back : List Char) :
    Style.isColorProperty (color.within front hash back) =
      (Style.isColorProperty front || Style.isColorProperty back) := by
  obtain ⟨hsmall, hforeign⟩ := of_isQuote
    (p := fun c => Text.lowerChar c = [c] ∧ c ∉ "color".toList) (by decide) (by decide)
    color.isQuote_quote
  have hlower : Text.lower (color.within front hash back) = Text.lower front ++
      color.quote :: (Text.lower (color.value hash) ++ color.quote :: Text.lower back) := by
    simp [within, Text.lower, hsmall]
  -- no blank, digit or hash has an o in its lower case
  have hvalue : Text.occursIn "color".toList (Text.lower (color.value hash)) = false := by
    rw [Bool.eq_false_iff]
    intro hinfix
    have hletter : 'o' ∈ Text.lower (color.value hash) :=
      (Text.occursIn_iff.mp hinfix).subset (by decide)
    obtain ⟨c, hc, ho⟩ := List.mem_flatMap.mp hletter
    exact color.of_mem_value hhash (p := fun c => 'o' ∉ Text.lowerChar c) (by decide)
      (by decide +kernel) (by decide) c hc ho
  rw [Style.isColorProperty, hlower, Text.occursIn_append_cons hforeign,
    Text.occursIn_append_cons hforeign, hvalue, Bool.false_or]
  rfl

theorem unitRemarks_seam {last first : List Char} (hlast : last = [] ∨ color.quote ∈ last)
    (hfirst : first = color.digits ∨ color.quote ∈ first) :
    Style.unitRemarks (last ++ (hash ++ first)) = [] := by
  have hquoted (h : color.quote ∈ last ++ (hash ++ first)) :
      Style.unitRemarks (last ++ (hash ++ first)) = [] :=
    Style.unitRemarks_of_mem h (Or.inr color.isQuote_quote)
  rcases hlast with rfl | hlast
  · rcases hfirst with rfl | hfirst
    · cases hash with
      | nil => exact Style.unitRemarks_of_isBareHex color.isBareHex_digits
      | cons c hash =>
        exact Style.unitRemarks_of_mem List.mem_cons_self (Or.inl (hhash c List.mem_cons_self))
    · exact hquoted (by simp [hfirst])
  · exact hquoted (by simp [hlast])

theorem flatMap_unitRemarks_within (front back : List Char) :
    (Text.words (color.within front hash back)).flatMap Style.unitRemarks =
      (Text.words (color.within front [] back)).flatMap Style.unitRemarks := by
  obtain ⟨pre, last, hleft, hlast⟩ := color.last_piece front
  obtain ⟨first, post, hright, hfirst⟩ := color.first_piece back
  have hpieces {hash : List Char} (hhash : ∀ c ∈ hash, c = '#') :
      (Text.words (color.within front hash back)).flatMap Style.unitRemarks =
        (pre ++ [] :: post).flatMap Style.unitRemarks := by
    have hfree : ∀ c ∈ hash, Text.isBlank c = false := by
      intro c hc
      rw [hhash c hc]
      decide
    have hwithin : color.within front hash back = (front ++ color.quote :: color.lead) ++
        (hash ++ (color.digits ++ (color.trail ++ color.quote :: back))) := by
      simp [within, value]
    rw [Style.flatMap_words, hwithin, Text.pieces_seam hleft (Text.pieces_run hfree hright),
      List.flatMap_append, List.flatMap_cons, color.unitRemarks_seam hhash hlast hfirst,
      List.flatMap_append]
    rfl
  rw [hpieces hhash, hpieces (List.forall_mem_nil _)]

theorem codes_declarationRemarks (front back : List Char) :
    (Style.declarationRemarks (color.within front hash back)).map Remark.code =
      (Style.declarationRemarks (color.within front [] back)).map Remark.code := by
  have hnil : ∀ c ∈ ([] : List Char), c = '#' := List.forall_mem_nil _
  have hcount := Style.codes_semicolonRemarks (color.count_within hhash (by decide) front back)
  by_cases hfront : ':' ∈ front
  · -- the color stands in the value
    obtain ⟨property, rest, rfl, hproperty⟩ := List.eq_append_cons_of_mem hfront
    have hcolor (hash : List Char) :
        Style.colorRemarks (Text.trim property) (Text.trim (color.within rest hash back)) = [] := by
      rw [color.trim_within]
      exact Style.colorRemarks_of_mem (color.quote_mem_within _ _ _) color.isQuote_quote _
    simp only [within_front] at hcount ⊢
    rw [Style.declarationRemarks_of_parts hproperty, Style.declarationRemarks_of_parts hproperty,
      hcolor, hcolor, color.trim_within, color.trim_within,
      color.flatMap_unitRemarks_within hhash]
    simp only [List.map_append, hcount]
  · by_cases hback : ':' ∈ back
    · -- the color stands in the property
      obtain ⟨property, value, rfl, hproperty⟩ := List.eq_append_cons_of_mem hback
      simp only [within_back] at hcount ⊢
      have hfree := color.not_mem_within hhash (by decide) hfront hproperty
      have hfree' := color.not_mem_within hnil (by decide) hfront hproperty
      rw [Style.declarationRemarks_of_parts hfree, Style.declarationRemarks_of_parts hfree',
        color.trim_within, color.trim_within]
      simp only [List.map_append, hcount,
        Style.codes_propertyRemarks (color.lower_within_iff hhash _ _)]
      congr 1
      apply Style.codes_colorRemarks
      rw [color.isColorProperty_within hhash, color.isColorProperty_within hnil]
    · rw [Style.declarationRemarks_of_not_mem (color.not_mem_within hhash (by decide) hfront hback),
        Style.declarationRemarks_of_not_mem (color.not_mem_within hnil (by decide) hfront hback)]

theorem codes_styleRemarks (front back : List Char) :
    (Style.remarks (color.within front hash back)).map Remark.code =
      (Style.remarks (color.within front [] back)).map Remark.code := by
  have hfree {hash front back : List Char} (hhash : ∀ c ∈ hash, c = '#') (hfront : ';' ∉ front)
      (hback : ';' ∉ back) : Style.remarks (color.within front hash back) =
        Style.declarationRemarks
          (color.within (Text.trimLeft front) hash (Text.trimRight back)) := by
    have hnone := color.not_mem_within hhash (by decide) hfront hback
    rw [Style.remarks, Style.declarations_eq_parts, Style.parts_of_free hnone, color.trim_within,
      if_neg (List.ne_nil_of_mem (color.quote_mem_within _ _ _)), List.flatMap_singleton]
  have hnil : ∀ c ∈ ([] : List Char), c = '#' := List.forall_mem_nil _
  -- the declaration around the color lies between the last semicolon before it and the next one
  have hafter {front back : List Char} (hfront : ';' ∉ front) :
      (Style.remarks (color.within front hash back)).map Remark.code =
        (Style.remarks (color.within front [] back)).map Remark.code := by
    by_cases hback : ';' ∈ back
    · obtain ⟨near, far, rfl, hnear⟩ := List.eq_append_cons_of_mem hback
      simp only [within_back, Style.remarks_append, List.map_append, hfree hhash hfront hnear,
        hfree hnil hfront hnear, color.codes_declarationRemarks hhash]
    · rw [hfree hhash hfront hback, hfree hnil hfront hback, color.codes_declarationRemarks hhash]
  by_cases hfront : ';' ∈ front
  · obtain ⟨far, near, rfl, hnear⟩ := exists_last_of_mem hfront
    simp only [within_front, Style.remarks_append, List.map_append, hafter hnear]
  · exact hafter hfront

theorem startsWithPlaceholder_within {opening closing : Char} (hclosing : closing ≠ '#')
    (front back : List Char) :
    Attribute.startsWithPlaceholder opening closing (color.within front hash back) =
      Attribute.startsWithPlaceholder opening closing (color.within front [] back) := by
  have hpass : ∀ c ∈ hash, (c != '\n') = true := by
    intro c hc
    rw [hhash c hc]
    decide
  have hfree : closing ∉ hash := fun hmem => hclosing (hhash closing hmem)
  obtain ⟨d, left, hleft⟩ := List.exists_cons_of_ne_nil
    (List.append_ne_nil_of_right_ne_nil front (List.cons_ne_nil color.quote color.lead))
  have hwithin (hash : List Char) : color.within front hash back =
      d :: (left ++ (hash ++ (color.digits ++ (color.trail ++ color.quote :: back)))) := by
    rw [← List.cons_append, ← hleft]
    simp [within, value]
  have htake (right : List Char) :
      ((left ++ (hash ++ right)).takeWhile (· != '\n')).contains closing =
        ((left ++ right).takeWhile (· != '\n')).contains closing := by
    rw [List.takeWhile_append, List.takeWhile_append_of_pos hpass, List.takeWhile_append]
    split
    · simp [hfree]
    · rfl
  simp only [Attribute.startsWithPlaceholder, hwithin, List.head?_cons, List.tail_cons, htake,
    List.nil_append]

theorem isAllowedLink_within (front back : List Char) :
    Attribute.isAllowedLink (color.within front hash back) =
      Attribute.isAllowedLink (color.within front [] back) := by
  have hletters : ∀ word ∈ ["http://", "https://", "mailto:", "tel:", "#"],
      Text.hasNoQuote word.toList = true := by
    decide
  have hwords : ["http://", "https://", "mailto:", "tel:", "#"].any
        (Text.startsWithKeyword · (color.within front hash back)) =
      ["http://", "https://", "mailto:", "tel:", "#"].any
        (Text.startsWithKeyword · (color.within front [] back)) := by
    rw [Bool.eq_iff_iff, List.any_eq_true, List.any_eq_true]
    apply exists_congr
    intro word
    apply and_congr_right
    intro hword
    rw [within, within, Text.startsWithKeyword_append_cons
      (Text.sameLetter_quote (hletters word hword) color.isQuote_quote)]
  rw [Attribute.isAllowedLink, hwords, color.startsWithPlaceholder_within hhash (by decide),
    color.startsWithPlaceholder_within hhash (by decide)]
  rfl

end Hash

end QuotedColor

end MailMarkup
