import MailMarkup.Proofs.AttributeList
import MailMarkup.Proofs.AttributeSite
import MailMarkup.Proofs.NestedColor

namespace MailMarkup

theorem append_cons_cases {front back front' back' : List Char} {c c' : Char}
    (h : front ++ c :: back = front' ++ c' :: back') :
    (front = front' ∧ c = c' ∧ back = back') ∨
      (∃ mid, front = front' ++ c' :: mid ∧ back' = mid ++ c :: back) ∨
      ∃ mid, front' = front ++ c :: mid ∧ back = mid ++ c' :: back' := by
  rcases List.append_eq_append_iff.mp h with ⟨mid, rfl, hmid⟩ | ⟨mid, rfl, hmid⟩
  · cases mid with
    | nil =>
      obtain ⟨rfl, rfl⟩ := List.cons.inj hmid
      exact Or.inl ⟨(List.append_nil front).symm, rfl, rfl⟩
    | cons d mid =>
      obtain ⟨rfl, rfl⟩ := List.cons.inj hmid
      exact Or.inr (Or.inr ⟨mid, rfl, rfl⟩)
  · cases mid with
    | nil =>
      obtain ⟨rfl, rfl⟩ := List.cons.inj hmid
      exact Or.inl ⟨List.append_nil front', rfl, rfl⟩
    | cons d mid =>
      obtain ⟨rfl, rfl⟩ := List.cons.inj hmid
      exact Or.inr (Or.inl ⟨mid, rfl, rfl⟩)

namespace QuotedAttribute

theorem Source.last_name (source : Source) (hne : source.name ≠ [])
    (hword : ∀ c ∈ source.name, Text.isWord c = true) (text : List Char) :
    (((text ++ source.sign).reverse.dropWhile Text.isBlank).tail.dropWhile Text.isBlank).head? =
      source.name.getLast? := by
  have hreverse : (text ++ source.sign).reverse = source.behind.reverse ++
      '=' :: (source.before.reverse ++ (source.name.reverse ++ text.reverse)) := by
    simp [sign]
  have hlast : (source.name.reverse ++ text.reverse).head? = source.name.getLast? := by
    rw [List.head?_append, List.head?_reverse, List.getLast?_eq_some_getLast hne, Option.some_or]
  have hbehind : ∀ c ∈ source.behind.reverse, Text.isBlank c = true :=
    fun c hc => source.isBlank_behind c (List.mem_reverse.mp hc)
  have hbefore : ∀ c ∈ source.before.reverse, Text.isBlank c = true :=
    fun c hc => source.isBlank_before c (List.mem_reverse.mp hc)
  have hstop : ∀ c ∈ (source.name.reverse ++ text.reverse).head?, Text.isBlank c = false := by
    intro c hc
    rw [hlast] at hc
    exact (word_facts (hword c (List.mem_of_getLast? hc))).1
  rw [hreverse, (span_append_cons _ hbehind (by decide)).2, List.tail_cons,
    (span_of_head hbefore hstop).2, hlast]

theorem IsCalled.last {names : List String} {name : List Char} (h : IsCalled names name) :
    ∃ word ∈ names, ∀ c ∈ name.getLast?, ∃ k ∈ word.toList.getLast?,
      Text.sameLetter k c = true := by
  obtain ⟨word, hmem, hletters⟩ := h
  refine ⟨word, hmem, ?_⟩
  rw [← List.forall₂_reverse_iff] at hletters
  rw [← List.head?_reverse, ← List.head?_reverse]
  intro c hc
  generalize word.toList.reverse = ks at hletters ⊢
  generalize name.reverse = cs at hletters hc
  cases hletters with
  | nil => cases hc
  | cons hletter _ =>
    cases hc
    exact ⟨_, rfl, hletter⟩

end QuotedAttribute

namespace Attribute

open QuotedAttribute

def firstNames : List String := ["style", "href"]

theorem isKeyword_firstNames {name : String} (h : name ∈ firstNames) :
    ∀ other ∈ [name], Text.IsKeyword other.toList := by
  have hall : ∀ name ∈ firstNames, Text.IsKeyword name.toList := by decide
  simpa using hall name h

theorem sign_ne {name : String} (hname : name ∈ firstNames) {source other : Source}
    (hcolor : IsCalled colorNames source.name) (hother : IsCalled [name] other.name)
    (front text : List Char) : front ++ source.sign ≠ text ++ other.sign := by
  intro hsign
  have hkeyword := isKeyword_firstNames hname
  have hne := IsCalled.ne_nil hkeyword hother
  have hlast := source.last_name (hcolor.ne_nil isKeyword_colorNames)
    (hcolor.isWord isKeyword_colorNames) front
  rw [hsign, other.last_name hne (hother.isWord hkeyword),
    List.getLast?_eq_some_getLast hne] at hlast
  obtain ⟨word, hword, hletter⟩ := hcolor.last
  obtain ⟨word', hword', hletter'⟩ := hother.last
  obtain ⟨k, hk, hsame⟩ := hletter _ hlast.symm
  obtain ⟨k', hk', hsame'⟩ := hletter' _ (List.getLast?_eq_some_getLast hne)
  rw [List.mem_singleton.mp hword'] at hk'
  have hlower := (isKeyword_colorNames word hword).isLower k (List.mem_of_getLast? hk)
  have hlower' := (hkeyword name List.mem_cons_self).isLower k' (List.mem_of_getLast? hk')
  have heq : k = k' :=
    (Text.letter_of_sameLetter hlower hsame).symm.trans (Text.letter_of_sameLetter hlower' hsame')
  have hends : ∀ name ∈ firstNames, ∀ word ∈ colorNames,
      word.toList.getLast? ≠ name.toList.getLast? := by
    decide
  apply hends name hname word hword
  rw [Option.mem_def.mp hk, Option.mem_def.mp hk', heq]

section Edit

variable {source : Source} (hcolor : IsCalled colorNames source.name) (color : QuotedColor)
  (front rest : List Char)

theorem within_eq_append (left hash : List Char) : color.within left hash rest =
    (left ++ color.quote :: color.lead) ++
      (hash ++ (color.digits ++ (color.trail ++ color.quote :: rest))) := by
  simp [QuotedColor.within, QuotedColor.value]

theorem mem_digits_of_head {behind : List Char} {c : Char}
    (h : c ∈ (color.digits ++ behind).head?) : c ∈ color.digits := by
  have hhex := color.isBareHex_digits
  cases hdigits : color.digits with
  | nil =>
    rw [hdigits] at hhex
    exact absurd hhex (by decide)
  | cons d digits =>
    rw [hdigits] at h
    cases h
    exact List.mem_cons_self

theorem isCut_color (left : List Char) : IsCut (left ++ color.quote :: color.lead)
    (color.digits ++ (color.trail ++ color.quote :: rest)) where
  last c hc := by
    have hmem : c ∈ color.quote :: color.lead := by
      rw [List.getLast?_append, List.getLast?_eq_some_getLast (List.cons_ne_nil _ _),
        Option.some_or, Option.mem_some_iff] at hc
      rw [← hc]
      exact List.getLast_mem _
    rcases List.mem_cons.mp hmem with rfl | hmem
    · exact Or.inr color.isQuote_quote
    · exact Or.inl (color.isBlank_lead c hmem)
  head c hc :=
    of_isBareHex (p := fun d => ¬ (Text.isBlank d = true ∨ d = '=' ∨ isQuote d = true))
      (by decide) color.isBareHex_digits (mem_digits_of_head color hc)

include hcolor in
theorem withHash_within {name : String} (hname : name ∈ firstNames) {s : Site}
    (hs : s ∈ sites [name] (color.within (front ++ source.sign) [] rest)) :
    s.withHash (front ++ source.sign ++ color.quote :: color.lead).length = s.found ∨
      ∃ x y, s.found.value = color.within x [] y ∧
        (s.withHash (front ++ source.sign ++ color.quote :: color.lead).length).value =
          color.within x ['#'] y := by
  by_cases hinside : s.place ≤ (front ++ source.sign ++ color.quote :: color.lead).length ∧
      (front ++ source.sign ++ color.quote :: color.lead).length ≤
        s.place + s.found.value.length
  swap
  · exact Or.inl (if_neg hinside)
  right
  rw [within_eq_append, List.nil_append] at hs
  obtain ⟨text, x, y, rest', other, hother, hleft, hright, hvalue, hfound, hhash⟩ :=
    source_of_mem_sites (isKeyword_firstNames hname) hs hinside.1 hinside.2
  rw [hfound, hhash]
  have hforeign : other.quote ∉ color.lead ∧ other.quote ∉ color.digits ++ color.trail := by
    have hnil : ∀ c ∈ ([] : List Char), c = '#' := List.forall_mem_nil _
    have hnone := color.of_mem_value hnil (p := fun c => isQuote c = false) (by decide) (by decide)
      (by decide)
    have hquote : other.quote ∉ color.value [] := not_mem_of_isQuote hnone other.isQuote_quote
    simpa [QuotedColor.value, not_or] using hquote
  -- the other value opens before the color's own quote
  have hopens : (front ++ source.sign) ++ color.quote :: color.lead =
      (text ++ other.sign) ++ other.quote :: x := by
    rw [hleft, other.opening_eq_sign]
    simp
  obtain ⟨mid, rfl⟩ : ∃ mid, x = mid ++ color.quote :: color.lead := by
    rcases append_cons_cases hopens with ⟨hsign, -⟩ | ⟨mid, -, hx⟩ | ⟨mid, -, hlead⟩
    · exact absurd hsign (sign_ne hname hcolor hother front text)
    · exact ⟨mid, hx⟩
    · exact absurd (by simp [hlead]) hforeign.1
  -- and closes behind it, since it holds that quote
  rw [← List.append_assoc] at hright
  obtain ⟨mid', rfl⟩ : ∃ mid', y = (color.digits ++ color.trail) ++ color.quote :: mid' := by
    rcases append_cons_cases hright with ⟨-, hquote, -⟩ | ⟨mid', hdigits, -⟩ | ⟨mid', hy, -⟩
    · have hfree := other.not_mem_value
      rw [hvalue, ← hquote] at hfree
      simp at hfree
    · exact absurd (by simp [hdigits]) hforeign.2
    · exact ⟨mid', hy⟩
  exact ⟨mid, mid', by simp [Source.quoted, hvalue, QuotedColor.within, QuotedColor.value],
    by simp [QuotedColor.within, QuotedColor.value]⟩

include hcolor in
theorem first_hash {name : String} (hname : name ∈ firstNames) {β : Type} {f : List Char → β}
    (hf : ∀ x y, f (color.within x ['#'] y) = f (color.within x [] y)) :
    (all [name] (color.within (front ++ source.sign) ['#'] rest)).head?.map (fun a => f a.value) =
      (all [name] (color.within (front ++ source.sign) [] rest)).head?.map
        (fun a => f a.value) := by
  have hkeyword := isKeyword_firstNames hname
  have hedited := all_hash hkeyword (isCut_color color rest (front ++ source.sign))
  have hsites {s : Site} := withHash_within hcolor color front rest hname (s := s)
  rw [within_eq_append color rest _ []] at hsites ⊢
  rw [within_eq_append color rest _ ['#'], List.singleton_append, hedited,
    ← map_found_sites hkeyword, List.nil_append]
  rw [List.nil_append] at hsites
  cases hlist : sites [name] ((front ++ source.sign ++ color.quote :: color.lead) ++
      (color.digits ++ (color.trail ++ color.quote :: rest))) with
  | nil => rfl
  | cons s later =>
    simp only [List.map_cons, List.head?_cons, Option.map_some]
    rcases hsites (hlist ▸ List.mem_cons_self) with hsame | ⟨x, y, hvalue, hhash⟩
    · rw [hsame]
    · rw [hhash, hvalue, hf]

theorem codes_parityRemarks (left : List Char) :
    (parityRemarks (color.within left ['#'] rest)).map Remark.code =
      (parityRemarks (color.within left [] rest)).map Remark.code := by
  have hhash : ∀ c ∈ ['#'], c = '#' := by simp
  have hquote (quote : Char) (hquote : quote ≠ '#') (label : String) :
      (quoteRemarks quote label (color.within left ['#'] rest)).map Remark.code =
        (quoteRemarks quote label (color.within left [] rest)).map Remark.code := by
    rw [quoteRemarks, quoteRemarks, color.count_within hhash hquote]
    split <;> rfl
  rw [parityRemarks, parityRemarks, List.map_append, List.map_append, hquote _ (by decide),
    hquote _ (by decide)]

theorem codes_styleRemarks_eq (cs : List Char) :
    (styleRemarks cs).map Remark.code =
      ((all ["style"] cs).head?.map fun a => (Style.remarks a.value).map Remark.code).getD [] := by
  unfold styleRemarks
  cases all ["style"] cs <;> rfl

def linkCodes (value : List Char) : List Code :=
  if (Text.trim value).isEmpty || isAllowedLink (Text.trim value) then [] else [.missingProtocol]

theorem codes_linkRemarks_eq (cs : List Char) :
    (linkRemarks cs).map Remark.code =
      ((all ["href"] cs).head?.map fun a => linkCodes a.value).getD [] := by
  unfold linkRemarks
  cases all ["href"] cs with
  | nil => rfl
  | cons a later =>
    simp only [List.head?_cons, Option.map_some, Option.getD_some, linkCodes]
    split <;> rfl

theorem linkCodes_within (x y : List Char) :
    linkCodes (color.within x ['#'] y) = linkCodes (color.within x [] y) := by
  have hhash : ∀ c ∈ ['#'], c = '#' := by simp
  have hvisible (front hash back : List Char) :
      (color.within front hash back).isEmpty = false := by
    rw [List.isEmpty_eq_false_iff]
    exact List.ne_nil_of_mem (color.quote_mem_within front hash back)
  rw [linkCodes, linkCodes, color.trim_within, color.trim_within, hvisible, hvisible,
    color.isAllowedLink_within hhash]

def firstDigit (s : Site) : Nat := s.place + (s.found.value.takeWhile Text.isBlank).length

def bareColors (cs : List Char) : List Site :=
  (sites colorNames cs).filter fun s => isBareHex (Text.trim s.found.value)

theorem colorRemarks_of_not_isBareHex {a : QuotedAttribute}
    (h : isBareHex (Text.trim a.value) = false) : colorRemarks a = [] :=
  if_neg (Bool.eq_false_iff.mp h)

theorem exists_colorRemarks {a : QuotedAttribute} (h : isBareHex (Text.trim a.value) = true) :
    ∃ r, colorRemarks a = [r] :=
  ⟨_, if_pos h⟩

theorem legacyColorRemarks_eq (cs : List Char) :
    legacyColorRemarks cs = (sites colorNames cs).flatMap fun s => colorRemarks s.found := by
  rw [legacyColorRemarks, ← map_found_sites isKeyword_colorNames, List.flatMap_map]

theorem length_flatMap_colorRemarks (list : List Site) :
    (list.flatMap fun s => colorRemarks s.found).length =
      (list.filter fun s => isBareHex (Text.trim s.found.value)).length := by
  induction list with
  | nil => rfl
  | cons s list ih =>
    rw [List.flatMap_cons, List.length_append, ih, List.filter_cons]
    cases hbare : isBareHex (Text.trim s.found.value) with
    | false =>
      rw [colorRemarks_of_not_isBareHex hbare, if_neg Bool.false_ne_true, List.length_nil,
        Nat.zero_add]
    | true =>
      obtain ⟨r, hr⟩ := exists_colorRemarks hbare
      rw [hr, if_pos rfl, List.length_singleton, List.length_cons, Nat.add_comm]

theorem split_of_getElem? {list : List Site} {j : Nat} {r : Remark}
    (h : (list.flatMap fun s => colorRemarks s.found)[j]? = some r) :
    ∃ earlier s later, list = earlier ++ s :: later ∧ colorRemarks s.found = [r] ∧
      (earlier.flatMap fun t => colorRemarks t.found).length = j := by
  induction list generalizing j with
  | nil => cases h
  | cons s list ih =>
    rw [List.flatMap_cons] at h
    cases hbare : isBareHex (Text.trim s.found.value) with
    | false =>
      have hnil := colorRemarks_of_not_isBareHex hbare
      rw [hnil, List.nil_append] at h
      obtain ⟨earlier, t, later, rfl, ht, hlength⟩ := ih h
      exact ⟨s :: earlier, t, later, rfl, ht, by rw [List.flatMap_cons, hnil]; exact hlength⟩
    | true =>
      obtain ⟨r', hr⟩ := exists_colorRemarks hbare
      rw [hr, List.singleton_append] at h
      cases j with
      | zero =>
        obtain rfl := Option.some.inj h
        exact ⟨[], s, list, rfl, hr, rfl⟩
      | succ j =>
        obtain ⟨earlier, t, later, rfl, ht, hlength⟩ := ih h
        refine ⟨s :: earlier, t, later, rfl, ht, ?_⟩
        rw [List.flatMap_cons, hr, List.length_append, hlength, List.length_singleton, Nat.add_comm]

theorem site_of_reported {cs : List Char} {j : Nat} {r : Remark}
    (h : (legacyColorRemarks cs)[j]? = some r) :
    ∃ earlier s later, sites colorNames cs = earlier ++ s :: later ∧ colorRemarks s.found = [r] ∧
      (earlier.flatMap fun t => colorRemarks t.found).length = j ∧
      isBareHex (Text.trim s.found.value) = true ∧ (bareColors cs)[j]? = some s := by
  rw [legacyColorRemarks_eq] at h
  obtain ⟨earlier, s, later, hsites, hr, hlength⟩ := split_of_getElem? h
  have hbare : isBareHex (Text.trim s.found.value) = true := by
    rw [← Bool.not_eq_false]
    intro hnot
    rw [colorRemarks_of_not_isBareHex hnot] at hr
    cases hr
  refine ⟨earlier, s, later, hsites, hr, hlength, hbare, ?_⟩
  rw [length_flatMap_colorRemarks] at hlength
  rw [bareColors, hsites, List.filter_append, List.filter_cons, if_pos hbare, ← hlength]
  simp

theorem exists_color {cs : List Char} {s : Site} (h : s ∈ sites colorNames cs)
    (hbare : isBareHex (Text.trim s.found.value) = true) :
    ∃ (front right : List Char) (source : Source) (color : QuotedColor),
      IsCalled colorNames source.name ∧ cs = color.within (front ++ source.sign) [] right ∧
      s = ⟨(front ++ source.sign).length + 1, source.name, color.value []⟩ := by
  obtain ⟨front, source, right, rfl, rfl, hcalled⟩ := source_of_mem_sitesFrom isKeyword_colorNames h
  obtain ⟨lead, trail, hvalue, hlead, htrail⟩ := Text.blanks_around_trim source.value
  refine ⟨front, right, source, ⟨source.quote, lead, Text.trim source.value, trail,
    source.isQuote_quote, hlead, htrail, hbare⟩, hcalled, ?_, ?_⟩
  · rw [source.text_append_eq, source.opening_eq_sign, QuotedColor.within, QuotedColor.value,
      List.nil_append, ← hvalue]
    simp
  · rw [source.opening_eq_sign, QuotedColor.value, List.nil_append, ← hvalue, Source.quoted]
    simp [Nat.add_assoc]

theorem trim_value_hash : Text.trim (color.value ['#']) = '#' :: color.digits := by
  have hvisible : ∀ c ∈ '#' :: color.digits, Text.isBlank c = false := by
    rw [List.forall_mem_cons]
    exact ⟨by decide, fun c hc => (bareHex_facts color.isBareHex_digits hc).1⟩
  have hhead : ∀ c ∈ ('#' :: color.digits).head?, Text.isBlank c = false :=
    fun c hc => hvisible c (List.mem_of_mem_head? hc)
  have hlast : ∀ c ∈ ('#' :: color.digits).getLast?, Text.isBlank c = false :=
    fun c hc => hvisible c (List.mem_of_getLast? hc)
  exact Text.trim_of_parts color.isBlank_lead color.isBlank_trail hhead hlast

theorem colorRemarks_hash (name : List Char) : colorRemarks ⟨name, color.value ['#']⟩ = [] := by
  apply colorRemarks_of_not_isBareHex
  rw [trim_value_hash, Bool.eq_false_iff]
  intro hhex
  exact of_isBareHex (p := (· ≠ '#')) (by decide) hhex List.mem_cons_self rfl

theorem legacyColorRemarks_hash {left name : List Char} {earlier later : List Site}
    (h : sites colorNames (color.within left [] rest) =
      earlier ++ ⟨left.length + 1, name, color.value []⟩ :: later) :
    legacyColorRemarks (color.within left ['#'] rest) =
      (earlier.flatMap fun t => colorRemarks t.found) ++
        later.flatMap fun t => colorRemarks t.found := by
  have hcut : (left ++ color.quote :: color.lead).length = left.length + 1 + color.lead.length := by
    simp only [List.length_append, List.length_cons]
    omega
  have hpairs := pairwise_sitesFrom isKeyword_colorNames 0 none (color.within left [] rest)
  change (sites colorNames _).Pairwise _ at hpairs
  rw [h, List.pairwise_append] at hpairs
  obtain ⟨-, hlater, hearlier⟩ := hpairs
  have hinside : Site.withHash (left.length + 1 + color.lead.length)
      ⟨left.length + 1, name, color.value []⟩ = ⟨name, color.value ['#']⟩ :=
    Site.withHash_inside (left.length + 1) name color.lead (color.digits ++ color.trail)
  have hsame {list : List Site}
      (hlist : ∀ t ∈ list, t.withHash (left.length + 1 + color.lead.length) = t.found) :
      (list.map (Site.withHash (left.length + 1 + color.lead.length))).flatMap colorRemarks =
        list.flatMap fun t => colorRemarks t.found := by
    rw [List.map_congr_left hlist, List.flatMap_map]
  rw [legacyColorRemarks, within_eq_append, List.singleton_append,
    all_hash isKeyword_colorNames (isCut_color color rest left), hcut]
  rw [within_eq_append, List.nil_append] at h
  rw [h, List.map_append, List.map_cons, List.flatMap_append, List.flatMap_cons, hinside,
    colorRemarks_hash, List.nil_append, hsame, hsame]
  · intro t ht
    apply Site.withHash_of_lt
    have hlt := (List.pairwise_cons.mp hlater).1 t ht
    simp only [QuotedColor.value, List.length_append, List.length_nil] at hlt
    omega
  · intro t ht
    apply Site.withHash_of_gt
    have hlt := hearlier t ht _ List.mem_cons_self
    dsimp only at hlt
    omega

theorem insertIdx_firstDigit (left name : List Char) :
    (color.within left [] rest).insertIdx (firstDigit ⟨left.length + 1, name, color.value []⟩) '#' =
      color.within left ['#'] rest := by
  have hlead : (color.value []).takeWhile Text.isBlank = color.lead := by
    rw [QuotedColor.value, List.nil_append]
    apply (span_of_head color.isBlank_lead _).1
    intro c hc
    exact (bareHex_facts color.isBareHex_digits (mem_digits_of_head color hc)).1
  have hplace : firstDigit ⟨left.length + 1, name, color.value []⟩ =
      (left ++ color.quote :: color.lead).length := by
    simp only [firstDigit, hlead, List.length_append, List.length_cons]
    omega
  rw [hplace, within_eq_append, List.nil_append, insertIdx_append, within_eq_append,
    List.singleton_append]

include hcolor in
theorem codes_styleRemarks :
    (styleRemarks (color.within (front ++ source.sign) ['#'] rest)).map Remark.code =
      (styleRemarks (color.within (front ++ source.sign) [] rest)).map Remark.code := by
  have hhash : ∀ c ∈ ['#'], c = '#' := by simp
  have hfirst := first_hash hcolor color front rest (by decide : "style" ∈ firstNames)
    (f := fun value => (Style.remarks value).map Remark.code) (color.codes_styleRemarks hhash)
  rw [codes_styleRemarks_eq, codes_styleRemarks_eq, hfirst]

include hcolor in
theorem codes_linkRemarks :
    (linkRemarks (color.within (front ++ source.sign) ['#'] rest)).map Remark.code =
      (linkRemarks (color.within (front ++ source.sign) [] rest)).map Remark.code := by
  rw [codes_linkRemarks_eq, codes_linkRemarks_eq,
    first_hash hcolor color front rest (by decide) (linkCodes_within color)]

end Edit

theorem codes_remarks {text : String} {cs : List Char} (h : text.toList = cs) (tagName : String) :
    (remarks text tagName).map Remark.code =
      (parityRemarks cs).map Remark.code ++ (styleRemarks cs).map Remark.code ++
        (legacyColorRemarks cs).map Remark.code ++
        if tagName = "a" then (linkRemarks cs).map Remark.code else [] := by
  rw [remarks, h]
  split <;> simp

theorem eraseIdx_at {α : Type} {front : List α} {k : Nat} (h : front.length = k) (a : α)
    (back : List α) : (front ++ a :: back).eraseIdx k = front ++ back := by
  rw [← h, List.eraseIdx_append_of_length_le (Nat.le_refl _), Nat.sub_self, List.eraseIdx_cons_zero]

/-- A hash directly before the digits of a color that is reported removes this finding and no other,
whatever else the attributes hold. -/
theorem hash_removes_its_finding (attributes tagName : String) (line : Line) {j : Nat} {r : Remark}
    (h : (legacyColorRemarks attributes.toList)[j]? = some r) :
    let cs := attributes.toList
    let found := fun text => (remarks text tagName).map line.place.finding
    let index := (parityRemarks cs ++ styleRemarks cs).length + j
    (found attributes)[index]? = some (line.place.finding r) ∧ r.code = .missingHash ∧
    ∃ s, (bareColors cs)[j]? = some s ∧ colorRemarks s.found = [r] ∧
      let edited := cs.insertIdx (firstDigit s) '#'
      (∃ (color : QuotedColor) (left right : List Char), s.place = left.length + 1 ∧
        s.found.value = color.value [] ∧ cs = color.within left [] right ∧
        edited = color.within left ['#'] right) ∧
      legacyColorRemarks edited = (legacyColorRemarks cs).eraseIdx j ∧
      (found (String.ofList edited)).map Finding.code =
        ((found attributes).map Finding.code).eraseIdx index := by
  intro cs found index
  have hreported : (legacyColorRemarks cs)[j]? = some r := h
  obtain ⟨earlier, s, later, hsites, hr, hlength, hbare, hsite⟩ := site_of_reported hreported
  obtain ⟨front, right, source, color, hcalled, hcs, rfl⟩ :=
    exists_color (hsites ▸ List.mem_append_right _ List.mem_cons_self) hbare
  have hlegacy : legacyColorRemarks cs = (earlier.flatMap fun t => colorRemarks t.found) ++
      r :: later.flatMap fun t => colorRemarks t.found := by
    rw [legacyColorRemarks_eq, hsites, List.flatMap_append, List.flatMap_cons, hr,
      List.singleton_append]
  have hrest : legacyColorRemarks (color.within (front ++ source.sign) ['#'] right) =
      (earlier.flatMap fun t => colorRemarks t.found) ++
        later.flatMap fun t => colorRemarks t.found :=
    legacyColorRemarks_hash color right (hcs ▸ hsites)
  refine ⟨?_, code_of_mem_colorRemarks (hr ▸ List.mem_singleton_self r), _, hsite, hr, ?_⟩
  · have hfound : found attributes =
        (parityRemarks cs ++ styleRemarks cs ++ legacyColorRemarks cs ++
          if tagName = "a" then linkRemarks cs else []).map line.place.finding := rfl
    rw [hfound, List.getElem?_map, List.append_assoc,
      List.getElem?_append_right (Nat.le_add_right _ _), Nat.add_sub_cancel_left,
      List.getElem?_append_left (List.getElem?_eq_some_iff.mp hreported).1, hreported]
    rfl
  · intro edited
    have hedited : edited = color.within (front ++ source.sign) ['#'] right := by
      rw [← insertIdx_firstDigit color right (front ++ source.sign) source.name, ← hcs]
    refine ⟨⟨color, _, right, rfl, rfl, hcs, hedited⟩, ?_, ?_⟩
    · rw [hedited, hrest, hlegacy, eraseIdx_at hlength]
    · have hcodes (text : String) :
          (found text).map Finding.code = (remarks text tagName).map Remark.code := by
        rw [List.map_map]
        rfl
      have hindex : ((parityRemarks cs).map Remark.code ++ (styleRemarks cs).map Remark.code ++
          (earlier.flatMap fun t => colorRemarks t.found).map Remark.code).length = index := by
        simp only [index, List.length_append, List.length_map, hlength]
      have hplain : (remarks attributes tagName).map Remark.code =
          ((parityRemarks cs).map Remark.code ++ (styleRemarks cs).map Remark.code ++
            (earlier.flatMap fun t => colorRemarks t.found).map Remark.code) ++
          r.code :: ((later.flatMap fun t => colorRemarks t.found).map Remark.code ++
            if tagName = "a" then (linkRemarks cs).map Remark.code else []) := by
        have hchars : attributes.toList = cs := rfl
        rw [codes_remarks hchars, hlegacy]
        simp
      rw [hcodes, hcodes, hplain, eraseIdx_at hindex, codes_remarks String.toList_ofList, hedited,
        hrest, codes_parityRemarks, codes_styleRemarks hcalled, codes_linkRemarks hcalled, ← hcs]
      simp

theorem nested_color_gets_its_hash :
    let text := " style=\"A: 1PX; color=' fff ' b: c\" BGCOLOR=\"abc\" href='x' \""
    let edited := " style=\"A: 1PX; color=' #fff ' b: c\" BGCOLOR=\"abc\" href='x' \""
    let codes := fun text =>
      ((remarks text "a").map (Line.place ⟨1, "<a>"⟩).finding).map Finding.code
    (legacyColorRemarks text.toList).map Remark.errorTag = ["color=\"fff\"", "BGCOLOR=\"abc\""] ∧
      (legacyColorRemarks edited.toList).map Remark.errorTag = ["BGCOLOR=\"abc\""] ∧
      codes text = [.missingClosingQuote, .uppercaseProperty, .uppercaseUnit, .missingHash,
        .missingHash, .missingProtocol] ∧
      codes edited = (codes text).eraseIdx 3 := by
  intro text edited codes
  have hreported : (legacyColorRemarks text.toList)[0]? = some ⟨.missingHash, "color=\"fff\"",
      "Hex color value \"fff\" in color attribute is missing a leading '#'."⟩ := by
    decide +kernel
  obtain ⟨-, -, s, hs, -, -, hlegacy, hcodes⟩ :=
    hash_removes_its_finding text "a" ⟨1, "<a>"⟩ hreported
  have hsite : (bareColors text.toList)[0]? = some ⟨23, "color".toList, " fff ".toList⟩ := by
    decide +kernel
  obtain rfl := Option.some.inj (hs.symm.trans hsite)
  have hedited : text.toList.insertIdx (firstDigit ⟨23, "color".toList, " fff ".toList⟩) '#' =
      edited.toList := by
    decide
  have hindex : (parityRemarks text.toList ++ styleRemarks text.toList).length + 0 = 3 := by
    decide +kernel
  rw [hedited] at hlegacy hcodes
  rw [String.ofList_toList, hindex] at hcodes
  exact ⟨by decide +kernel, by rw [hlegacy]; decide +kernel, by decide +kernel, hcodes⟩

end Attribute

end MailMarkup
