import MailMarkup.Proofs.Declarations
import MailMarkup.Proofs.OpenValue

namespace MailMarkup

def hexCodes : List Nat := List.range' 48 10 ++ List.range' 65 6 ++ List.range' 97 6

theorem of_isBareHex {p : Char → Prop} (h : ∀ n ∈ hexCodes, p (Char.ofNat n)) {hex : List Char}
    (hhex : isBareHex hex = true) {c : Char} (hc : c ∈ hex) : p c := by
  have hdigit := List.all_eq_true.mp (Bool.and_eq_true_iff.mp hhex).2 c hc
  have hcode : c.toNat ∈ hexCodes := by
    simp only [Bool.or_eq_true, decide_eq_true_eq] at hdigit
    simp only [hexCodes, List.mem_append, List.mem_range'_1]
    rcases hdigit with (hdigit | ⟨hge, hle⟩) | ⟨hge, hle⟩
    · obtain ⟨hge, hle⟩ := Bool.and_eq_true_iff.mp hdigit
      have hge : 48 ≤ c.toNat := UInt32.le_iff_toNat_le.mp (of_decide_eq_true hge)
      have hle : c.toNat ≤ 57 := UInt32.le_iff_toNat_le.mp (of_decide_eq_true hle)
      omega
    · have hge : 97 ≤ c.toNat := UInt32.le_iff_toNat_le.mp hge
      have hle : c.toNat ≤ 102 := UInt32.le_iff_toNat_le.mp hle
      omega
    · have hge : 65 ≤ c.toNat := UInt32.le_iff_toNat_le.mp hge
      have hle : c.toNat ≤ 70 := UInt32.le_iff_toNat_le.mp hle
      omega
  have hletter := h c.toNat hcode
  rwa [Char.ofNat_toNat] at hletter

theorem bareHex_facts {hex : List Char} (h : isBareHex hex = true) {c : Char} (hc : c ∈ hex) :
    Text.isBlank c = false ∧ c ≠ '!' :=
  of_isBareHex (p := fun c => Text.isBlank c = false ∧ c ≠ '!') (by decide) h hc

theorem mark_not_mem_of_isBareHex {cs : List Char} (h : isBareHex (Text.trim cs) = true) :
    '!' ∉ cs :=
  fun hmem => (bareHex_facts h (Text.mem_trim hmem (by decide))).2 rfl

namespace Style

def IsImportant (word : List Char) : Prop := word.map Char.toLower = "!important".toList

/-- What is left out of a value: the word in any case, with either of the foreign letters for its i
as well. -/
def IsLeftOut (word : List Char) : Prop :=
  List.Forall₂ (fun k c => Text.sameLetter k c = true) "!important".toList word

def IsBareColor (value : List Char) : Prop :=
  ∃ hex gap word, value = hex ++ (gap ++ word) ∧ isBareHex hex = true ∧
    (∀ c ∈ gap, Text.isBlank c = true) ∧ (gap = [] ∧ word = [] ∨ IsImportant word)

/-- The digits of a color that lacks its hash around or behind `!important`, or before the word in a
spelling of its own. -/
def HasStrayImportant (value : List Char) : Prop :=
  ∃ front word back, value = front ++ (word ++ back) ∧ IsLeftOut word ∧
    isBareHex (Text.trim (front ++ back)) = true ∧ (back = [] → ¬ IsImportant word)

instance (word : List Char) : Decidable (IsImportant word) :=
  inferInstanceAs (Decidable (word.map Char.toLower = _))

instance (word : List Char) : Decidable (IsLeftOut word) :=
  inferInstanceAs (Decidable (List.Forall₂ _ _ word))

theorem IsImportant.isLeftOut {word : List Char} (h : IsImportant word) : IsLeftOut word :=
  Text.sameLetters_of_toLower h

theorem IsLeftOut.eq_mark_cons {word : List Char} (h : IsLeftOut word) :
    ∃ letters, word = '!' :: letters ∧ letters.length = 9 := by
  obtain ⟨c, letters, hmark, hletters, rfl⟩ := List.forall₂_cons_left_iff.mp h
  rw [Text.eq_of_sameLetter_mark hmark]
  exact ⟨letters, rfl, hletters.length_eq.symm⟩

theorem withoutImportant_append {front : List Char} (h : '!' ∉ front) (cs : List Char) :
    withoutImportant (front ++ cs) = front ++ withoutImportant cs := by
  induction front with
  | nil => rfl
  | cons c front ih =>
    rw [List.mem_cons, not_or] at h
    have hletter : Text.sameLetter '!' c = false := by
      rw [Bool.eq_false_iff]
      exact fun hmark => h.1 (Text.eq_of_sameLetter_mark hmark).symm
    have hnone : Text.keyword? "!important".toList (c :: (front ++ cs)) = none := by
      change Text.keyword? ('!' :: "important".toList) (c :: (front ++ cs)) = none
      rw [Text.keyword?, hletter]
      rfl
    rw [List.cons_append, withoutImportant, hnone, List.cons_append, ← ih h.2]

theorem withoutImportant_of_isLeftOut {word : List Char} (h : IsLeftOut word) (back : List Char) :
    withoutImportant (word ++ back) = back := by
  have hkey := Text.keyword?_append h back
  obtain ⟨letters, rfl, -⟩ := h.eq_mark_cons
  rw [List.cons_append] at hkey ⊢
  rw [withoutImportant, hkey]

theorem withoutImportant_cases (value : List Char) :
    withoutImportant value = value ∨ ∃ front word back, value = front ++ (word ++ back) ∧
      IsLeftOut word ∧ withoutImportant value = front ++ back := by
  induction value with
  | nil => exact Or.inl rfl
  | cons c value ih =>
    cases hkey : Text.keyword? "!important".toList (c :: value) with
    | some read =>
      refine Or.inr ⟨[], read.1, read.2, (Text.append_of_keyword? hkey).symm,
        Text.sameLetters_of_keyword? hkey, ?_⟩
      rw [withoutImportant, hkey, List.nil_append]
    | none =>
      have hcons : withoutImportant (c :: value) = c :: withoutImportant value := by
        rw [withoutImportant, hkey]
      rcases ih with hsame | ⟨front, word, back, rfl, hword, hrest⟩
      · exact Or.inl (by rw [hcons, hsame])
      · exact Or.inr ⟨c :: front, word, back, rfl, hword, by rw [hcons, hrest, List.cons_append]⟩

theorem trim_of_isBareHex {hex gap : List Char} (h : isBareHex hex = true)
    (hgap : ∀ c ∈ gap, Text.isBlank c = true) : Text.trim (hex ++ gap) = hex := by
  have hnil : ∀ c ∈ ([] : List Char), Text.isBlank c = true := List.forall_mem_nil _
  exact Text.trim_of_parts hnil hgap (fun _ hc => (bareHex_facts h (List.mem_of_mem_head? hc)).1)
    (fun _ hc => (bareHex_facts h (List.mem_of_getLast? hc)).1)

theorem IsBareColor.isBareHex_withoutImportant {value : List Char} (h : IsBareColor value) :
    isBareHex (Text.trim (withoutImportant value)) = true := by
  obtain ⟨hex, gap, word, rfl, hhex, hgap, hword⟩ := h
  have htrim := trim_of_isBareHex hhex hgap
  have hmark : '!' ∉ hex ++ gap := mark_not_mem_of_isBareHex (by rwa [htrim])
  have hrest : withoutImportant word = [] := by
    rcases hword with ⟨-, rfl⟩ | hword
    · rfl
    · rw [← List.append_nil word]
      exact withoutImportant_of_isLeftOut hword.isLeftOut []
  rwa [← List.append_assoc, withoutImportant_append hmark, hrest, List.append_nil, htrim]

theorem HasStrayImportant.isBareHex_withoutImportant {value : List Char}
    (h : HasStrayImportant value) : isBareHex (Text.trim (withoutImportant value)) = true := by
  obtain ⟨front, word, back, rfl, hword, hhex, -⟩ := h
  have hmark : '!' ∉ front :=
    fun hmem => mark_not_mem_of_isBareHex hhex (List.mem_append_left _ hmem)
  rwa [withoutImportant_append hmark, withoutImportant_of_isLeftOut hword]

theorem isBareColor_or_hasStrayImportant {value : List Char} (htrim : Text.trim value = value)
    (h : isBareHex (Text.trim (withoutImportant value)) = true) :
    IsBareColor value ∨ HasStrayImportant value := by
  rcases withoutImportant_cases value with hsame | ⟨front, word, back, rfl, hword, hrest⟩
  · rw [hsame, htrim] at h
    exact Or.inl ⟨value, [], [], by simp, h, List.forall_mem_nil _, Or.inl ⟨rfl, rfl⟩⟩
  · rw [hrest] at h
    by_cases hback : back = [] → ¬ IsImportant word
    · exact Or.inr ⟨front, word, back, rfl, hword, h, hback⟩
    · obtain ⟨rfl, himportant⟩ := Classical.not_imp.mp hback
      rw [List.append_nil] at h htrim ⊢
      obtain ⟨left, gap, hfront, hleft, hgap⟩ := Text.blanks_around_trim front
      -- the value has no blank in front, so the digits are its beginning
      have hnil : left = [] := by
        cases left with
        | nil => rfl
        | cons c left =>
          have hc : c ∈ (Text.trim (front ++ word)).head? := by
            rw [htrim, hfront]
            rfl
          have hvisible := Text.isBlank_of_head_trim c hc
          rw [hleft c List.mem_cons_self] at hvisible
          cases hvisible
      rw [hnil, List.nil_append] at hfront
      refine Or.inl ⟨Text.trim front, gap, word, ?_, h, hgap, Or.inr (not_not.mp himportant)⟩
      rw [← List.append_assoc, ← hfront]

theorem HasStrayImportant.not_isBareColor {value : List Char} (h : HasStrayImportant value) :
    ¬ IsBareColor value := by
  rintro ⟨hex, gap, word', hvalue, hhex, hgap, hword'⟩
  obtain ⟨front, word, back, rfl, hword, hrest, hstray⟩ := h
  have htrim := trim_of_isBareHex hhex hgap
  have hmark : '!' ∉ hex ++ gap := mark_not_mem_of_isBareHex (by rwa [htrim])
  have hfront : '!' ∉ front :=
    fun hmem => mark_not_mem_of_isBareHex hrest (List.mem_append_left _ hmem)
  obtain ⟨letters, rfl, hlength⟩ := hword.eq_mark_cons
  rw [List.cons_append, ← List.append_assoc hex] at hvalue
  rcases hword' with ⟨rfl, rfl⟩ | hword'
  · rw [List.append_nil] at hvalue
    exact hmark (hvalue ▸ by simp)
  · obtain ⟨letters', rfl, hlength'⟩ := hword'.isLeftOut.eq_mark_cons
    -- both words begin at the first mark of the value, and both have ten letters
    have hsplit := congrArg (List.dropWhile (· != '!')) hvalue
    rw [(span_at hfront _).2, (span_at hmark _).2] at hsplit
    have hletters : letters ++ back = letters' := (List.cons.inj hsplit).2
    have hback : back = [] := by
      rw [← List.length_eq_zero_iff]
      have hlengths := congrArg List.length hletters
      rw [List.length_append] at hlengths
      omega
    rw [hback, List.append_nil] at hletters
    exact hstray hback (hletters ▸ hword')

theorem declarationRemarks_of_parts {property : List Char} (h : ':' ∉ property)
    (behind : List Char) :
    declarationRemarks (property ++ ':' :: behind) =
      semicolonRemarks (property ++ ':' :: behind) ++ propertyRemarks (Text.trim property) ++
        (Text.words (Text.trim behind)).flatMap unitRemarks ++
        colorRemarks (Text.trim property) (Text.trim behind) := by
  obtain ⟨htake, hdrop⟩ := span_at h behind
  rw [declarationRemarks, hdrop, htake]

theorem missingHash_mem_remarks_iff {property behind : List Char} (hcolon : ':' ∉ property)
    (hproperty : ';' ∉ property) (hbehind : ';' ∉ behind) :
    (∃ r ∈ remarks (property ++ ':' :: behind), r.code = .missingHash) ↔
      isColorProperty (Text.trim property) = true ∧
        isBareHex (Text.trim (withoutImportant (Text.trim behind))) = true := by
  have hvisible : Text.isBlank ':' = false := by decide
  have hne : Text.trim (property ++ ':' :: behind) ≠ [] :=
    Text.trim_ne_nil (List.mem_append_right property List.mem_cons_self) hvisible
  have hleft : ':' ∉ Text.trimLeft property :=
    fun hmem => hcolon ((Text.trimLeft_suffix_self property).subset hmem)
  rw [remarks, declarations_eq_parts, parts_of_free (by simp [hproperty, hbehind]), if_neg hne,
    List.flatMap_singleton, Text.trim_append_cons hvisible, declarationRemarks_of_parts hleft,
    Text.trim_trimLeft, Text.trim_trimRight]
  constructor
  · rintro ⟨r, hr, hcode⟩
    simp only [List.mem_append, List.mem_flatMap] at hr
    rcases hr with ((hr | hr) | ⟨word, -, hr⟩) | hr
    · rw [code_of_mem_semicolonRemarks hr] at hcode
      cases hcode
    · rw [code_of_mem_propertyRemarks hr] at hcode
      cases hcode
    · rw [code_of_mem_unitRemarks hr] at hcode
      cases hcode
    · rw [colorRemarks, List.mem_ite_nil_right, Bool.and_eq_true] at hr
      exact hr.1
  · intro hbare
    rw [colorRemarks, if_pos (Bool.and_eq_true_iff.mpr hbare)]
    exact ⟨_, List.mem_append_right _ List.mem_cons_self, rfl⟩

end Style

namespace Attribute

open QuotedAttribute (Item IsCalled written)

theorem all_of_not_isCalled {names : List String} (hmem : names ∈ checkedNames) {a : Item}
    (ha : ¬ IsCalled names a.name) : QuotedAttribute.all names a.written = [] := by
  have hnames := isKeyword_of_checked hmem
  have hall := QuotedAttribute.allFrom_of_not_isCalled hnames ha [] [] none
  rw [List.append_nil, QuotedAttribute.allFrom_last hnames a.isQuote_value] at hall
  exact hall

theorem remarks_style {style : List Char} (hdouble : '\x22' ∉ style) (hsingle : '\x27' ∉ style)
    (tagName : String) :
    remarks (String.ofList (written ⟨"style".toList, style⟩)) tagName = Style.remarks style := by
  let a : Item := ⟨⟨"style".toList, style⟩, List.all_eq_true.mp rfl, hdouble, hsingle⟩
  have hcolor : ¬ IsCalled colorNames "style".toList := by decide
  have hlink : ¬ IsCalled ["href"] "style".toList := by decide
  have htext : Item.text [a] = written ⟨"style".toList, style⟩ := List.append_nil _
  have hcolors : legacyColorRemarks (written ⟨"style".toList, style⟩) = [] := by
    rw [legacyColorRemarks, all_of_not_isCalled (a := a) (by decide) hcolor, List.flatMap_nil]
  have hlinks : linkRemarks (written ⟨"style".toList, style⟩) = [] := by
    rw [linkRemarks, all_of_not_isCalled (a := a) (by decide) hlink]
  rw [← htext, remarks_text, htext, styleRemarks_written hdouble, hcolors, hlinks, ite_self,
    List.append_nil, List.append_nil]

/-- A color is reported to lack its hash if it does, and also where `!important` stands before or
between its digits or is spelled with a foreign letter; no value is both. -/
theorem bare_color_is_reported_iff {property value : List Char}
    (hproperty : property.Disjoint [':', ';', '\x22', '\x27'])
    (hvalue : value.Disjoint [';', '\x22', '\x27']) (tagName : String) (line : Line) :
    let style := property ++ ':' :: ' ' :: value
    let found := (remarks (String.ofList (written ⟨"style".toList, style⟩)) tagName).map
      line.place.finding
    ((∃ f ∈ found, f.code = .missingHash) ↔
      "color".toList <:+: Text.lower (Text.trim property) ∧
        (Style.IsBareColor (Text.trim value) ∨ Style.HasStrayImportant (Text.trim value))) ∧
    ¬ (Style.IsBareColor (Text.trim value) ∧ Style.HasStrayImportant (Text.trim value)) := by
  intro style found
  simp only [List.disjoint_cons_right] at hproperty hvalue
  obtain ⟨hcolon, hsemicolon, hdouble, hsingle, -⟩ := hproperty
  obtain ⟨hsemicolon', hdouble', hsingle', -⟩ := hvalue
  have hall : found = (Style.remarks style).map line.place.finding :=
    congrArg (List.map line.place.finding) (remarks_style (by simp [style, hdouble, hdouble'])
      (by simp [style, hsingle, hsingle']) tagName)
  have hblank : ∀ c ∈ [' '], Text.isBlank c = true := List.all_eq_true.mp rfl
  have htrim : Text.trim (' ' :: value) = Text.trim value := by
    have hpadded := Text.trim_padded hblank (List.forall_mem_nil _) value
    rwa [List.append_nil] at hpadded
  have hbehind : ';' ∉ ' ' :: value := by simp [hsemicolon']
  have hhash := Style.missingHash_mem_remarks_iff hcolon hsemicolon hbehind
  rw [htrim, Style.isColorProperty, Text.occursIn_iff] at hhash
  have hfound : (∃ f ∈ found, f.code = .missingHash) ↔
      ∃ r ∈ Style.remarks style, r.code = .missingHash := by
    simp [hall, Place.finding]
  constructor
  · rw [hfound, hhash]
    exact and_congr_right fun _ => ⟨Style.isBareColor_or_hasStrayImportant (Text.trim_trim value),
      fun h => h.elim (·.isBareHex_withoutImportant) (·.isBareHex_withoutImportant)⟩
  · rintro ⟨hbare, hstray⟩
    exact hstray.not_isBareColor hbare

theorem important_color_is_reported :
    ∃ f ∈ (remarks " style=\" Background-COLOR :  0aF\u3000!Important \"" "td").map
      (Line.place ⟨1, ""⟩).finding, f.code = .missingHash := by
  have hproperty : " Background-COLOR ".toList.Disjoint [':', ';', '\x22', '\x27'] := by simp
  have hvalue : " 0aF\u3000!Important ".toList.Disjoint [';', '\x22', '\x27'] := by simp
  refine (bare_color_is_reported_iff hproperty hvalue "td" ⟨1, ""⟩).1.mpr ⟨?_, Or.inl ?_⟩
  · exact Text.occursIn_iff.mp (by decide +kernel)
  · exact ⟨"0aF".toList, "\u3000".toList, "!Important".toList, by decide +kernel, by decide,
      List.all_eq_true.mp rfl, Or.inr (by decide)⟩

theorem misplaced_important_is_reported :
    (¬ Style.IsBareColor "!important fff".toList ∧
      (remarks " style=\"color: !important fff\"" "td").map (·.code) = [.missingHash]) ∧
    (¬ Style.IsBareColor "f!importantff".toList ∧
      (remarks " style=\"color: f!importantff\"" "td").map (·.code) = [.missingHash]) ∧
    ¬ Style.IsBareColor "fff !\u0131mportant".toList ∧
      (remarks " style=\"color: fff !\u0131mportant\"" "td").map (·.code) = [.missingHash] := by
  have hword : Style.IsLeftOut "!important".toList := by decide
  have hforeign : Style.IsLeftOut "!\u0131mportant".toList := by decide
  have hbefore : Style.HasStrayImportant "!important fff".toList :=
    ⟨[], _, " fff".toList, rfl, hword, by decide +kernel, by decide⟩
  have hbetween : Style.HasStrayImportant "f!importantff".toList :=
    ⟨['f'], _, "ff".toList, rfl, hword, by decide +kernel, by decide⟩
  have hspelled : Style.HasStrayImportant "fff !\u0131mportant".toList :=
    ⟨"fff ".toList, _, [], rfl, hforeign, by decide +kernel, by decide⟩
  exact ⟨⟨hbefore.not_isBareColor, by decide +kernel⟩,
    ⟨hbetween.not_isBareColor, by decide +kernel⟩, hspelled.not_isBareColor, by decide +kernel⟩

end Attribute

end MailMarkup
