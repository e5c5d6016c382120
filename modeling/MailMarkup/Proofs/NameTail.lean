import MailMarkup.Proofs.AttributeReading
import MailMarkup.Proofs.Excerpts

namespace MailMarkup

namespace QuotedAttribute

def isNamePart (c : Char) : Bool :=
  !Text.isBlank c && !isQuote c && !(['=', '/', '<', '>'].contains c)

theorem namePart_facts {c : Char} (h : isNamePart c = true) :
    Text.isBlank c = false ∧ isQuote c = false ∧ c ≠ '=' := by
  simp only [isNamePart, Bool.and_eq_true, Bool.not_eq_true'] at h
  refine ⟨h.1.1, h.1.2, ?_⟩
  rintro rfl
  exact absurd h.2 (by decide)

theorem mayStart_eq_true_iff {c : Char} :
    mayStart (some c) = true ↔ Text.isWord c = false ∧ c ≠ '-' := by
  simp [mayStart]

section Tail

variable {names : List String} (hnames : ∀ name ∈ names, Text.IsKeyword name.toList)
include hnames

theorem allFrom_gapped (a : QuotedAttribute) :
    all names a.written =
      allFrom names [] (some ' ') (a.name ++ '=' :: '\x22' :: (a.value ++ ['\x22'])) :=
  allFrom_pass (Or.inr (read?_mark hnames (Or.inl (by decide)) _)) []

theorem read?_of_longer {a : QuotedAttribute} (h : ¬ IsCalled names a.name)
    (hname : ∀ c ∈ a.name, isNamePart c = true) (hvalue : '\x22' ∉ a.value) :
    read? names (a.name ++ '=' :: '\x22' :: (a.value ++ ['\x22'])) = none := by
  rw [← a.text_source hvalue, ← List.append_nil (a.source hvalue).text]
  apply read?_of_not_isCalled hnames (a.source hvalue) h
  intro c hc
  obtain ⟨hblank, -, hsign⟩ := namePart_facts (hname c hc)
  exact ⟨hblank, hsign⟩

theorem all_behind_mark {front tail value : List Char} {c : Char}
    (hname : ∀ d ∈ front ++ c :: tail, isNamePart d = true) (hc : mayStart (some c) = true)
    (hvalue : '\x22' ∉ value) :
    all names (written ⟨front ++ c :: tail, value⟩) = all names (written ⟨tail, value⟩) := by
  -- no watched name has a mark in it, so none begins before the mark and reaches to the sign
  have hsilent {back : List Char} (hback : back <:+ front) :
      read? names (back ++ c :: (tail ++ '=' :: '\x22' :: (value ++ ['\x22']))) = none := by
    have hmark : ¬ IsCalled names (back ++ c :: tail) := by
      intro hcalled
      have hword := hcalled.isWord hnames c (by simp)
      rw [(word_facts hword).2.2.2] at hc
      cases hc
    have hpart : ∀ d ∈ back ++ c :: tail, isNamePart d = true := by
      intro d hd
      apply hname d
      rcases List.mem_append.mp hd with hd | hd
      · exact List.mem_append_left _ (hback.subset hd)
      · exact List.mem_append_right _ hd
    have hread := read?_of_longer hnames (a := ⟨back ++ c :: tail, value⟩) hmark hpart hvalue
    rwa [List.append_assoc, List.cons_append] at hread
  rw [allFrom_gapped hnames, allFrom_gapped hnames, List.append_assoc, List.cons_append,
    allFrom_quiet, allFrom_pass (Or.inr (hsilent (List.nil_suffix)))]
  · exact allFrom_congr (hc.trans (mayStart_of_isBlank (by decide)).symm) [] _
  · rintro front' d back rfl
    exact Or.inr (hsilent (List.suffix_append front' (d :: back)))

theorem all_of_longer {a : QuotedAttribute} (hname : ∀ c ∈ a.name, isNamePart c = true)
    (hvalue : ∀ c ∈ a.value, isQuote c = false) (hwhole : ¬ IsCalled names a.name)
    (htail : ∀ front c tail, a.name = front ++ c :: tail → IsCalled names tail →
      mayStart (some c) = false) : all names a.written = [] := by
  rw [allFrom_gapped hnames, allFrom_quiet,
    allFrom_pass (Or.inr (read?_mark hnames (Or.inr (Or.inl rfl)) _)),
    allFrom_pass (Or.inr (read?_mark hnames (Or.inr (Or.inr rfl)) _)), allFrom_last hnames hvalue,
    List.reverse_nil]
  intro front d back hsplit
  by_cases hcalled : IsCalled names (d :: back)
  · left
    rcases List.eq_nil_or_concat' front with rfl | ⟨front, c, rfl⟩
    · rw [hsplit, List.nil_append] at hwhole
      exact absurd hcalled hwhole
    · rw [List.getLast?_concat]
      exact htail front c (d :: back) (by simp [hsplit]) hcalled
  · right
    exact read?_of_longer hnames (a := ⟨d :: back, a.value⟩) hcalled
      (fun c hc => hname c (hsplit ▸ List.mem_append_right front hc))
      (not_mem_of_isQuote hvalue rfl)

end Tail

end QuotedAttribute

namespace Attribute

open QuotedAttribute (IsCalled isQuote isNamePart written)

def checkedNames : List (List String) := [["style"], colorNames, ["href"]]

def watchedNames : List String := checkedNames.flatten

theorem isKeyword_of_checked {names : List String} (h : names ∈ checkedNames) :
    ∀ name ∈ names, Text.IsKeyword name.toList := by
  have hall : ∀ names ∈ checkedNames, ∀ name ∈ names, Text.IsKeyword name.toList := by decide
  exact hall names h

theorem subset_watchedNames {names : List String} (h : names ∈ checkedNames) :
    names ⊆ watchedNames :=
  fun _ hname => List.mem_flatten.mpr ⟨names, h, hname⟩

/-- Nothing tells the two apart: they have one value, and it is no color unless the names are the
same as well. -/
def Alike (a b : QuotedAttribute) : Prop :=
  a.value = b.value ∧ (a.name = b.name ∨ '=' ∈ a.value)

theorem Alike.all_refl (found : List QuotedAttribute) : List.Forall₂ Alike found found :=
  List.forall₂_same.mpr fun _ _ => ⟨rfl, Or.inl rfl⟩

theorem colorRemarks_eq_nil {a : QuotedAttribute} (h : '=' ∈ a.value) : colorRemarks a = [] := by
  have hmem : '=' ∈ Text.trim a.value := Text.mem_trim h (by decide)
  have hhex : isBareHex (Text.trim a.value) = false := by
    rw [Bool.eq_false_iff]
    intro hbare
    exact absurd (List.all_eq_true.mp (Bool.and_eq_true_iff.mp hbare).2 '=' hmem) (by decide)
  simp [colorRemarks, hhex]

theorem Alike.colorRemarks_eq {a b : QuotedAttribute} (h : Alike a b) :
    colorRemarks a = colorRemarks b := by
  obtain ⟨hvalue, hname | hsign⟩ := h
  · rw [colorRemarks, colorRemarks, hvalue, hname]
  · rw [colorRemarks_eq_nil hsign, colorRemarks_eq_nil (hvalue ▸ hsign)]

theorem flatMap_colorRemarks_eq {as bs : List QuotedAttribute} (h : List.Forall₂ Alike as bs) :
    as.flatMap colorRemarks = bs.flatMap colorRemarks := by
  induction h with
  | nil => rfl
  | cons halike _ ih => rw [List.flatMap_cons, List.flatMap_cons, halike.colorRemarks_eq, ih]

theorem remarks_eq_of_alike {as bs : List Char} (has : QuotedAttribute.EvenQuotes as)
    (hbs : QuotedAttribute.EvenQuotes bs)
    (h : ∀ names ∈ checkedNames,
      List.Forall₂ Alike (QuotedAttribute.all names as) (QuotedAttribute.all names bs))
    (tagName : String) :
    remarks (String.ofList as) tagName = remarks (String.ofList bs) tagName := by
  have hstyle : styleRemarks as = styleRemarks bs := by
    have hall := h ["style"] (by decide)
    unfold styleRemarks
    generalize QuotedAttribute.all ["style"] as = found, QuotedAttribute.all ["style"] bs = found' at hall
    cases hall with
    | nil => rfl
    | cons halike _ => exact congrArg Style.remarks halike.1
  have hcolor : legacyColorRemarks as = legacyColorRemarks bs :=
    flatMap_colorRemarks_eq (h colorNames (by decide))
  have hlink : linkRemarks as = linkRemarks bs := by
    have hall := h ["href"] (by decide)
    unfold linkRemarks
    generalize QuotedAttribute.all ["href"] as = found, QuotedAttribute.all ["href"] bs = found' at hall
    cases hall with
    | nil => rfl
    | cons halike _ => simp only [halike.1]
  simp only [remarks, String.toList_ofList, parityRemarks_of_even has, parityRemarks_of_even hbs,
    hstyle, hcolor, hlink]

theorem evenQuotes_of_isNamePart {name value : List Char}
    (hname : ∀ c ∈ name, isNamePart c = true) (hvalue : ∀ c ∈ value, isQuote c = false) :
    QuotedAttribute.EvenQuotes (written ⟨name, value⟩) := by
  apply QuotedAttribute.evenQuotes_written _ hvalue
  intro c hc
  exact (QuotedAttribute.namePart_facts (hname c hc)).2.1

section Tail

variable {name value : List Char} (hname : ∀ c ∈ name, isNamePart c = true)
  (hvalue : ∀ c ∈ value, isQuote c = false)
include hname hvalue

theorem remarks_behind_mark {front tail : List Char} {c : Char} (hsplit : name = front ++ c :: tail)
    (hc : QuotedAttribute.mayStart (some c) = true) (tagName : String) :
    remarks (String.ofList (written ⟨name, value⟩)) tagName =
      remarks (String.ofList (written ⟨tail, value⟩)) tagName := by
  have htail : ∀ d ∈ tail, isNamePart d = true := fun d hd => hname d (by simp [hsplit, hd])
  apply remarks_eq_of_alike (evenQuotes_of_isNamePart hname hvalue)
    (evenQuotes_of_isNamePart htail hvalue)
  intro names hmem
  rw [hsplit] at hname ⊢
  rw [QuotedAttribute.all_behind_mark (isKeyword_of_checked hmem) hname hc
    (QuotedAttribute.not_mem_of_isQuote hvalue rfl)]
  exact Alike.all_refl _

theorem remarks_of_longer (hwhole : ¬ IsCalled watchedNames name)
    (htail : ∀ front c tail, name = front ++ c :: tail → IsCalled watchedNames tail →
      QuotedAttribute.mayStart (some c) = false) (tagName : String) :
    remarks (String.ofList (written ⟨name, value⟩)) tagName = [] := by
  rw [← remarks_empty tagName, ← String.ofList_nil]
  apply remarks_eq_of_alike (evenQuotes_of_isNamePart hname hvalue) (.of_free (List.forall_mem_nil _))
  intro names hmem
  rw [QuotedAttribute.all_nil, List.forall₂_nil_right_iff]
  apply QuotedAttribute.all_of_longer (isKeyword_of_checked hmem) hname hvalue
  · exact fun hcalled => hwhole (hcalled.mono (subset_watchedNames hmem))
  · intro front c tail hsplit hcalled
    exact htail front c tail hsplit (hcalled.mono (subset_watchedNames hmem))

end Tail

/-- A watched name at the end of a longer one is passed over behind a letter, a digit, a low line or
a dash. Behind any other sign it counts as the name of the attribute. -/
theorem tail_of_a_name_counts_behind_a_mark {name value : List Char}
    (hname : ∀ c ∈ name, isNamePart c = true) (hwhole : ¬ IsCalled watchedNames name)
    (hdouble : '\x22' ∉ value) (hsingle : '\x27' ∉ value) (tagName : String) (line : Line) :
    let found := fun n : List Char =>
      (remarks (String.ofList (written ⟨n, value⟩)) tagName).map line.place.finding
    (∀ front c tail, name = front ++ c :: tail → IsCalled watchedNames tail →
      Text.isWord c = false → c ≠ '-' → found name = found tail) ∧
    (found name = [] ↔ ∀ front c tail, name = front ++ c :: tail → IsCalled watchedNames tail →
      Text.isWord c = true ∨ c = '-' ∨ found tail = []) := by
  intro found
  have hvalue := QuotedAttribute.isQuote_eq_false hdouble hsingle
  have hmark : ∀ front c tail, name = front ++ c :: tail → Text.isWord c = false → c ≠ '-' →
      found name = found tail := by
    intro front c tail hsplit hword hdash
    have hc := QuotedAttribute.mayStart_eq_true_iff.mpr ⟨hword, hdash⟩
    exact congrArg (List.map line.place.finding)
      (remarks_behind_mark hname hvalue hsplit hc tagName)
  refine ⟨fun front c tail hsplit _ => hmark front c tail hsplit, ?_, ?_⟩
  · intro hnil front c tail hsplit _
    by_cases hc : Text.isWord c = true ∨ c = '-'
    · exact hc.imp_right Or.inl
    · obtain ⟨hword, hdash⟩ := not_or.mp hc
      rw [hmark front c tail hsplit (Bool.eq_false_iff.mpr hword) hdash] at hnil
      exact Or.inr (Or.inr hnil)
  · intro hsilent
    by_cases hstart : ∃ front c tail, name = front ++ c :: tail ∧ IsCalled watchedNames tail ∧
        QuotedAttribute.mayStart (some c) = true
    · obtain ⟨front, c, tail, hsplit, hcalled, hc⟩ := hstart
      obtain ⟨hword, hdash⟩ := QuotedAttribute.mayStart_eq_true_iff.mp hc
      rw [hmark front c tail hsplit hword hdash]
      rcases hsilent front c tail hsplit hcalled with hw | hd | hnil
      · rw [hw] at hword
        cases hword
      · exact absurd hd hdash
      · exact hnil
    · have hnone := remarks_of_longer hname hvalue hwhole (fun front c tail hsplit hcalled =>
        Bool.eq_false_iff.mpr fun hc => hstart ⟨front, c, tail, hsplit, hcalled, hc⟩) tagName
      exact congrArg (List.map line.place.finding) hnone

theorem background_color_counts_behind_a_colon :
    let found := fun n : List Char =>
      (remarks (String.ofList (written ⟨n, "fff".toList⟩)) "td").map (Line.place ⟨1, ""⟩).finding
    ¬ IsCalled watchedNames "data-v:BGcolor".toList ∧
      found "data-v:BGcolor".toList = [⟨1, "", "BGcolor=\"fff\"",
        "Hex color value \"fff\" in BGcolor attribute is missing a leading '#'.", .missingHash⟩] := by
  intro found
  have hwhole : ¬ IsCalled watchedNames "data-v:BGcolor".toList := by decide
  have hname : ∀ c ∈ "data-v:BGcolor".toList, isNamePart c = true := List.all_eq_true.mp rfl
  have hdouble : '\x22' ∉ "fff".toList := by decide
  have hfound := tail_of_a_name_counts_behind_a_mark hname hwhole hdouble (by decide) "td" ⟨1, ""⟩
  exact ⟨hwhole, (hfound.1 "data-v".toList ':' "BGcolor".toList rfl (by decide) (by decide)
    (by decide)).trans (by decide +kernel)⟩

theorem names_with_a_colon_or_a_dot_are_reported :
    (∀ name ∈ ["xlink:href", "v:color", "o.style"],
      name.toList.all isNamePart = true ∧ ¬ IsCalled watchedNames name.toList) ∧
    (remarks " xlink:href=\"x\"" "a").map (·.code) = [.missingProtocol] ∧
    (remarks " v:color=\"fff\"" "td").map (·.code) = [.missingHash] ∧
    (remarks " o.style=\"Top: 0\"" "td").map (·.code) = [.uppercaseProperty] := by
  decide +kernel

end Attribute

end MailMarkup
