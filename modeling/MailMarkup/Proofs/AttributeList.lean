import MailMarkup.Proofs.AttributeReading

namespace MailMarkup

theorem mem_of_head_dropWhile {α : Type} {p : α → Bool} {as bs : List α} {a b : α}
    (ha : p a = false) (h : b ∈ ((as ++ a :: bs).dropWhile p).head?) : b ∈ as ∨ b = a := by
  induction as with
  | nil =>
    rw [List.nil_append, List.dropWhile_cons_of_neg (by simp [ha])] at h
    exact Or.inr (Option.some.inj h).symm
  | cons c as ih =>
    rw [List.cons_append] at h
    cases hc : p c with
    | true =>
      rw [List.dropWhile_cons_of_pos hc] at h
      exact (ih h).imp_left (List.mem_cons_of_mem c)
    | false =>
      rw [List.dropWhile_cons_of_neg (by simp [hc])] at h
      rw [← Option.some.inj h]
      exact Or.inl List.mem_cons_self

namespace QuotedAttribute

def isNameChar (c : Char) : Bool := c.isAlphanum || c == '_' || c == '-'

theorem toNat_of_isNameChar {c : Char} (h : isNameChar c = true) : c.toNat < 0x80 := by
  by_contra hc
  have halnum := isAlphanum_of_foreign (Nat.le_of_not_lt hc)
  simp only [isNameChar, halnum, Bool.false_or, Bool.or_eq_true, beq_iff_eq] at h
  rcases h with rfl | rfl
  all_goals exact hc (by decide)

theorem nameChar_facts {c : Char} (h : isNameChar c = true) :
    Text.isBlank c = false ∧ c ≠ '=' ∧ isQuote c = false ∧ mayStart (some c) = false :=
  of_ascii (p := fun c => isNameChar c = true →
    Text.isBlank c = false ∧ c ≠ '=' ∧ isQuote c = false ∧ mayStart (some c) = false)
    (by decide +kernel) (toNat_of_isNameChar h) h

theorem sameLetter_of_isNameChar {k c : Char} (hk : k.isLower = true) (hc : isNameChar c = true)
    (h : Text.sameLetter k c = true) : c.toLower = k := by
  have hcode := toNat_of_isNameChar hc
  simp only [Text.sameLetter, Bool.or_eq_true, Bool.and_eq_true, beq_iff_eq] at h
  rcases h with (((rfl | rfl) | ⟨-, rfl⟩) | ⟨-, rfl⟩) | ⟨-, rfl | rfl⟩
  · exact Text.toLower_of_isLower hk
  · rfl
  all_goals exact absurd hcode (by decide)

/-- An attribute in a list: blanks, a name of ASCII letters, digits, low lines and dashes, and a
value that holds neither quotes nor the sign before it. -/
structure Listed extends Source where
  gap : List Char
  gap_ne_nil : gap ≠ []
  isBlank_gap : ∀ c ∈ gap, Text.isBlank c = true
  name_ne_nil : name ≠ []
  isNameChar_name : ∀ c ∈ name, isNameChar c = true
  double_not_mem_value : '\x22' ∉ value
  single_not_mem_value : '\x27' ∉ value
  sign_not_mem_value : '=' ∉ value

namespace Listed

def text (a : Listed) : List Char := a.gap ++ a.toSource.text

def isNamed (a : Listed) (name : String) : Bool := a.name.map Char.toLower == name.toList

theorem evenQuotes_text (a : Listed) : EvenQuotes a.text := by
  have hname : ∀ c ∈ a.name, isQuote c = false :=
    fun c hc => (nameChar_facts (a.isNameChar_name c hc)).2.2.1
  have hvalue := isQuote_eq_false a.double_not_mem_value a.single_not_mem_value
  exact (EvenQuotes.of_isBlank a.isBlank_gap).append (a.toSource.evenQuotes_text hname hvalue)

end Listed

theorem map_toLower_of_sameLetters {word name : List Char}
    (h : List.Forall₂ (fun k c => Text.sameLetter k c = true) word name)
    (hword : ∀ k ∈ word, k.isLower = true) (hname : ∀ c ∈ name, isNameChar c = true) :
    name.map Char.toLower = word := by
  induction h with
  | nil => rfl
  | cons hletter _ ih =>
    obtain ⟨hk, hword⟩ := List.forall_mem_cons.mp hword
    obtain ⟨hc, hname⟩ := List.forall_mem_cons.mp hname
    rw [List.map_cons, sameLetter_of_isNameChar hk hc hletter, ih hword hname]

theorem Listed.any_isNamed_iff {names : List String}
    (hnames : ∀ name ∈ names, Text.IsKeyword name.toList) (a : Listed) :
    names.any a.isNamed = true ↔ IsCalled names a.name := by
  simp only [List.any_eq_true, isNamed, beq_iff_eq]
  constructor
  · rintro ⟨word, hmem, hword⟩
    exact ⟨word, hmem, Text.sameLetters_of_toLower hword⟩
  · rintro ⟨word, hmem, hletters⟩
    exact ⟨word, hmem,
      map_toLower_of_sameLetters hletters (hnames word hmem).isLower a.isNameChar_name⟩

theorem read?_listed {names : List String} (hnames : ∀ name ∈ names, Text.IsKeyword name.toList)
    (a : Listed) (rest : List Char) :
    read? names (a.toSource.text ++ rest) =
      if names.any a.isNamed then some (a.quoted, rest) else none := by
  by_cases hnamed : names.any a.isNamed = true
  · rw [if_pos hnamed]
    exact read?_of_isCalled hnames a.toSource ((a.any_isNamed_iff hnames).mp hnamed) rest
  · rw [if_neg hnamed]
    apply read?_of_not_isCalled hnames a.toSource
      (fun h => hnamed ((a.any_isNamed_iff hnames).mpr h))
    intro c hc
    obtain ⟨hblank, hsign, -⟩ := nameChar_facts (a.isNameChar_name c hc)
    exact ⟨hblank, hsign⟩

theorem quiet_name {names : List String} {run cs : List Char} (hread : read? names (run ++ cs) = none)
    (hrun : ∀ c ∈ run, isNameChar c = true) (before : Option Char) :
    ∀ front c back, run = front ++ c :: back →
      mayStart (front.getLast?.or before) = false ∨ read? names (c :: (back ++ cs)) = none := by
  intro front c back hsplit
  rcases List.eq_nil_or_concat' front with rfl | ⟨front, d, rfl⟩
  · right
    rwa [hsplit, List.nil_append, List.cons_append] at hread
  · left
    rw [List.getLast?_concat]
    exact (nameChar_facts (hrun d (by simp [hsplit]))).2.2.2

def Passes (names : List String) (run cs : List Char) : Prop :=
  ∀ found before, ∃ before', allFrom names found before (run ++ cs) = allFrom names found before' cs

section Passes

variable {names : List String} {run run' cs : List Char}

theorem Passes.append (h : Passes names run (run' ++ cs)) (h' : Passes names run' cs) :
    Passes names (run ++ run') cs := by
  intro found before
  obtain ⟨between, hrun⟩ := h found before
  obtain ⟨before', hrun'⟩ := h' found between
  exact ⟨before', by rw [List.append_assoc, hrun, hrun']⟩

theorem passes_of_silent
    (h : ∀ front c back, run = front ++ c :: back → read? names (c :: (back ++ cs)) = none) :
    Passes names run cs :=
  fun found _ => ⟨_, allFrom_quiet (fun front c back hsplit => Or.inr (h front c back hsplit)) found⟩

theorem passes_name (hread : read? names (run ++ cs) = none)
    (hrun : ∀ c ∈ run, isNameChar c = true) : Passes names run cs :=
  fun found before => ⟨_, allFrom_quiet (quiet_name hread hrun before) found⟩

variable (hnames : ∀ name ∈ names, Text.IsKeyword name.toList)
include hnames

theorem passes_marks (hrun : ∀ c ∈ run, Text.isBlank c = true ∨ c = '=' ∨ isQuote c = true) :
    Passes names run cs := by
  apply passes_of_silent
  rintro front c back rfl
  exact read?_mark hnames (hrun c (by simp)) (back ++ cs)

theorem passes_value {value : List Char} {quote : Char} (hquote : isQuote quote = true)
    (hvalue : '=' ∉ value) : Passes names value (quote :: cs) := by
  apply passes_of_silent
  rintro front c back rfl
  apply read?_eq_none
  intro name hname written after hkey
  rw [← List.cons_append] at hkey
  obtain ⟨left, hleft, rfl⟩ := Text.suffix_of_keyword? (hnames name hname).isLower hquote hkey
  have hfree : '=' ∉ left := fun hmem => hvalue (List.mem_append_right front (hleft.subset hmem))
  obtain ⟨hblank, hsign⟩ := quote_facts hquote
  apply readValue?_eq_none
  -- the first visible character behind the word is in the value, or it is the quote that ends it
  rintro d hd rfl
  rcases mem_of_head_dropWhile hblank hd with hmem | heq
  · exact hfree hmem
  · exact hsign heq.symm

theorem allFrom_gap {gap : List Char} (hne : gap ≠ [])
    (hgap : ∀ c ∈ gap, Text.isBlank c = true) (cs : List Char) (found : List QuotedAttribute)
    (before : Option Char) :
    ∃ c, Text.isBlank c = true ∧
      allFrom names found before (gap ++ cs) = allFrom names found (some c) cs := by
  obtain ⟨front, c, rfl⟩ := (List.eq_nil_or_concat' gap).resolve_left hne
  have hpass : Passes names front ([c] ++ cs) :=
    passes_marks hnames fun d hd => Or.inl (hgap d (List.mem_append_left _ hd))
  obtain ⟨before', hfront⟩ := hpass found before
  have hc : Text.isBlank c = true := hgap c (by simp)
  refine ⟨c, hc, ?_⟩
  rw [List.append_assoc, hfront, List.singleton_append,
    allFrom_pass (Or.inr (read?_mark hnames (Or.inl hc) cs))]

theorem passes_assignment (source : Source) (hsign : '=' ∉ source.value) :
    Passes names source.assignment cs := by
  have hparts : source.assignment =
      (source.before ++ '=' :: (source.behind ++ [source.quote])) ++
        (source.value ++ [source.quote]) := by
    simp [Source.assignment]
  have hquote : ∀ c ∈ [source.quote], Text.isBlank c = true ∨ c = '=' ∨ isQuote c = true := by
    simp [source.isQuote_quote]
  rw [hparts]
  apply Passes.append
  · apply passes_marks hnames
    simp only [List.forall_mem_append, List.forall_mem_cons]
    exact ⟨fun c hc => Or.inl (source.isBlank_before c hc), Or.inr (Or.inl trivial),
      fun c hc => Or.inl (source.isBlank_behind c hc), List.forall_mem_cons.mp hquote⟩
  · apply Passes.append
    · exact passes_value hnames source.isQuote_quote hsign
    · exact passes_marks hnames hquote

theorem allFrom_listed (a : Listed) (cs : List Char) (found : List QuotedAttribute)
    (before : Option Char) :
    ∃ before', allFrom names found before (a.text ++ cs) =
      allFrom names (if names.any a.isNamed then a.quoted :: found else found) before' cs := by
  obtain ⟨c, hc, hgap⟩ := allFrom_gap hnames a.gap_ne_nil a.isBlank_gap (a.toSource.text ++ cs)
    found before
  have hread := read?_listed hnames a cs
  -- from here on a blank stands before the name, so the name may start
  rw [Listed.text, List.append_assoc, hgap]
  by_cases hnamed : names.any a.isNamed = true
  · rw [if_pos hnamed] at hread ⊢
    exact ⟨none, allFrom_of_read (mayStart_of_isBlank hc) hread found⟩
  · rw [if_neg hnamed] at hread ⊢
    rw [Source.text_append] at hread
    have hpass := (passes_name hread a.isNameChar_name).append
      (passes_assignment hnames a.toSource a.sign_not_mem_value)
    exact hpass found (some c)

theorem allFrom_list (as : List Listed) (found : List QuotedAttribute) (before : Option Char) :
    allFrom names found before (as.flatMap Listed.text) =
      found.reverse ++ (as.filter fun a => names.any a.isNamed).map (·.quoted) := by
  induction as generalizing found before with
  | nil => simp [allFrom]
  | cons a as ih =>
    obtain ⟨before', hfirst⟩ := allFrom_listed hnames a (as.flatMap Listed.text) found before
    rw [List.flatMap_cons, hfirst, ih, List.filter_cons]
    by_cases hnamed : names.any a.isNamed = true
    · rw [if_pos hnamed, if_pos hnamed]
      simp
    · rw [if_neg hnamed, if_neg hnamed]

theorem all_list (as : List Listed) :
    all names (as.flatMap Listed.text) =
      (as.filter fun a => names.any a.isNamed).map (·.quoted) :=
  allFrom_list hnames as [] none

end Passes

end QuotedAttribute

namespace Attribute

open QuotedAttribute (Listed)

theorem all_listed {names : List String} (hnames : ∀ name ∈ names, Text.IsKeyword name.toList)
    (a : Listed) :
    QuotedAttribute.all names a.text = if names.any a.isNamed then [a.quoted] else [] := by
  have halone := QuotedAttribute.all_list hnames [a]
  rw [List.flatMap_singleton] at halone
  rw [halone, List.filter_cons, List.filter_nil]
  split <;> rfl

theorem check_first {name : String} (hname : Text.IsKeyword name.toList)
    {check : List Char → List Remark}
    (hcheck : ∀ cs cs', (QuotedAttribute.all [name] cs).head? =
      (QuotedAttribute.all [name] cs').head? → check cs = check cs')
    (hnil : check [] = []) (as : List Listed) :
    check (as.flatMap Listed.text) =
      (as.find? (·.isNamed name)).elim [] fun a => check a.text := by
  have hnames : ∀ other ∈ [name], Text.IsKeyword other.toList := by simpa using hname
  have hany (a : Listed) : [name].any a.isNamed = a.isNamed name := by simp
  have hfirst : (QuotedAttribute.all [name] (as.flatMap Listed.text)).head? =
      (as.find? (·.isNamed name)).map (·.quoted) := by
    rw [QuotedAttribute.all_list hnames, List.head?_map, List.head?_filter]
    simp only [hany]
  cases hfind : as.find? (·.isNamed name) with
  | none =>
    rw [hfind] at hfirst
    rw [Option.elim_none, ← hnil]
    apply hcheck
    rw [hfirst, QuotedAttribute.all_nil]
    rfl
  | some a =>
    rw [hfind] at hfirst
    apply hcheck
    rw [hfirst, all_listed hnames, hany, if_pos (List.find?_some hfind)]
    rfl

theorem styleRemarks_list (as : List Listed) :
    styleRemarks (as.flatMap Listed.text) =
      (as.find? (·.isNamed "style")).elim [] fun a => styleRemarks a.text := by
  apply check_first (by decide) _ (by simp [styleRemarks])
  intro cs cs' h
  unfold styleRemarks
  cases hcs : QuotedAttribute.all ["style"] cs <;>
    cases hcs' : QuotedAttribute.all ["style"] cs' <;> simp_all

theorem linkRemarks_list (as : List Listed) :
    linkRemarks (as.flatMap Listed.text) =
      (as.find? (·.isNamed "href")).elim [] fun a => linkRemarks a.text := by
  apply check_first (by decide) _ (by simp [linkRemarks])
  intro cs cs' h
  unfold linkRemarks
  cases hcs : QuotedAttribute.all ["href"] cs <;>
    cases hcs' : QuotedAttribute.all ["href"] cs' <;> simp_all

theorem isKeyword_colorNames : ∀ name ∈ colorNames, Text.IsKeyword name.toList := by
  decide

theorem legacyColorRemarks_list (as : List Listed) :
    legacyColorRemarks (as.flatMap Listed.text) =
      as.flatMap fun a => legacyColorRemarks a.text := by
  unfold legacyColorRemarks
  rw [QuotedAttribute.all_list isKeyword_colorNames]
  simp only [all_listed isKeyword_colorNames]
  induction as with
  | nil => rfl
  | cons a as ih =>
    rw [List.flatMap_cons, ← ih, List.filter_cons]
    split <;> simp

theorem remarks_list (as : List Listed) (tagName : String) :
    remarks (String.ofList (as.flatMap Listed.text)) tagName =
      ((as.find? (·.isNamed "style")).elim [] fun a => styleRemarks a.text) ++
        (as.flatMap fun a => legacyColorRemarks a.text) ++
        if tagName = "a" then (as.find? (·.isNamed "href")).elim [] fun a => linkRemarks a.text
        else [] := by
  rw [remarks, String.toList_ofList, parityRemarks_of_even (.flatMap Listed.evenQuotes_text as),
    styleRemarks_list, legacyColorRemarks_list, linkRemarks_list, List.nil_append]

/-- The attributes of a list are found by their whole names and looked at one by one. -/
theorem listed_attributes_are_checked_alone (as : List Listed) (tagName : String) (line : Line) :
    let text := as.flatMap Listed.text
    let found := (remarks (String.ofList text) tagName).map line.place.finding
    (∀ f ∈ found, f.code ≠ .missingClosingQuote) ∧
    found = (((as.find? (·.isNamed "style")).elim [] fun a => styleRemarks a.text) ++
      (as.flatMap fun a => legacyColorRemarks a.text) ++
      if tagName = "a" then (as.find? (·.isNamed "href")).elim [] fun a => linkRemarks a.text
      else []).map line.place.finding ∧
    ∀ names ∈ [["style"], colorNames, ["href"]], QuotedAttribute.all names text =
      (as.filter fun a => names.any a.isNamed).map (·.quoted) := by
  intro text found
  refine ⟨?_, ?_, ?_⟩
  · intro f hf
    obtain ⟨r, hr, rfl⟩ := List.mem_map.mp hf
    change r.code ≠ .missingClosingQuote
    rcases code_of_mem_remarks hr with hquote | hcode
    · rw [String.toList_ofList, parityRemarks_of_even (.flatMap Listed.evenQuotes_text as)] at hquote
      cases hquote
    · revert hcode
      cases r.code <;> decide
  · exact congrArg (List.map line.place.finding) (remarks_list as tagName)
  · have hnames : ∀ names ∈ [["style"], colorNames, ["href"]], ∀ name ∈ names,
        Text.IsKeyword name.toList := by
      decide
    exact fun names hmem => QuotedAttribute.all_list (hnames names hmem) as

theorem style_is_found_behind_its_look_alike :
    let lookAlike : Listed :=
      ⟨⟨"data-style".toList, [], [], '\x22', "COLOR: fff; style".toList, List.all_eq_true.mp rfl,
        List.all_eq_true.mp rfl, rfl, by decide⟩, [' '], by decide, List.all_eq_true.mp rfl, by decide,
        List.all_eq_true.mp rfl, by decide, by decide, by decide⟩
    let style : Listed :=
      ⟨⟨"STYLE".toList, [' '], ['\n'], '\x27', "color: fff".toList, List.all_eq_true.mp rfl,
        List.all_eq_true.mp rfl, rfl, by decide⟩, ['\t', ' '], by decide, List.all_eq_true.mp rfl,
        by decide, List.all_eq_true.mp rfl, by decide, by decide, by decide⟩
    let text := [lookAlike, style].flatMap Listed.text
    text = " data-style=\"COLOR: fff; style\"\t STYLE =\n'color: fff'".toList ∧
      (remarks (String.ofList text) "td").map (Line.place ⟨1, ""⟩).finding =
        [⟨1, "", "color: fff",
          "Hex color value \"fff\" in style attribute is missing a leading '#'.", .missingHash⟩] := by
  intro lookAlike style text
  refine ⟨by decide, ?_⟩
  exact (listed_attributes_are_checked_alone [lookAlike, style] "td" ⟨1, ""⟩).2.1.trans
    (by decide +kernel)

end Attribute

end MailMarkup
