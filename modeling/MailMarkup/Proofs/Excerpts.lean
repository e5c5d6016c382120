import MailMarkup.Proofs.AttributeScan
import MailMarkup.Proofs.Attribution
import MailMarkup.Proofs.Trim

namespace MailMarkup

namespace Text

theorem infix_of_mem_pieces {p : Char → Bool} {cs piece : List Char} (h : piece ∈ pieces p cs) :
    piece <:+: cs := by
  -- the first piece is what the next character is put in front of, so it has to be a prefix
  have hpieces : ∀ first others, pieces p cs = first :: others →
      first <+: cs ∧ ∀ other ∈ others, other <:+: cs := by
    clear h
    induction cs with
    | nil =>
      rintro first others h
      obtain ⟨rfl, rfl⟩ := List.cons.inj h
      simp
    | cons c cs ih =>
      obtain ⟨next, rest, hnext⟩ := List.exists_cons_of_ne_nil (pieces_ne_nil p cs)
      obtain ⟨hfirst, hothers⟩ := ih next rest hnext
      intro first others h
      cases hc : p c with
      | true =>
        rw [pieces_cons_of_pos hc, hnext] at h
        obtain ⟨rfl, rfl⟩ := List.cons.inj h
        refine ⟨List.nil_prefix, ?_⟩
        intro other hother
        rcases List.mem_cons.mp hother with rfl | hother
        · exact hfirst.isInfix.trans (List.suffix_cons c cs).isInfix
        · exact (hothers other hother).trans (List.suffix_cons c cs).isInfix
      | false =>
        rw [pieces_cons_of_neg hc hnext] at h
        obtain ⟨rfl, rfl⟩ := List.cons.inj h
        refine ⟨(List.prefix_cons_inj c).mpr hfirst, ?_⟩
        intro other hother
        exact (hothers other hother).trans (List.suffix_cons c cs).isInfix
  obtain ⟨first, others, hcs⟩ := List.exists_cons_of_ne_nil (pieces_ne_nil p cs)
  obtain ⟨hfirst, hothers⟩ := hpieces first others hcs
  rw [hcs] at h
  rcases List.mem_cons.mp h with rfl | h
  · exact hfirst.isInfix
  · exact hothers piece h

end Text

namespace Tag

def Source.text (source : Source) : List Char := '<' :: (source.inside ++ ['>'])

theorem source_of_mem_scanFrom {found : List Tag} {cs : List Char} {tag : Tag}
    (h : tag ∈ scanFrom found cs) :
    tag ∈ found ∨ ∃ source : Source, source.tag = tag ∧ source.text <:+: cs := by
  fun_induction scanFrom found cs with
  | case1 found => exact Or.inl (List.mem_reverse.mp h)
  | case2 found cs read rest hread ih =>
    obtain ⟨source, rfl, rfl⟩ := source_of_read? hread
    rcases ih h with hfound | ⟨other, rfl, hother⟩
    · rcases List.mem_cons.mp hfound with rfl | hfound
      · exact Or.inr ⟨source, rfl, [], rest, by simp [Source.text]⟩
      · exact Or.inl hfound
    · refine Or.inr ⟨other, rfl, hother.trans ?_⟩
      exact ⟨'<' :: (source.inside ++ ['>']), [], by simp⟩
  | case3 found cs hread ih =>
    rcases ih h with hfound | ⟨source, rfl, hsource⟩
    · exact Or.inl hfound
    · exact Or.inr ⟨source, rfl, hsource.trans (List.suffix_cons '<' cs).isInfix⟩
  | case4 found c cs hc ih =>
    rcases ih h with hfound | ⟨source, rfl, hsource⟩
    · exact Or.inl hfound
    · exact Or.inr ⟨source, rfl, hsource.trans (List.suffix_cons c cs).isInfix⟩

theorem source_of_mem_scan {text : String} {tag : Tag} (h : tag ∈ scan text) :
    ∃ source : Source, source.tag = tag ∧ source.text <:+: text.toList := by
  rcases source_of_mem_scanFrom h with hnil | hsource
  · cases hnil
  · exact hsource

theorem Source.attributes_infix_text (source : Source) : source.attributes <:+: source.text :=
  ⟨'<' :: (source.slash ++ source.name), ['>'], by simp [text, inside]⟩

theorem Source.getLast?_text (source : Source) : source.text.getLast? = some '>' := by
  rw [text, ← List.cons_append, List.getLast?_concat]

theorem source_infix_display {line : Line} {tag : Tag} (h : tag ∈ scan line.text) :
    ∃ source : Source, source.tag = tag ∧ source.text <:+: line.display.toList := by
  obtain ⟨source, hsource, hinfix⟩ := source_of_mem_scan h
  refine ⟨source, hsource, ?_⟩
  rw [Line.display, String.toList_ofList]
  apply Text.infix_trim hinfix
  · rintro c ⟨⟩
    decide
  · intro c hc
    rw [source.getLast?_text] at hc
    obtain ⟨⟩ := hc
    decide

theorem attributes_infix_display {line : Line} {tag : Tag} (h : tag ∈ scan line.text) :
    tag.attributes.toList <:+: line.display.toList := by
  obtain ⟨source, rfl, hsource⟩ := source_infix_display h
  simpa [Source.tag] using source.attributes_infix_text.trans hsource

end Tag

structure IsExcerpt (part : String) (whole : List Char) : Prop where
  ne_nil : part.toList ≠ []
  occurs : part.toList <:+: whole

theorem IsExcerpt.trans {part : String} {whole whole' : List Char} (h : IsExcerpt part whole)
    (hwhole : whole <:+: whole') : IsExcerpt part whole' :=
  ⟨h.ne_nil, h.occurs.trans hwhole⟩

namespace Style

theorem unit?_nil : unit? [] = none := rfl

theorem parts_of_unit? {word unit : List Char} (h : unit? word = some unit) :
    ∃ sign number, word = sign ++ (number ++ unit) ∧ (∀ c ∈ sign, c = '-') ∧
      (∀ c ∈ number, (Text.isDigit c || c == '.') = true) ∧ ∀ c ∈ unit, c.isAlpha = true := by
  have hsign : ∃ sign, word =
      sign ++ (if (word.head? == some '-') = true then word.tail else word) ∧
        ∀ c ∈ sign, c = '-' := by
    split
    · rename_i hhead
      obtain ⟨rest, rfl⟩ := List.head?_eq_some_iff.mp (eq_of_beq hhead)
      exact ⟨['-'], rfl, by simp⟩
    · exact ⟨[], rfl, List.forall_mem_nil _⟩
  obtain ⟨sign, hword, hsign⟩ := hsign
  simp only [unit?] at h
  generalize (if (word.head? == some '-') = true then word.tail else word) = unsigned at h hword
  split at h
  · cases h
  · rename_i hunit
    obtain rfl := Option.some.inj h
    simp only [Bool.or_eq_true, Bool.not_eq_true', not_or, Bool.not_eq_false] at hunit
    refine ⟨sign, unsigned.takeWhile fun c => Text.isDigit c || c == '.', ?_, hsign, ?_,
      List.all_eq_true.mp hunit.2⟩
    · rw [List.takeWhile_append_dropWhile, ← hword]
    · intro c hc
      exact List.mem_takeWhile_imp (p := fun c => Text.isDigit c || c == '.') hc

theorem isExcerpt_of_mem_unitRemarks {word : List Char} {r : Remark} (h : r ∈ unitRemarks word) :
    IsExcerpt r.errorTag word := by
  unfold unitRemarks at h
  split at h
  · cases h
  · rename_i unit hunit
    simp only [List.mem_ite_nil_right, List.mem_singleton] at h
    obtain ⟨-, rfl⟩ := h
    refine ⟨?_, by simp⟩
    rintro hnil
    rw [String.toList_ofList] at hnil
    rw [hnil, unit?_nil] at hunit
    cases hunit

theorem isExcerpt_of_mem_semicolonRemarks {declaration : List Char} {r : Remark}
    (h : r ∈ semicolonRemarks declaration) : IsExcerpt r.errorTag declaration := by
  rw [semicolonRemarks, List.mem_ite_nil_right, List.mem_singleton] at h
  obtain ⟨hcolons, rfl⟩ := h
  refine ⟨?_, by simp⟩
  rintro hnil
  rw [String.toList_ofList] at hnil
  simp [hnil] at hcolons

theorem isExcerpt_of_mem_propertyRemarks {property : List Char} {r : Remark}
    (h : r ∈ propertyRemarks property) : IsExcerpt r.errorTag property := by
  simp only [propertyRemarks, List.mem_ite_nil_left, List.mem_singleton] at h
  obtain ⟨hupper, rfl⟩ := h
  refine ⟨?_, by simp⟩
  rintro hnil
  rw [String.toList_ofList] at hnil
  exact hupper (by rw [hnil]; rfl)

theorem withoutLastSemicolon_cases (style : List Char) :
    withoutLastSemicolon style = style ∨ withoutLastSemicolon style ++ [';'] = style := by
  unfold withoutLastSemicolon
  split
  · rename_i hlast
    exact Or.inr (List.dropLast_append_getLast? ';' hlast)
  · exact Or.inl rfl

theorem infix_of_mem_declarations {style declaration : List Char}
    (h : declaration ∈ declarations style) : declaration <:+: style := by
  obtain ⟨piece, hpiece, rfl⟩ := List.mem_map.mp (List.mem_filter.mp h).1
  have hcut : withoutLastSemicolon (Text.trim style) <+: Text.trim style := by
    rcases withoutLastSemicolon_cases (Text.trim style) with hkept | hlast
    · exact ⟨[], by rw [List.append_nil, hkept]⟩
    · exact ⟨[';'], hlast⟩
  have hstyle := hcut.isInfix.trans (Text.infix_of_trim style)
  exact (Text.infix_of_trim piece).trans ((Text.infix_of_mem_pieces hpiece).trans hstyle)

theorem remarks_of_not_mem {style : List Char} (h : ':' ∉ style) : remarks style = [] := by
  apply List.flatMap_eq_nil_iff.mpr
  intro declaration hdeclaration
  have hcolon : ':' ∉ declaration :=
    fun hmem => h ((infix_of_mem_declarations hdeclaration).subset hmem)
  rw [declarationRemarks, List.dropWhile_eq_nil_iff.mpr (bne_of_not_mem hcolon)]

theorem trim_infix_of_parts {front behind style : List Char} {c : Char}
    (h : front ++ c :: behind <:+: style) :
    Text.trim front <:+: style ∧ Text.trim behind <:+: style := by
  constructor
  · exact (Text.infix_of_trim front).trans ((List.prefix_append _ _).isInfix.trans h)
  · have hbehind : behind <:+: front ++ c :: behind :=
      ((List.suffix_cons c behind).trans (List.suffix_append front _)).isInfix
    exact (Text.infix_of_trim behind).trans (hbehind.trans h)

theorem parts_of_mem_remarks {style : List Char} {r : Remark} (h : r ∈ remarks style) :
    (∃ declaration, declaration <:+: style ∧ r ∈ semicolonRemarks declaration) ∨
      (∃ property, property <:+: style ∧ r ∈ propertyRemarks property) ∨
      (∃ word, word <:+: style ∧ r ∈ unitRemarks word) ∨
      ∃ front behind, front ++ ':' :: behind <:+: style ∧
        r ∈ colorRemarks (Text.trim front) (Text.trim behind) := by
  obtain ⟨declaration, hmem, hr⟩ := List.mem_flatMap.mp h
  have hdeclaration := infix_of_mem_declarations hmem
  unfold declarationRemarks at hr
  split at hr
  · cases hr
  · rename_i colon behind hbehind
    have hcolon : colon = ':' := by
      have hhead : colon ∈ (declaration.dropWhile (· != ':')).head? := by
        rw [hbehind]
        rfl
      simpa using head_dropWhile hhead
    rw [hcolon] at hbehind
    have hparts : declaration.takeWhile (· != ':') ++ ':' :: behind <:+: style := by
      rwa [← hbehind, List.takeWhile_append_dropWhile]
    simp only [List.mem_append, List.mem_flatMap] at hr
    rcases hr with ((hr | hr) | ⟨word, hword, hr⟩) | hr
    · exact Or.inl ⟨declaration, hdeclaration, hr⟩
    · exact Or.inr (Or.inl ⟨_, (trim_infix_of_parts hparts).1, hr⟩)
    · have hword := Text.infix_of_mem_pieces (List.mem_filter.mp hword).1
      exact Or.inr (Or.inr (Or.inl ⟨word, hword.trans (trim_infix_of_parts hparts).2, hr⟩))
    · exact Or.inr (Or.inr (Or.inr ⟨_, behind, hparts, hr⟩))

theorem isExcerpt_of_mem_remarks {style : List Char} {r : Remark} (h : r ∈ remarks style)
    (hcode : r.code ≠ .missingHash) : IsExcerpt r.errorTag style := by
  rcases parts_of_mem_remarks h with ⟨_, hpart, hr⟩ | ⟨_, hpart, hr⟩ | ⟨_, hpart, hr⟩ |
    ⟨_, _, -, hr⟩
  · exact (isExcerpt_of_mem_semicolonRemarks hr).trans hpart
  · exact (isExcerpt_of_mem_propertyRemarks hr).trans hpart
  · exact (isExcerpt_of_mem_unitRemarks hr).trans hpart
  · exact absurd (code_of_mem_colorRemarks hr) hcode

end Style

namespace Attribute

theorem isExcerpt_of_mem_quoteRemarks {quote : Char} (hquote : Text.isBlank quote = false)
    {label : String} {attributes : List Char} {r : Remark}
    (h : r ∈ quoteRemarks quote label attributes) : IsExcerpt r.errorTag attributes := by
  rw [quoteRemarks, List.mem_ite_nil_right, List.mem_singleton] at h
  obtain ⟨hodd, rfl⟩ := h
  have hmem : quote ∈ attributes := by
    rw [← List.count_pos_iff]
    omega
  refine ⟨?_, ?_⟩
  · simpa using Text.trim_ne_nil hmem hquote
  · simpa using Text.infix_of_trim attributes

theorem parts_of_mem_remarks {attributes tagName : String} {r : Remark}
    (h : r ∈ remarks attributes tagName) :
    r ∈ parityRemarks attributes.toList ∨
      (∃ style, style <:+: attributes.toList ∧ r ∈ Style.remarks style) ∨
      (∃ a ∈ QuotedAttribute.all colorNames attributes.toList, r ∈ colorRemarks a) ∨
      r ∈ linkRemarks attributes.toList := by
  simp only [remarks, List.mem_append] at h
  rcases h with ((h | h) | h) | h
  · exact Or.inl h
  · unfold styleRemarks at h
    split at h
    · cases h
    · rename_i style others hall
      have hstyle := QuotedAttribute.infix_of_mem_all (hall ▸ List.mem_cons_self)
      exact Or.inr (Or.inl ⟨style.value, hstyle.2, h⟩)
  · exact Or.inr (Or.inr (Or.inl (List.mem_flatMap.mp h)))
  · split at h
    · exact Or.inr (Or.inr (Or.inr h))
    · cases h

theorem isExcerpt_of_mem_remarks {attributes tagName : String} {r : Remark}
    (h : r ∈ remarks attributes tagName) (hhash : r.code ≠ .missingHash)
    (hprotocol : r.code ≠ .missingProtocol) : IsExcerpt r.errorTag attributes.toList := by
  rcases parts_of_mem_remarks h with hr | ⟨style, hstyle, hr⟩ | ⟨a, -, hr⟩ | hr
  · rcases List.mem_append.mp hr with hr | hr
    · exact isExcerpt_of_mem_quoteRemarks (by decide) hr
    · exact isExcerpt_of_mem_quoteRemarks (by decide) hr
  · exact (Style.isExcerpt_of_mem_remarks hr hhash).trans hstyle
  · exact absurd (code_of_mem_colorRemarks hr) hhash
  · exact absurd (code_of_mem_linkRemarks hr) hprotocol

end Attribute

theorem Finding.IsAbout.exists_remark {f : Finding} {line : Line} {tag : Tag}
    (h : f.IsAbout line tag) (hcode : f.code.isStructural = false) :
    ∃ r ∈ Attribute.remarks tag.attributes tag.name, line.place.finding r = f := by
  unfold Finding.IsAbout at h
  split at h <;> simp_all [Code.isStructural]

/-- What a finding quotes from a tag's attributes can be highlighted in the line shown with it. -/
theorem errorTag_stands_in_lineContent {document : String} {f : Finding} (hf : f ∈ check document)
    (hcode : f.code ∈ [Code.missingClosingQuote, .styleMissingSemicolon, .uppercaseProperty,
      .uppercaseUnit]) :
    f.errorTag ≠ "" ∧ ∃ front back, f.lineContent = front ++ f.errorTag ++ back := by
  have hlint : f.code.isStructural = false ∧ f.code ≠ .missingHash ∧ f.code ≠ .missingProtocol := by
    revert hcode
    cases f.code <;> decide
  obtain ⟨hlint, hhash, hprotocol⟩ := hlint
  obtain ⟨line, -, -, -, hcontent, tag, htag, habout⟩ := isAbout_of_mem_check hf
  obtain ⟨r, hr, rfl⟩ := habout.exists_remark hlint
  have hexcerpt : IsExcerpt r.errorTag line.display.toList :=
    (Attribute.isExcerpt_of_mem_remarks hr hhash hprotocol).trans
      (Tag.attributes_infix_display htag)
  obtain ⟨front, back, hfront⟩ := hexcerpt.occurs
  constructor
  · intro hempty
    apply hexcerpt.ne_nil
    simpa [Place.finding] using hempty
  · refine ⟨String.ofList front, String.ofList back, ?_⟩
    rw [hcontent, ← String.toList_inj]
    simpa [Place.finding] using hfront.symm

theorem open_quote_stands_in_its_line :
    let line := "\u3000<p title='a  class=\"b\" > \u00A0"
    let f : Finding := ⟨1, "<p title='a  class=\"b\" >", "title='a  class=\"b\"",
      "Missing closing single quote (') in attributes.", .missingClosingQuote⟩
    f ∈ check line ∧ f.errorTag ≠ "" ∧
      ∃ front back, f.lineContent = front ++ f.errorTag ++ back := by
  intro line f
  have hf : f ∈ check line := by decide +kernel
  exact ⟨hf, errorTag_stands_in_lineContent hf (by decide)⟩

end MailMarkup
