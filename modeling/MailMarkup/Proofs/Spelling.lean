import MailMarkup.Proofs.Excerpts

namespace MailMarkup

theorem append_prefix_append_iff {as bs cs ds : List Char} (h : as.length = bs.length) :
    as ++ cs <+: bs ++ ds ↔ as = bs ∧ cs <+: ds := by
  constructor
  · rintro ⟨more, hmore⟩
    rw [List.append_assoc] at hmore
    obtain ⟨hfront, hback⟩ := List.append_inj hmore h
    exact ⟨hfront, more, hback⟩
  · rintro ⟨rfl, hback⟩
    exact (List.prefix_append_right_inj as).mpr hback

theorem prefix_stop_iff {stop : Char} {as bs back : List Char} (has : stop ∉ as)
    (hbs : stop ∉ bs) : as ++ [stop] <+: bs ++ stop :: back ↔ as = bs := by
  constructor
  · rintro ⟨more, hmore⟩
    rw [List.append_assoc, List.singleton_append] at hmore
    rw [← (span_at has more).1, hmore, (span_at hbs back).1]
  · rintro rfl
    exact ⟨back, by simp⟩

namespace Text

theorem cons_prefix_gap_iff {gap : List Char} (hgap : ∀ c ∈ gap, isBlank c = true) {c : Char}
    (hc : isBlank c = false) {cs ds : List Char} :
    c :: cs <+: gap ++ ds ↔ gap = [] ∧ c :: cs <+: ds := by
  cases gap with
  | nil => simp
  | cons b gap =>
    have hne : c ≠ b := by
      rintro rfl
      rw [hgap c List.mem_cons_self] at hc
      cases hc
    simp [hne]

end Text

namespace Tag.Source

def plain (source : Source) : List Char :=
  '<' :: (source.slash ++ (source.name.map Char.toLower ++ ['>']))

structure IsPlain (source : Source) : Prop where
  name : source.name.map Char.toLower = source.name
  attributes : source.attributes = []

theorem plain_prefix_iff (source : Source) (back : List Char) :
    source.plain <+: source.text ++ back ↔ source.IsPlain := by
  -- the sign that ends a tag does not stand in its attributes
  have hattributes : ['>'] <+: source.attributes ++ '>' :: back ↔ source.attributes = [] := by
    have hfree := source.not_mem_attributes
    cases h : source.attributes with
    | nil => simp
    | cons c cs =>
      rw [h] at hfree
      simp [(List.ne_and_not_mem_of_not_mem_cons hfree).1]
  have htext : source.text ++ back =
      '<' :: (source.slash ++ (source.name ++ (source.attributes ++ '>' :: back))) := by
    simp [text, inside]
  rw [htext, plain, List.prefix_cons_inj, List.prefix_append_right_inj,
    append_prefix_append_iff (List.length_map _), hattributes]
  exact ⟨fun h => ⟨h.1, h.2⟩, fun h => ⟨h.name, h.attributes⟩⟩

theorem toList_openText {source : Source} (h : source.closing = false) :
    (openText source.tag.name).toList = source.plain := by
  simp [openText, tag, plain, slash, h, toString]

theorem toList_closeText {source : Source} (h : source.closing = true) :
    (closeText source.tag.name).toList = source.plain := by
  simp [closeText, tag, plain, slash, h, toString]

end Tag.Source

namespace QuotedAttribute.Source

def plain (source : Source) (name : List Char) : List Char :=
  name ++ '=' :: '\x22' :: (Text.trim source.value ++ ['\x22'])

structure IsPlain (source : Source) : Prop where
  before : source.before = []
  behind : source.behind = []
  quote : source.quote = '\x22'
  value : Text.trim source.value = source.value

theorem plain_prefix_iff (source : Source) {name : List Char}
    (hname : name.length = source.name.length) (back : List Char) :
    source.plain name <+: source.text ++ back ↔ name = source.name ∧ source.IsPlain := by
  have hvalue : source.quote = '\x22' → (Text.trim source.value ++ ['\x22'] <+:
      source.value ++ source.quote :: back ↔ Text.trim source.value = source.value) := by
    intro hquote
    have hfree := source.not_mem_value
    rw [hquote] at hfree ⊢
    exact prefix_stop_iff (fun h => hfree ((Text.infix_of_trim _).subset h)) hfree
  have htext : source.text ++ back = source.name ++ (source.before ++ '=' ::
      (source.behind ++ source.quote :: (source.value ++ source.quote :: back))) := by
    simp [text, assignment]
  rw [htext, plain, append_prefix_append_iff hname,
    Text.cons_prefix_gap_iff source.isBlank_before (by decide), List.prefix_cons_inj,
    Text.cons_prefix_gap_iff source.isBlank_behind (by decide), List.cons_prefix_cons]
  apply and_congr_right'
  constructor
  · rintro ⟨hbefore, hbehind, hquote, hstarts⟩
    exact ⟨hbefore, hbehind, hquote.symm, (hvalue hquote.symm).mp hstarts⟩
  · rintro ⟨hbefore, hbehind, hquote, htrim⟩
    exact ⟨hbefore, hbehind, hquote.symm, (hvalue hquote).mpr htrim⟩

end QuotedAttribute.Source

namespace Style

structure Source where
  property : List Char
  before : List Char
  behind : List Char
  value : List Char
  isBlank_before : ∀ c ∈ before, Text.isBlank c = true
  isBlank_behind : ∀ c ∈ behind, Text.isBlank c = true
  value_ne_nil : value ≠ []
  isBlank_of_head : ∀ c ∈ value.head?, Text.isBlank c = false

namespace Source

def text (source : Source) : List Char :=
  source.property ++ (source.before ++ ':' :: (source.behind ++ source.value))

def plain (source : Source) : List Char := source.property ++ ':' :: ' ' :: source.value

structure IsPlain (source : Source) : Prop where
  before : source.before = []
  behind : source.behind = [' ']

theorem plain_prefix_iff (source : Source) (back : List Char) :
    source.plain <+: source.text ++ back ↔ source.IsPlain := by
  obtain ⟨c, value, hvalue⟩ := List.exists_cons_of_ne_nil source.value_ne_nil
  have hc : Text.isBlank c = false := source.isBlank_of_head c (by rw [hvalue]; rfl)
  -- the value begins with a visible character, so the space is matched by the blanks alone
  have hbehind : ' ' :: source.value <+: source.behind ++ (source.value ++ back) ↔
      source.behind = [' '] := by
    have hblank := source.isBlank_behind
    cases hb : source.behind with
    | nil =>
      have hne : ' ' ≠ c := by
        rintro rfl
        exact absurd hc (by decide)
      simp [hvalue, hne]
    | cons b behind =>
      rw [hb] at hblank
      have hrest : ∀ d ∈ behind, Text.isBlank d = true :=
        fun d hd => hblank d (List.mem_cons_of_mem b hd)
      rw [List.cons_append, List.cons_prefix_cons, hvalue, Text.cons_prefix_gap_iff hrest hc,
        List.cons.injEq]
      constructor
      · rintro ⟨rfl, rfl, -⟩
        exact ⟨rfl, rfl⟩
      · rintro ⟨rfl, rfl⟩
        exact ⟨rfl, rfl, List.prefix_append _ _⟩
  have htext : source.text ++ back = source.property ++ (source.before ++ ':' ::
      (source.behind ++ (source.value ++ back))) := by
    simp [text]
  rw [htext, plain, List.prefix_append_right_inj,
    Text.cons_prefix_gap_iff source.isBlank_before (by decide), List.prefix_cons_inj, hbehind]
  exact ⟨fun h => ⟨h.1, h.2⟩, fun h => ⟨h.before, h.behind⟩⟩

end Source

theorem withoutImportant_nil : withoutImportant [] = [] := rfl

theorem source_of_mem_colorRemarks {front behind : List Char} {r : Remark}
    (h : r ∈ colorRemarks (Text.trim front) (Text.trim behind)) :
    ∃ source : Source, source.text <:+: front ++ ':' :: behind ∧
      r.errorTag.toList = source.plain ∧ isColorProperty source.property = true ∧
      isBareHex (Text.trim (withoutImportant source.value)) = true := by
  simp only [colorRemarks, List.mem_ite_nil_right, List.mem_singleton, Bool.and_eq_true] at h
  obtain ⟨⟨hcolor, hbare⟩, rfl⟩ := h
  have hvalue : Text.trim behind ≠ [] := by
    intro hnil
    rw [hnil, withoutImportant_nil] at hbare
    exact absurd hbare (by decide)
  obtain ⟨left, before, hfront, -, hbefore⟩ := Text.blanks_around_trim front
  obtain ⟨between, right, hbehind, hbetween, -⟩ := Text.blanks_around_trim behind
  refine ⟨⟨Text.trim front, before, between, Text.trim behind, hbefore, hbetween, hvalue,
    Text.isBlank_of_head_trim⟩, ⟨left, right, ?_⟩, ?_, hcolor, hbare⟩
  · calc
      _ = left ++ (Text.trim front ++ before) ++
          ':' :: (between ++ (Text.trim behind ++ right)) := by simp [Source.text]
      _ = front ++ ':' :: behind := by rw [← hfront, ← hbehind]
  · simp [Source.plain, toString]

end Style

inductive Spelling where
  | tag (source : Tag.Source)
  | declaration (source : Style.Source)
  | color (source : QuotedAttribute.Source)
  | link (source : QuotedAttribute.Source)

namespace Spelling

def text : Spelling → List Char
  | tag source => source.text
  | declaration source => source.text
  | color source | link source => source.text

def plain : Spelling → List Char
  | tag source => source.plain
  | declaration source => source.plain
  | color source => source.plain source.name
  | link source => source.plain "href".toList

def IsPlain : Spelling → Prop
  | tag source => source.IsPlain
  | declaration source => source.IsPlain
  | color source => source.IsPlain
  | link source => "href".toList = source.name ∧ source.IsPlain

def Fits (code : Code) : Spelling → Prop
  | tag source =>
    source.closing = false ∧ code ∈ [Code.unclosedTag, .unclosedBeforeClose] ∨
      source.closing = true ∧ code ∈ [Code.unexpectedClosingTag, .mismatchedClosingTag]
  | declaration source => code = .missingHash ∧ Style.isColorProperty source.property = true ∧
      isBareHex (Text.trim (Style.withoutImportant source.value)) = true
  | color source => code = .missingHash ∧ isBareHex (Text.trim source.value) = true ∧
      ∃ name ∈ Attribute.colorNames,
        List.Forall₂ (fun k c => Text.sameLetter k c = true) name.toList source.name
  | link source => code = .missingProtocol ∧
      Attribute.isAllowedLink (Text.trim source.value) = false ∧
      List.Forall₂ (fun k c => Text.sameLetter k c = true) "href".toList source.name

theorem plain_prefix_iff {s : Spelling} {code : Code} (h : s.Fits code) (back : List Char) :
    s.plain <+: s.text ++ back ↔ s.IsPlain := by
  cases s with
  | tag source => exact source.plain_prefix_iff back
  | declaration source => exact source.plain_prefix_iff back
  | color source =>
    have hiff := source.plain_prefix_iff (rfl : source.name.length = _) back
    rwa [and_iff_right rfl] at hiff
  | link source => exact source.plain_prefix_iff h.2.2.length_eq back

end Spelling

structure Spelling.IsQuoted (s : Spelling) (code : Code) (errorTag : String)
    (whole : List Char) : Prop where
  occurs : s.text <:+: whole
  errorTag_eq : errorTag.toList = s.plain
  fits : s.Fits code

theorem Spelling.IsQuoted.trans {s : Spelling} {code : Code} {errorTag : String}
    {whole whole' : List Char} (h : s.IsQuoted code errorTag whole) (hwhole : whole <:+: whole') :
    s.IsQuoted code errorTag whole' :=
  ⟨h.occurs.trans hwhole, h.errorTag_eq, h.fits⟩

namespace Attribute

theorem isQuoted_of_mem_styleRemarks {style : List Char} {r : Remark}
    (h : r ∈ Style.remarks style) (hcode : r.code = .missingHash) :
    ∃ s : Spelling, s.IsQuoted r.code r.errorTag style := by
  rcases Style.parts_of_mem_remarks h with ⟨_, -, hr⟩ | ⟨_, -, hr⟩ | ⟨_, -, hr⟩ |
    ⟨front, behind, hparts, hr⟩
  · rw [Style.code_of_mem_semicolonRemarks hr] at hcode
    cases hcode
  · rw [Style.code_of_mem_propertyRemarks hr] at hcode
    cases hcode
  · rw [Style.code_of_mem_unitRemarks hr] at hcode
    cases hcode
  · obtain ⟨source, hstands, hplain, hcolor, hbare⟩ := Style.source_of_mem_colorRemarks hr
    exact ⟨.declaration source, hstands.trans hparts, hplain, hcode, hcolor, hbare⟩

theorem isQuoted_of_mem_colorRemarks {attributes : List Char} {a : QuotedAttribute} {r : Remark}
    (ha : a ∈ QuotedAttribute.all colorNames attributes) (h : r ∈ colorRemarks a) :
    ∃ s : Spelling, s.IsQuoted r.code r.errorTag attributes := by
  simp only [colorRemarks, List.mem_ite_nil_right, List.mem_singleton] at h
  obtain ⟨hbare, rfl⟩ := h
  obtain ⟨source, rfl, hstands, hname⟩ := QuotedAttribute.source_of_mem_all ha
  refine ⟨.color source, hstands, ?_, rfl, hbare, hname⟩
  simp [Spelling.plain, QuotedAttribute.Source.plain, QuotedAttribute.Source.quoted, toString]

theorem isQuoted_of_mem_linkRemarks {attributes : List Char} {r : Remark}
    (h : r ∈ linkRemarks attributes) :
    ∃ s : Spelling, s.IsQuoted r.code r.errorTag attributes := by
  unfold linkRemarks at h
  split at h
  · cases h
  · rename_i a others hall
    simp only [List.mem_ite_nil_left, List.mem_singleton, Bool.or_eq_true, not_or,
      Bool.not_eq_true] at h
    obtain ⟨⟨-, hlink⟩, rfl⟩ := h
    obtain ⟨source, rfl, hstands, name, hname, hletters⟩ :=
      QuotedAttribute.source_of_mem_all (hall ▸ List.mem_cons_self)
    rw [List.mem_singleton.mp hname] at hletters
    refine ⟨.link source, hstands, ?_, rfl, hlink, hletters⟩
    simp [Spelling.plain, QuotedAttribute.Source.plain, QuotedAttribute.Source.quoted, toString]

theorem isQuoted_of_mem_remarks {attributes tagName : String} {r : Remark}
    (h : r ∈ remarks attributes tagName) (hcode : r.code ∈ [Code.missingHash, .missingProtocol]) :
    ∃ s : Spelling, s.IsQuoted r.code r.errorTag attributes.toList := by
  rcases parts_of_mem_remarks h with hr | ⟨style, hstyle, hr⟩ | ⟨a, ha, hr⟩ | hr
  · rw [code_of_mem_parityRemarks hr] at hcode
    exact absurd hcode (by decide)
  · have hhash : r.code = .missingHash := by
      rcases Style.code_of_mem_remarks hr with hc | hc | hc | hc <;> simp_all
    obtain ⟨s, hs⟩ := isQuoted_of_mem_styleRemarks hr hhash
    exact ⟨s, hs.trans hstyle⟩
  · exact isQuoted_of_mem_colorRemarks ha hr
  · exact isQuoted_of_mem_linkRemarks hr

end Attribute

theorem Tag.Source.isQuoted_of_isAbout {f : Finding} {line : Line} {source : Tag.Source}
    {whole : List Char} (h : f.IsAbout line source.tag) (hcode : f.code.isStructural = true)
    (hstands : source.text <:+: whole) :
    (Spelling.tag source).IsQuoted f.code f.errorTag whole := by
  have hopened (hopen : source.closing = false) (htag : f.errorTag = openText source.tag.name)
      (hc : f.code ∈ [Code.unclosedTag, .unclosedBeforeClose]) :
      (Spelling.tag source).IsQuoted f.code f.errorTag whole :=
    ⟨hstands, htag ▸ source.toList_openText hopen, Or.inl ⟨hopen, hc⟩⟩
  have hclosed (hclose : source.closing = true) (htag : f.errorTag = closeText source.tag.name)
      (hc : f.code ∈ [Code.unexpectedClosingTag, .mismatchedClosingTag]) :
      (Spelling.tag source).IsQuoted f.code f.errorTag whole :=
    ⟨hstands, htag ▸ source.toList_closeText hclose, Or.inr ⟨hclose, hc⟩⟩
  unfold Finding.IsAbout at h
  split at h
  · rename_i hc
    exact hopened h.1 h.2 (by simp [hc])
  · rename_i hc
    exact hopened h.1 h.2 (by simp [hc])
  · rename_i hc
    exact hclosed h.1 h.2 (by simp [hc])
  · rename_i hc
    exact hclosed h.1 h.2 (by simp [hc])
  · simp_all [Code.isStructural]

theorem isQuoted_of_mem_check {document : String} {f : Finding} (hf : f ∈ check document)
    (hcode : f.code.isStructural = true ∨ f.code ∈ [Code.missingHash, .missingProtocol]) :
    ∃ s : Spelling, s.IsQuoted f.code f.errorTag f.lineContent.toList := by
  obtain ⟨line, -, -, -, hcontent, tag, htag, habout⟩ := isAbout_of_mem_check hf
  rw [hcontent]
  rcases hcode with hstructural | hlint
  · obtain ⟨source, rfl, hstands⟩ := Tag.source_infix_display htag
    exact ⟨.tag source, source.isQuoted_of_isAbout habout hstructural hstands⟩
  · have hkind : f.code.isStructural = false := by
      revert hlint
      cases f.code <;> decide
    obtain ⟨r, hr, rfl⟩ := habout.exists_remark hkind
    obtain ⟨s, hs⟩ := Attribute.isQuoted_of_mem_remarks hr hlint
    exact ⟨s, hs.trans (Tag.attributes_infix_display htag)⟩

/-- The error tag is not cut from the line but spelled anew. It stands where the line has what it is
about only if that is written the same way; otherwise it is on the line by coincidence or not at
all. -/
theorem errorTag_stands_iff_written_plainly {document : String} {f : Finding}
    (hf : f ∈ check document)
    (hcode : f.code ∈ [Code.unexpectedClosingTag, .unclosedBeforeClose, .mismatchedClosingTag,
      .unclosedTag, .missingHash, .missingProtocol]) :
    ∃ front, ∃ s : Spelling, ∃ back, f.lineContent.toList = front ++ (s.text ++ back) ∧
      s.Fits f.code ∧ f.errorTag.toList = s.plain ∧
      (f.errorTag.toList <+: s.text ++ back ↔ s.IsPlain) ∧
      (f.errorTag.toList <:+: f.lineContent.toList ↔ s.IsPlain ∨
        ∃ front' back', f.lineContent.toList = front' ++ (f.errorTag.toList ++ back') ∧
          front'.length ≠ front.length) := by
  have hkind : f.code.isStructural = true ∨ f.code ∈ [Code.missingHash, .missingProtocol] := by
    revert hcode
    cases f.code <;> decide
  obtain ⟨s, ⟨front, back, hline⟩, herror, hfits⟩ := isQuoted_of_mem_check hf hkind
  rw [List.append_assoc] at hline
  have hplace : f.errorTag.toList <+: s.text ++ back ↔ s.IsPlain := by
    rw [herror]
    exact Spelling.plain_prefix_iff hfits back
  refine ⟨front, s, back, hline.symm, hfits, herror, hplace, ?_⟩
  constructor
  · rintro ⟨front', back', hoccurs⟩
    rw [List.append_assoc] at hoccurs
    by_cases hlength : front'.length = front.length
    · left
      obtain ⟨-, hsame⟩ := List.append_inj (hoccurs.trans hline.symm) hlength
      exact hplace.mp ⟨back', hsame⟩
    · exact Or.inr ⟨front', back', hoccurs.symm, hlength⟩
  · rintro (hplain | ⟨front', back', hoccurs, -⟩)
    · obtain ⟨rest, hrest⟩ := hplace.mpr hplain
      exact ⟨front, rest, by rw [List.append_assoc, hrest, hline]⟩
    · exact ⟨front', back', by rw [hoccurs, List.append_assoc]⟩

theorem open_paragraph_stands_elsewhere :
    let document := "<P class='x'>a<p></p>"
    let f : Finding := ⟨1, document, "<p>", "The tag <p> on line 1 was never closed.", .unclosedTag⟩
    f ∈ check document ∧
      ∃ front, ∃ s : Spelling, ∃ back, f.lineContent.toList = front ++ (s.text ++ back) ∧
        s.Fits f.code ∧ f.errorTag.toList = s.plain ∧
        (f.errorTag.toList <+: s.text ++ back ↔ s.IsPlain) ∧
        (f.errorTag.toList <:+: f.lineContent.toList ↔ s.IsPlain ∨
          ∃ front' back', f.lineContent.toList = front' ++ (f.errorTag.toList ++ back') ∧
            front'.length ≠ front.length) := by
  intro document f
  have hf : f ∈ check document := by decide +kernel
  exact ⟨hf, errorTag_stands_iff_written_plainly hf (by decide)⟩

theorem respelled_errorTags_miss_their_lines :
    let document := "</B >\n<TR><TD class=\"x\"></P ></TR>\n" ++
      "<A HREF='x' BGCOLOR='fff' STYLE=\"color:fff\">"
    ∀ code ∈ [Code.unexpectedClosingTag, .unclosedBeforeClose, .mismatchedClosingTag, .unclosedTag,
      .missingHash, .missingProtocol], ∃ f ∈ check document, f.code = code ∧
        ¬ f.errorTag.toList <:+: f.lineContent.toList := by
  decide +kernel

end MailMarkup
