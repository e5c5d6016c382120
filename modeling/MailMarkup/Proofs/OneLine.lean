import MailMarkup.Proofs.Excerpts
import MailMarkup.Proofs.LetterCase
import MailMarkup.Proofs.Written
import MailMarkup.Report

namespace MailMarkup

@[simp] theorem onOneLine_append {a b : String} :
    OnOneLine (a ++ b) ↔ OnOneLine a ∧ OnOneLine b := by
  refine ⟨onOneLine_of_append, ?_⟩
  simp only [OnOneLine, String.toList_append, List.mem_append, not_or]
  tauto

@[simp] theorem onOneLine_toString {text : String} :
    OnOneLine (toString text) ↔ OnOneLine text := Iff.rfl

theorem onOneLine_of_subset {part whole : List Char} (h : part ⊆ whole)
    (hwhole : OnOneLine (String.ofList whole)) : OnOneLine (String.ofList part) := by
  simp only [OnOneLine, String.toList_ofList] at hwhole ⊢
  exact ⟨fun hlf => hwhole.1 (h hlf), fun hcr => hwhole.2 (h hcr)⟩

@[simp] theorem onOneLine_nat (n : Nat) : OnOneLine n.repr := by
  have hdigit (c : Char) (hc : c ∈ n.repr.toList) : c.isDigit = true := by
    rw [Nat.repr, String.toList_ofList] at hc
    exact Nat.isDigit_of_mem_toDigits (by decide) (by decide) hc
  constructor
  · intro hlf
    exact absurd (hdigit _ hlf) (by decide)
  · intro hcr
    exact absurd (hdigit _ hcr) (by decide)

@[simp] theorem onOneLine_int (n : Int) : OnOneLine n.repr := by
  rw [Int.repr_eq_if]
  split
  · exact onOneLine_nat _
  · exact onOneLine_append.mpr ⟨by decide, onOneLine_nat _⟩

structure Remark.OnOneLine (r : Remark) : Prop where
  errorTag : MailMarkup.OnOneLine r.errorTag
  message : MailMarkup.OnOneLine r.message

namespace Style

theorem subset_of_unit? {word unit : List Char} (h : unit? word = some unit) : unit ⊆ word := by
  obtain ⟨sign, number, rfl, -⟩ := parts_of_unit? h
  exact List.Subset.trans (List.subset_append_right number unit) (List.subset_append_right sign _)

theorem withoutImportant_subset (cs : List Char) : withoutImportant cs ⊆ cs := by
  fun_induction withoutImportant cs with
  | case1 => exact List.Subset.refl []
  | case2 c cs written rest hkey =>
    rw [← Text.append_of_keyword? hkey]
    exact List.subset_append_right written rest
  | case3 c cs hkey ih => exact List.cons_subset_cons c ih

theorem onOneLine_of_mem_unitRemarks {word : List Char} {r : Remark} (h : r ∈ unitRemarks word)
    (hword : OnOneLine (String.ofList word)) : r.OnOneLine := by
  unfold unitRemarks at h
  split at h
  · cases h
  · rename_i unit hunit
    simp only [List.mem_ite_nil_right, List.mem_singleton] at h
    obtain ⟨-, rfl⟩ := h
    have hunit := onOneLine_of_subset (subset_of_unit? hunit) hword
    exact ⟨hword, by simp +decide [hword, hunit]⟩

theorem onOneLine_of_mem_semicolonRemarks {declaration : List Char} {r : Remark}
    (h : r ∈ semicolonRemarks declaration) (hdeclaration : OnOneLine (String.ofList declaration)) :
    r.OnOneLine := by
  rw [semicolonRemarks, List.mem_ite_nil_right, List.mem_singleton] at h
  obtain ⟨-, rfl⟩ := h
  refine ⟨hdeclaration, ?_⟩
  dsimp only
  decide

theorem onOneLine_of_mem_propertyRemarks {property : List Char} {r : Remark}
    (h : r ∈ propertyRemarks property) (hproperty : OnOneLine (String.ofList property)) :
    r.OnOneLine := by
  simp only [propertyRemarks, List.mem_ite_nil_left, List.mem_singleton] at h
  obtain ⟨-, rfl⟩ := h
  exact ⟨hproperty, by simp +decide [hproperty]⟩

theorem onOneLine_of_mem_colorRemarks {property value : List Char} {r : Remark}
    (h : r ∈ colorRemarks property value) (hproperty : OnOneLine (String.ofList property))
    (hvalue : OnOneLine (String.ofList value)) : r.OnOneLine := by
  simp only [colorRemarks, List.mem_ite_nil_right, List.mem_singleton] at h
  obtain ⟨-, rfl⟩ := h
  have hbare := onOneLine_of_subset
    (List.Subset.trans (Text.infix_of_trim _).subset (withoutImportant_subset value)) hvalue
  constructor
  · simp +decide [hproperty, hvalue]
  · simp +decide [hbare]

theorem onOneLine_of_mem_remarks {style : List Char} {r : Remark} (h : r ∈ remarks style)
    (hstyle : OnOneLine (String.ofList style)) : r.OnOneLine := by
  have hpart {part : List Char} (hpart : part <:+: style) : OnOneLine (String.ofList part) :=
    onOneLine_of_subset hpart.subset hstyle
  rcases parts_of_mem_remarks h with ⟨_, hp, hr⟩ | ⟨_, hp, hr⟩ | ⟨_, hp, hr⟩ | ⟨_, _, hp, hr⟩
  · exact onOneLine_of_mem_semicolonRemarks hr (hpart hp)
  · exact onOneLine_of_mem_propertyRemarks hr (hpart hp)
  · exact onOneLine_of_mem_unitRemarks hr (hpart hp)
  · obtain ⟨hproperty, hvalue⟩ := trim_infix_of_parts hp
    exact onOneLine_of_mem_colorRemarks hr (hpart hproperty) (hpart hvalue)

end Style

namespace Attribute

theorem onOneLine_of_mem_quoteRemarks {quote : Char} {label : String} {attributes : List Char}
    {r : Remark} (h : r ∈ quoteRemarks quote label attributes)
    (hmessage : OnOneLine s!"Missing closing {label} quote ({quote}) in attributes.")
    (hattributes : OnOneLine (String.ofList attributes)) : r.OnOneLine := by
  rw [quoteRemarks, List.mem_ite_nil_right, List.mem_singleton] at h
  obtain ⟨-, rfl⟩ := h
  exact ⟨onOneLine_of_subset (Text.infix_of_trim attributes).subset hattributes, hmessage⟩

theorem onOneLine_of_mem_colorRemarks {a : QuotedAttribute} {r : Remark} (h : r ∈ colorRemarks a)
    (hname : OnOneLine (String.ofList a.name)) (hvalue : OnOneLine (String.ofList a.value)) :
    r.OnOneLine := by
  simp only [colorRemarks, List.mem_ite_nil_right, List.mem_singleton] at h
  obtain ⟨-, rfl⟩ := h
  have hshown := onOneLine_of_subset (Text.infix_of_trim a.value).subset hvalue
  constructor
  · simp +decide [hname, hshown]
  · simp +decide [hname, hshown]

theorem onOneLine_of_mem_linkRemarks {attributes : List Char} {r : Remark}
    (h : r ∈ linkRemarks attributes) (hattributes : OnOneLine (String.ofList attributes)) :
    r.OnOneLine := by
  unfold linkRemarks at h
  split at h
  · cases h
  · rename_i a others hall
    simp only [List.mem_ite_nil_left, List.mem_singleton] at h
    obtain ⟨-, rfl⟩ := h
    have ha := QuotedAttribute.infix_of_mem_all (hall ▸ List.mem_cons_self)
    have hshown := onOneLine_of_subset ((Text.infix_of_trim a.value).trans ha.2).subset hattributes
    constructor
    · simp +decide [hshown]
    · simp +decide [hshown]

theorem onOneLine_of_mem_remarks {attributes tagName : String} {r : Remark}
    (h : r ∈ remarks attributes tagName) (hattributes : OnOneLine attributes) : r.OnOneLine := by
  rw [← attributes.ofList_toList] at hattributes
  have hpart {part : List Char} (hpart : part <:+: attributes.toList) :
      OnOneLine (String.ofList part) := onOneLine_of_subset hpart.subset hattributes
  rcases parts_of_mem_remarks h with hr | ⟨style, hstyle, hr⟩ | ⟨a, ha, hr⟩ | hr
  · rcases List.mem_append.mp hr with hr | hr
    · exact onOneLine_of_mem_quoteRemarks hr (by decide) hattributes
    · exact onOneLine_of_mem_quoteRemarks hr (by decide) hattributes
  · exact Style.onOneLine_of_mem_remarks hr (hpart hstyle)
  · obtain ⟨hname, hvalue⟩ := QuotedAttribute.infix_of_mem_all ha
    exact onOneLine_of_mem_colorRemarks hr (hpart hname) (hpart hvalue)
  · exact onOneLine_of_mem_linkRemarks hr hattributes

end Attribute

theorem onOneLine_of_mem_lines {document : String} {line : Line} (h : line ∈ lines document) :
    OnOneLine line.text := by
  obtain ⟨w, hw⟩ := Written.exists_document document.toList
  rw [← String.toList_inj.mp hw, w.lines_document] at h
  obtain ⟨p, hp, rfl⟩ := List.mem_map.mp h
  exact w.onOneLine _ (List.fst_mem_of_mem_zipIdx hp)

theorem Line.onOneLine_display {line : Line} (h : OnOneLine line.text) :
    OnOneLine line.display := by
  rw [← line.text.ofList_toList] at h
  exact onOneLine_of_subset (Text.infix_of_trim _).subset h

namespace Tag

theorem Source.onOneLine_name (source : Source) : OnOneLine source.tag.name := by
  have hfree {d : Char} (hlower : ∀ c : Char, c.toLower = d ↔ c = d) (hd : isNameChar d = false) :
      d ∉ source.tag.name.toList := by
    intro hmem
    rw [tag, String.toList_ofList, List.mem_map] at hmem
    obtain ⟨c, hc, hcd⟩ := hmem
    have hname := source.isNameChar_of_mem c hc
    rw [(hlower c).mp hcd, hd] at hname
    cases hname
  exact ⟨hfree (toLower_eq_iff (by decide)) (by decide),
    hfree (toLower_eq_iff (by decide)) (by decide)⟩

theorem onOneLine_of_mem_scan {text : String} {tag : Tag} (h : tag ∈ scan text)
    (htext : OnOneLine text) : OnOneLine tag.name ∧ OnOneLine tag.attributes := by
  obtain ⟨source, rfl, hsource⟩ := source_of_mem_scan h
  rw [← text.ofList_toList] at htext
  have hattributes := source.attributes_infix_text.trans hsource
  exact ⟨source.onOneLine_name, onOneLine_of_subset hattributes.subset htext⟩

end Tag

structure Finding.OnOneLine (f : Finding) : Prop where
  lineContent : MailMarkup.OnOneLine f.lineContent
  errorTag : MailMarkup.OnOneLine f.errorTag
  message : MailMarkup.OnOneLine f.message

structure Frame.OnOneLine (frame : Frame) : Prop where
  name : MailMarkup.OnOneLine frame.name
  content : MailMarkup.OnOneLine frame.place.content

theorem onOneLine_openText {name : String} (h : OnOneLine name) : OnOneLine (openText name) := by
  simp +decide [openText, h]

theorem onOneLine_closeText {name : String} (h : OnOneLine name) : OnOneLine (closeText name) := by
  simp +decide [closeText, h]

section Findings

variable {place : Place} {frame : Frame} {name : String}

theorem onOneLine_unclosedBefore (hframe : frame.OnOneLine) (hname : OnOneLine name) :
    (frame.unclosedBefore name).OnOneLine := by
  have hopen := onOneLine_openText hframe.name
  have hclose := onOneLine_closeText hname
  refine ⟨hframe.content, hopen, ?_⟩
  simp +decide [Frame.unclosedBefore, Place.finding, hopen, hclose]

theorem onOneLine_neverClosed (hframe : frame.OnOneLine) : frame.neverClosed.OnOneLine := by
  have hopen := onOneLine_openText hframe.name
  refine ⟨hframe.content, hopen, ?_⟩
  simp +decide [Frame.neverClosed, Place.finding, hopen]

theorem onOneLine_unexpectedClosing (hplace : OnOneLine place.content) (hname : OnOneLine name) :
    (place.unexpectedClosing name).OnOneLine := by
  have hclose := onOneLine_closeText hname
  refine ⟨hplace, hclose, ?_⟩
  simp +decide [Place.unexpectedClosing, Place.finding, hclose]

theorem onOneLine_mismatchedClosing {expected : String} (hplace : OnOneLine place.content)
    (hexpected : OnOneLine expected) (hname : OnOneLine name) :
    (place.mismatchedClosing expected name).OnOneLine := by
  have hclose := onOneLine_closeText hname
  have hother := onOneLine_closeText hexpected
  refine ⟨hplace, hclose, ?_⟩
  simp +decide [Place.mismatchedClosing, Place.finding, hclose, hother]

end Findings

namespace Stack

theorem Settled.onOneLine {place : Place} {tag : Tag} {stack left : Stack} {found : List Finding}
    (h : Settled place tag stack found left) (hstack : ∀ frame ∈ stack, frame.OnOneLine)
    (hplace : OnOneLine place.content) (hname : OnOneLine tag.name) :
    (∀ f ∈ found, f.OnOneLine) ∧ ∀ frame ∈ left, frame.OnOneLine := by
  constructor
  · intro f hf
    cases h with
    | neutral _ _ => cases hf
    | opened _ _ => cases hf
    | unexpected _ =>
      obtain rfl := List.mem_singleton.mp hf
      exact onOneLine_unexpectedClosing hplace hname
    | mismatched _ top _ _ =>
      obtain rfl := List.mem_singleton.mp hf
      exact onOneLine_mismatchedClosing hplace (hstack top List.mem_cons_self).name hname
    | matched _ above _ _ _ _ =>
      obtain ⟨inner, hinner, rfl⟩ := List.mem_map.mp hf
      exact onOneLine_unclosedBefore (hstack inner (List.mem_append_left _ hinner)) hname
  · intro frame hframe
    rcases h.mem_left hframe with hframe | ⟨-, rfl⟩
    · exact hstack frame hframe
    · exact ⟨hname, hplace⟩

theorem onOneLine_visit {stack : Stack} (hstack : ∀ frame ∈ stack, frame.OnOneLine)
    {t : Place × Tag} (hplace : OnOneLine t.1.content) (hname : OnOneLine t.2.name)
    (hattributes : OnOneLine t.2.attributes) :
    (∀ f ∈ (stack.visit t).1, f.OnOneLine) ∧ ∀ frame ∈ (stack.visit t).2, frame.OnOneLine := by
  obtain ⟨hsettle, hleft⟩ := (stack.settled t.2 t.1).onOneLine hstack hplace hname
  refine ⟨?_, hleft⟩
  intro f hf
  rcases List.mem_append.mp hf with hf | hf
  · obtain ⟨-, -, -, r, hr, rfl⟩ := mem_attributeFindings hf
    have hremark := Attribute.onOneLine_of_mem_remarks hr hattributes
    exact ⟨hplace, hremark.errorTag, hremark.message⟩
  · exact hsettle f hf

end Stack

theorem onOneLine_of_mem_check {document : String} {f : Finding} (h : f ∈ check document) :
    f.OnOneLine := by
  have hstep : ∀ stack : Stack, (∀ frame ∈ stack, frame.OnOneLine) →
      ∀ t ∈ taggedPlaces (lines document), (∀ f ∈ (stack.visit t).1, f.OnOneLine) ∧
        ∀ frame ∈ (stack.visit t).2, frame.OnOneLine := by
    intro stack hstack t ht
    obtain ⟨line, hline, -, htag, hplace⟩ := mem_taggedPlaces.mp ht
    have htext := onOneLine_of_mem_lines hline
    obtain ⟨hname, hattributes⟩ := Tag.onOneLine_of_mem_scan htag htext
    apply Stack.onOneLine_visit hstack _ hname hattributes
    rw [hplace]
    exact Line.onOneLine_display htext
  have hempty : ∀ frame ∈ ([] : Stack), frame.OnOneLine := by simp
  obtain ⟨hfound, hleft⟩ := trace_invariant hstep hempty
  rcases List.mem_append.mp h with hf | hf
  · exact hfound f hf
  · obtain ⟨frame, hframe, rfl⟩ := List.mem_map.mp hf
    exact onOneLine_neverClosed (hleft frame (List.mem_reverse.mp hframe))

theorem onOneLine_findingLine {f : Finding} (h : f.OnOneLine) : OnOneLine f.line := by
  have hlabel : OnOneLine f.code.label := by cases f.code <;> decide
  simp only [Finding.line, onOneLine_append, onOneLine_toString, Int.toString_eq_repr, onOneLine_int,
    hlabel, h.message, h.errorTag, and_true]
  decide

def reportHead (count : Nat) : String :=
  let noun := if count = 1 then "issue" else "issues"
  s!"Found {count} {noun}:"

theorem onOneLine_reportHead (count : Nat) : OnOneLine (reportHead count) := by
  have hnoun : OnOneLine (if count = 1 then "issue" else "issues") := by split <;> decide
  simp +decide [reportHead, hnoun]

theorem split_report {found : List Finding} (hne : found ≠ []) (h : ∀ f ∈ found, f.OnOneLine) :
    ((report found).split '\n').toList.map (·.copy) =
      reportHead found.length :: found.map fun f => "  " ++ f.line := by
  have hlines : ∀ text ∈ reportHead found.length :: found.map (fun f => "  " ++ f.line),
      '\n' ∉ text.toList := by
    intro text htext
    rcases List.mem_cons.mp htext with rfl | htext
    · exact (onOneLine_reportHead _).1
    · obtain ⟨f, hf, rfl⟩ := List.mem_map.mp htext
      exact (onOneLine_append.mpr ⟨by decide, onOneLine_findingLine (h f hf)⟩).1
  have hreport : report found = (String.singleton '\n').intercalate
      (reportHead found.length :: found.map fun f => "  " ++ f.line) := by
    cases found with
    | nil => exact absurd rfl hne
    | cons f found => rfl
  rw [hreport, String.toList_split_intercalate hlines, if_neg (List.cons_ne_nil _ _)]

/-- Nothing that is found spreads over two lines, whatever the document holds, so a report is its
head and one line for every finding. -/
theorem report_gives_every_finding_one_line (document : String) :
    (∀ f ∈ check document,
      OnOneLine f.lineContent ∧ OnOneLine f.errorTag ∧ OnOneLine f.message) ∧
    (check document ≠ [] → ((report (check document)).split '\n').toList.map (·.copy) =
      reportHead (check document).length :: (check document).map fun f => "  " ++ f.line) := by
  constructor
  · intro f hf
    have honeLine := onOneLine_of_mem_check hf
    exact ⟨honeLine.lineContent, honeLine.errorTag, honeLine.message⟩
  · intro hne
    exact split_report hne fun f hf => onOneLine_of_mem_check hf

theorem bare_color_and_stray_bold_take_three_lines :
    let document := "<td bgcolor=' fff\t'\n></b>\r<td bgcolor=' fff\t'></td>"
    let f : Finding := ⟨3, "<td bgcolor=' fff\t'></td>", "bgcolor=\"fff\"",
      "Hex color value \"fff\" in bgcolor attribute is missing a leading '#'.", .missingHash⟩
    let g : Finding := ⟨2, "></b>", "</b>",
      "Unexpected closing tag </b> with no corresponding opening tag.", .unexpectedClosingTag⟩
    check document = [g, f] ∧
      (OnOneLine f.lineContent ∧ OnOneLine f.errorTag ∧ OnOneLine f.message) ∧
      ((report [g, f]).split '\n').toList.map (·.copy) =
        ["Found 2 issues:", "  " ++ g.line, "  " ++ f.line] := by
  intro document f g
  have hcheck : check document = [g, f] := by decide +kernel
  obtain ⟨hfields, hreport⟩ := report_gives_every_finding_one_line document
  have hhead : reportHead 2 = "Found 2 issues:" := by decide
  rw [hcheck] at hfields hreport
  refine ⟨hcheck, hfields f (by simp), ?_⟩
  rw [hreport (List.cons_ne_nil _ _), ← hhead]
  rfl

end MailMarkup
