import MailMarkup.Proofs.AttributeList
import MailMarkup.Proofs.NameTail

namespace MailMarkup

namespace QuotedAttribute

/-- The value ends the way an attribute of one of the names begins, so that the quote that closes
the value is taken for the one that opens the attribute. -/
def LeavesOpen (names : List String) (value : List Char) : Prop :=
  ∃ front name before behind, value = front ++ (name ++ (before ++ '=' :: behind)) ∧
    mayStart front.getLast? = true ∧ IsCalled names name ∧
    (∀ c ∈ before, Text.isBlank c = true) ∧ ∀ c ∈ behind, Text.isBlank c = true

theorem not_leavesOpen {names : List String} {value : List Char} {c : Char}
    (hlast : value.getLast? = some c) (hblank : Text.isBlank c = false) (hsign : c ≠ '=') :
    ¬ LeavesOpen names value := by
  rintro ⟨front, name, before, behind, rfl, -, -, -, hbehind⟩
  rw [← List.append_assoc, ← List.append_assoc, List.getLast?_append_cons] at hlast
  rcases List.mem_cons.mp (List.mem_of_getLast? hlast) with rfl | hmem
  · exact hsign rfl
  · rw [hbehind c hmem] at hblank
    cases hblank

structure Item extends QuotedAttribute where
  isNameChar_name : ∀ c ∈ name, isNameChar c = true
  double_not_mem_value : '\x22' ∉ value
  single_not_mem_value : '\x27' ∉ value

namespace Item

theorem isQuote_name (a : Item) : ∀ c ∈ a.name, isQuote c = false :=
  fun c hc => (nameChar_facts (a.isNameChar_name c hc)).2.2.1

theorem isQuote_value (a : Item) : ∀ c ∈ a.value, isQuote c = false :=
  isQuote_eq_false a.double_not_mem_value a.single_not_mem_value

def lead (a : Item) : List Char := ' ' :: (a.name ++ ['='])

theorem written_append (a : Item) (cs : List Char) :
    a.written ++ cs = a.lead ++ '\x22' :: (a.value ++ '\x22' :: cs) := by
  simp [written, lead]

theorem not_mem_lead (a : Item) : '\x22' ∉ a.lead := by
  have hname : '\x22' ∉ a.name := not_mem_of_isQuote a.isQuote_name rfl
  simp [lead, hname]

def text (as : List Item) : List Char := as.flatMap (·.written)

theorem text_append (as bs : List Item) : text (as ++ bs) = text as ++ text bs :=
  List.flatMap_append

theorem text_cons (a : Item) (as : List Item) : text (a :: as) = a.written ++ text as := rfl

theorem evenQuotes_text (as : List Item) : EvenQuotes (text as) :=
  .flatMap (fun a => evenQuotes_written a.isQuote_name a.isQuote_value) as

end Item

theorem prefix_of_marks {run name tail word marks : List Char}
    (h : run ++ (name ++ tail) = word ++ marks) (hne : name ≠ [])
    (hname : ∀ c ∈ name, Text.isWord c = true)
    (hmarks : ∀ c ∈ marks, Text.isBlank c = true ∨ c = '=') : run <+: word := by
  rcases List.append_eq_append_iff.mp h with ⟨rest, hword, -⟩ | ⟨rest, -, hrest⟩
  · exact ⟨rest, hword.symm⟩
  · obtain ⟨c, name, rfl⟩ := List.exists_cons_of_ne_nil hne
    obtain ⟨hblank, hsign, -⟩ := word_facts (hname c List.mem_cons_self)
    rcases hmarks c (by simp [hrest]) with hc | hc
    · rw [hc] at hblank
      cases hblank
    · exact absurd hc hsign

section Reading

variable {names : List String} (hnames : ∀ name ∈ names, Text.IsKeyword name.toList)
include hnames

theorem allFrom_of_not_isCalled {a : Item} (h : ¬ IsCalled names a.name) (cs : List Char)
    (found : List QuotedAttribute) (before : Option Char) :
    allFrom names found before (a.written ++ cs) =
      allFrom names found none (a.value ++ '\x22' :: cs) := by
  have hread : read? names (a.name ++ '=' :: '\x22' :: (a.value ++ '\x22' :: cs)) = none := by
    have hnone := read?_of_not_isCalled hnames (a.source a.double_not_mem_value) h
      (fun c hc => (nameChar_facts (a.isNameChar_name c hc)).imp_right And.left) cs
    simpa [text_source] using hnone
  have htext : a.written ++ cs = ' ' :: (a.name ++ '=' :: '\x22' :: (a.value ++ '\x22' :: cs)) := by
    simp [written]
  rw [htext, allFrom_pass (Or.inr (read?_mark hnames (Or.inl (by decide)) _)),
    allFrom_quiet (quiet_name hread a.isNameChar_name _),
    allFrom_pass (Or.inr (read?_mark hnames (Or.inr (Or.inl rfl)) _)),
    allFrom_pass (Or.inr (read?_mark hnames (Or.inr (Or.inr rfl)) _))]
  exact allFrom_congr (by decide) found _

variable {value : List Char} (hvalue : ∀ c ∈ value, isQuote c = false)
include hvalue

theorem allFrom_closed (h : ¬ LeavesOpen names value) (cs : List Char)
    (found : List QuotedAttribute) :
    allFrom names found none (value ++ '\x22' :: cs) = allFrom names found none cs := by
  rw [allFrom_quiet, allFrom_pass (Or.inr (read?_mark hnames (Or.inr (Or.inr rfl)) _))]
  · exact allFrom_congr (by decide) found cs
  · rintro front c back rfl
    rw [Option.or_none]
    by_cases hstart : mayStart front.getLast? = true
    · right
      cases hread : read? names (c :: (back ++ '\x22' :: cs)) with
      | none => rfl
      | some read =>
        have hpart : ∀ d ∈ c :: back, isQuote d = false :=
          fun d hd => hvalue d (List.mem_append_right front hd)
        obtain ⟨source, hsource, -, hcalled⟩ := source_of_read?_inside hnames hpart hread
        exact absurd ⟨front, source.name, source.before, source.behind, by rw [hsource], hstart,
          hcalled, source.isBlank_before, source.isBlank_behind⟩ h
    · exact Or.inl (Bool.eq_false_iff.mpr hstart)

omit hvalue in
theorem read?_before_name {run name tail cs : List Char} {d : Char} (hlast : d ∈ run.getLast?)
    (hd : mayStart (some d) = true) (hcalled : IsCalled names name)
    (hquote : ∀ c ∈ run ++ (name ++ tail), isQuote c = false) :
    read? names (run ++ (name ++ tail) ++ '\x22' :: cs) = none := by
  cases hread : read? names (run ++ (name ++ tail) ++ '\x22' :: cs) with
  | none => rfl
  | some read =>
    obtain ⟨source, hsource, -, hother⟩ := source_of_read?_inside hnames hquote hread
    have hrun : run <+: source.name := by
      apply prefix_of_marks hsource (hcalled.ne_nil hnames) (hcalled.isWord hnames)
      simp only [List.forall_mem_append, List.forall_mem_cons]
      exact ⟨fun c hc => Or.inl (source.isBlank_before c hc), Or.inr trivial,
        fun c hc => Or.inl (source.isBlank_behind c hc)⟩
    have hword := hother.isWord hnames d (hrun.subset (List.mem_of_getLast? hlast))
    rw [(word_facts hword).2.2.2] at hd
    cases hd

theorem allFrom_open (h : LeavesOpen names value) : ∃ name, ∀ found (a : Item) cs,
    allFrom names found none (value ++ '\x22' :: (a.written ++ cs)) =
      allFrom names (⟨name, a.lead⟩ :: found) none (a.value ++ '\x22' :: cs) := by
  obtain ⟨front, name, before, behind, rfl, hstart, hcalled, hbefore, hbehind⟩ := h
  refine ⟨name, ?_⟩
  intro found a cs
  let source : Source :=
    ⟨name, before, behind, '\x22', a.lead, hbefore, hbehind, rfl, a.not_mem_lead⟩
  have htext : name ++ (before ++ '=' :: behind) ++ '\x22' :: (a.written ++ cs) =
      source.text ++ (a.value ++ '\x22' :: cs) := by
    rw [a.written_append]
    simp [source, Source.text, Source.assignment]
  have hread : read? names (name ++ (before ++ '=' :: behind) ++ '\x22' :: (a.written ++ cs)) =
      some (⟨name, a.lead⟩, a.value ++ '\x22' :: cs) := by
    rw [htext]
    exact read?_of_isCalled hnames source hcalled _
  rw [List.append_assoc, allFrom_quiet, Option.or_none, allFrom_of_read hstart hread]
  -- what stands before the name ends in a mark, so nothing is read from there
  rintro front' c back rfl
  right
  have hd := List.getLast?_eq_some_getLast (List.cons_ne_nil c back)
  rw [List.getLast?_append, hd] at hstart
  rw [← List.cons_append, ← List.append_assoc]
  apply read?_before_name hnames hd hstart hcalled
  intro e he
  exact hvalue e (by rw [List.append_assoc]; exact List.mem_append_right front' he)

omit hvalue in
/-- An attribute that is not looked for is entered with the same ones found before it, whatever its
value: from outside the quotes, or from within the value before it. -/
theorem exists_found {name : List Char} (hname : ¬ IsCalled names name) (front : List Item) :
    (∀ found before, ∃ found', ∀ (a : Item) cs, a.name = name →
      allFrom names found before (Item.text front ++ (a.written ++ cs)) =
        allFrom names found' none (a.value ++ '\x22' :: cs)) ∧
    ∀ found value, (∀ c ∈ value, isQuote c = false) → ∃ found', ∀ (a : Item) cs, a.name = name →
      allFrom names found none (value ++ '\x22' :: (Item.text front ++ (a.written ++ cs))) =
        allFrom names found' none (a.value ++ '\x22' :: cs) := by
  -- each attribute is left in one of the two states, so both halves go through one induction
  induction front with
  | nil =>
    have houtside (found : List QuotedAttribute) (before : Option Char) (a : Item)
        (cs : List Char) (ha : a.name = name) :
        allFrom names found before (a.written ++ cs) =
          allFrom names found none (a.value ++ '\x22' :: cs) := by
      rw [← ha] at hname
      exact allFrom_of_not_isCalled hnames hname cs found before
    refine ⟨fun found before => ⟨found, houtside found before⟩, ?_⟩
    intro found value hvalue
    by_cases hopen : LeavesOpen names value
    · obtain ⟨word, hword⟩ := allFrom_open hnames hvalue hopen
      refine ⟨⟨word, ' ' :: (name ++ ['='])⟩ :: found, ?_⟩
      intro a cs ha
      rw [← ha]
      exact hword found a cs
    · refine ⟨found, ?_⟩
      intro a cs ha
      rw [allFrom_closed hnames hvalue hopen]
      exact houtside found none a cs ha
  | cons b front ih =>
    obtain ⟨ihout, ihin⟩ := ih
    have houtside (found : List QuotedAttribute) (before : Option Char) :
        ∃ found', ∀ (a : Item) cs, a.name = name →
          allFrom names found before (Item.text (b :: front) ++ (a.written ++ cs)) =
            allFrom names found' none (a.value ++ '\x22' :: cs) := by
      simp only [Item.text_cons, List.append_assoc]
      by_cases hcalled : IsCalled names b.name
      · simp only [allFrom_written hnames hcalled b.double_not_mem_value]
        exact ihout (b.toQuotedAttribute :: found) none
      · simp only [allFrom_of_not_isCalled hnames hcalled]
        exact ihin found b.value b.isQuote_value
    refine ⟨houtside, ?_⟩
    intro found value hvalue
    by_cases hopen : LeavesOpen names value
    · obtain ⟨word, hword⟩ := allFrom_open hnames hvalue hopen
      simp only [Item.text_cons, List.append_assoc, hword]
      exact ihin (⟨word, b.lead⟩ :: found) b.value b.isQuote_value
    · simp only [allFrom_closed hnames hvalue hopen]
      exact houtside found none

end Reading

end QuotedAttribute

namespace Attribute

open QuotedAttribute (Item IsCalled LeavesOpen)

section Alike

variable {names : List String} (hnames : ∀ name ∈ names, Text.IsKeyword name.toList)
  {a b : Item} (hname : a.name = b.name) (ha : ¬ IsCalled names a.name)
include hnames hname ha

theorem all_last (front : List Item) :
    QuotedAttribute.all names (Item.text (front ++ [a])) =
      QuotedAttribute.all names (Item.text (front ++ [b])) := by
  obtain ⟨found, hfound⟩ := (QuotedAttribute.exists_found hnames ha front).1 [] none
  have htext (e : Item) : Item.text [e] = e.written ++ [] := rfl
  simp only [QuotedAttribute.all, Item.text_append, htext, hfound a _ rfl, hfound b _ hname.symm,
    QuotedAttribute.allFrom_last hnames a.isQuote_value,
    QuotedAttribute.allFrom_last hnames b.isQuote_value]

theorem all_alike (h : LeavesOpen names a.value ↔ LeavesOpen names b.value)
    (front back : List Item) :
    List.Forall₂ Alike (QuotedAttribute.all names (Item.text (front ++ a :: back)))
      (QuotedAttribute.all names (Item.text (front ++ b :: back))) := by
  cases back with
  | nil =>
    rw [all_last hnames hname ha]
    exact Alike.all_refl _
  | cons e back =>
    obtain ⟨found, hfound⟩ := (QuotedAttribute.exists_found hnames ha front).1 [] none
    simp only [QuotedAttribute.all, Item.text_append, Item.text_cons, hfound a _ rfl,
      hfound b _ hname.symm]
    by_cases hopen : LeavesOpen names a.value
    · obtain ⟨name, hread⟩ := QuotedAttribute.allFrom_open hnames a.isQuote_value hopen
      obtain ⟨name', hread'⟩ := QuotedAttribute.allFrom_open hnames b.isQuote_value (h.mp hopen)
      have hsign : '=' ∈ e.lead := by simp [Item.lead]
      rw [hread, hread', QuotedAttribute.allFrom_cons, QuotedAttribute.allFrom_cons]
      exact List.rel_append (Alike.all_refl _) (.cons ⟨rfl, Or.inr hsign⟩ (Alike.all_refl _))
    · rw [QuotedAttribute.allFrom_closed hnames a.isQuote_value hopen,
        QuotedAttribute.allFrom_closed hnames b.isQuote_value (mt h.mpr hopen)]
      exact Alike.all_refl _

end Alike

theorem remarks_text (as : List Item) (tagName : String) :
    remarks (String.ofList (Item.text as)) tagName =
      styleRemarks (Item.text as) ++ legacyColorRemarks (Item.text as) ++
        if tagName = "a" then linkRemarks (Item.text as) else [] := by
  rw [remarks, String.toList_ofList, parityRemarks_of_even (Item.evenQuotes_text as),
    List.nil_append]

section Probe

variable {a : Item} (ha : ¬ IsCalled watchedNames a.name)
include ha

theorem all_probe (names : List String) (hmem : names ∈ checkedNames) (probe : Item) :
    (LeavesOpen names a.value ∧ ∃ name,
      QuotedAttribute.all names (Item.text [a, probe]) = [⟨name, probe.lead⟩]) ∨
    ¬ LeavesOpen names a.value ∧ QuotedAttribute.all names (Item.text [a, probe]) =
      if IsCalled names probe.name then [probe.toQuotedAttribute] else [] := by
  have hnames := isKeyword_of_checked hmem
  have hcalled : ¬ IsCalled names a.name := fun h => ha (h.mono (subset_watchedNames hmem))
  have htext : Item.text [a, probe] = a.written ++ (probe.written ++ []) := rfl
  rw [QuotedAttribute.all, htext, QuotedAttribute.allFrom_of_not_isCalled hnames hcalled]
  by_cases hopen : LeavesOpen names a.value
  · obtain ⟨name, hread⟩ := QuotedAttribute.allFrom_open hnames a.isQuote_value hopen
    rw [hread, QuotedAttribute.allFrom_last hnames probe.isQuote_value]
    exact Or.inl ⟨hopen, name, rfl⟩
  · rw [QuotedAttribute.allFrom_closed hnames a.isQuote_value hopen]
    refine Or.inr ⟨hopen, ?_⟩
    by_cases hprobe : IsCalled names probe.name
    · rw [QuotedAttribute.allFrom_written hnames hprobe probe.double_not_mem_value,
        QuotedAttribute.allFrom, if_pos hprobe, List.reverse_singleton]
    · rw [QuotedAttribute.allFrom_of_not_isCalled hnames hprobe,
        QuotedAttribute.allFrom_last hnames probe.isQuote_value, if_neg hprobe, List.reverse_nil]

open scoped Classical in
theorem styleRemarks_probe (probe : Item) :
    styleRemarks (Item.text [a, probe]) =
      if ¬ LeavesOpen ["style"] a.value ∧ IsCalled ["style"] probe.name then
        Style.remarks probe.value
      else [] := by
  have hcolon : ':' ∉ probe.lead := by
    have hname : ':' ∉ probe.name := fun h => absurd (probe.isNameChar_name _ h) (by decide)
    simp [Item.lead, hname]
  rcases all_probe ha ["style"] (by decide) probe with
    ⟨hopen, name, hall⟩ | ⟨hopen, hall⟩
  · rw [styleRemarks, hall, if_neg (fun h => h.1 hopen)]
    exact Style.remarks_of_not_mem hcolon
  · by_cases hprobe : IsCalled ["style"] probe.name
    · rw [styleRemarks, hall, if_pos hprobe, if_pos ⟨hopen, hprobe⟩]
    · rw [styleRemarks, hall, if_neg hprobe, if_neg (fun h => hprobe h.2)]

open scoped Classical in
theorem legacyColorRemarks_probe (probe : Item) :
    legacyColorRemarks (Item.text [a, probe]) =
      if ¬ LeavesOpen colorNames a.value ∧ IsCalled colorNames probe.name then
        colorRemarks probe.toQuotedAttribute
      else [] := by
  rcases all_probe ha colorNames (by decide) probe with
    ⟨hopen, name, hall⟩ | ⟨hopen, hall⟩
  · rw [legacyColorRemarks, hall, if_neg (fun h => h.1 hopen), List.flatMap_singleton]
    exact colorRemarks_eq_nil (by simp [Item.lead])
  · by_cases hprobe : IsCalled colorNames probe.name
    · rw [legacyColorRemarks, hall, if_pos hprobe, if_pos ⟨hopen, hprobe⟩, List.flatMap_singleton]
    · rw [legacyColorRemarks, hall, if_neg hprobe, if_neg (fun h => hprobe h.2), List.flatMap_nil]

def styleProbe : Item :=
  ⟨⟨"style".toList, "Top:0".toList⟩, List.all_eq_true.mp rfl, by decide, by decide⟩

def colorProbe : Item :=
  ⟨⟨"color".toList, "fff".toList⟩, List.all_eq_true.mp rfl, by decide, by decide⟩

def linkProbe : Item :=
  ⟨⟨"href".toList, "#".toList⟩, List.all_eq_true.mp rfl, by decide, by decide⟩

theorem remarks_styleProbe :
    remarks (String.ofList (Item.text [a, styleProbe])) "td" = [] ↔
      LeavesOpen ["style"] a.value := by
  have hstyle : IsCalled ["style"] styleProbe.name := by decide
  have hcolor : ¬ IsCalled colorNames styleProbe.name := by decide
  have hremarks : Style.remarks styleProbe.value ≠ [] := by decide +kernel
  rw [remarks_text, styleRemarks_probe ha, legacyColorRemarks_probe ha]
  simp [hstyle, hcolor, hremarks]

theorem remarks_colorProbe :
    remarks (String.ofList (Item.text [a, colorProbe])) "td" = [] ↔
      LeavesOpen colorNames a.value := by
  have hstyle : ¬ IsCalled ["style"] colorProbe.name := by decide
  have hcolor : IsCalled colorNames colorProbe.name := by decide
  have hremarks : colorRemarks colorProbe.toQuotedAttribute ≠ [] := by decide +kernel
  rw [remarks_text, styleRemarks_probe ha, legacyColorRemarks_probe ha]
  simp [hstyle, hcolor, hremarks]

theorem remarks_linkProbe :
    remarks (String.ofList (Item.text [a, linkProbe])) "a" = [] ↔
      ¬ LeavesOpen ["href"] a.value := by
  have hstyle : ¬ IsCalled ["style"] linkProbe.name := by decide
  have hcolor : ¬ IsCalled colorNames linkProbe.name := by decide
  have hlink : IsCalled ["href"] linkProbe.name := by decide
  rw [remarks_text, styleRemarks_probe ha, legacyColorRemarks_probe ha,
    if_neg (fun h => hstyle h.2), if_neg (fun h => hcolor h.2), if_pos rfl, List.nil_append,
    List.nil_append, linkRemarks]
  rcases all_probe ha ["href"] (by decide) linkProbe with
    ⟨hopen, name, hall⟩ | ⟨hopen, hall⟩
  · have hlead : ((Text.trim linkProbe.lead).isEmpty ||
        isAllowedLink (Text.trim linkProbe.lead)) = false := by
      decide +kernel
    simp [hall, hlead, hopen]
  · rw [hall, if_pos hlink]
    exact iff_of_true (by decide +kernel) hopen

end Probe

/-- The value of an attribute that is not looked for can be told from what is found in some list
exactly if it leaves open a name that another value does not. As the last value it never counts. -/
theorem unrelated_value_is_invisible_iff {a b : Item} (hname : a.name = b.name)
    (ha : ¬ IsCalled watchedNames a.name) :
    let found := fun (as : List Item) (tagName : String) (line : Line) =>
      (remarks (String.ofList (Item.text as)) tagName).map line.place.finding
    ((∀ front back tagName line,
        found (front ++ a :: back) tagName line = found (front ++ b :: back) tagName line) ↔
      ∀ names ∈ checkedNames, LeavesOpen names a.value ↔ LeavesOpen names b.value) ∧
    ∀ front tagName line, found (front ++ [a]) tagName line = found (front ++ [b]) tagName line := by
  intro found
  have hcalled {names : List String} (hmem : names ∈ checkedNames) : ¬ IsCalled names a.name :=
    fun h => ha (h.mono (subset_watchedNames hmem))
  refine ⟨⟨?_, ?_⟩, ?_⟩
  · intro hsame
    have hb : ¬ IsCalled watchedNames b.name := hname ▸ ha
    have hnil (probe : Item) (tagName : String) :
        remarks (String.ofList (Item.text [a, probe])) tagName = [] ↔
          remarks (String.ofList (Item.text [b, probe])) tagName = [] := by
      have hfound := congrArg (· = []) (hsame [] [probe] tagName ⟨1, ""⟩)
      simpa [found] using hfound
    have hstyle := (remarks_styleProbe ha).symm.trans
      ((hnil styleProbe "td").trans (remarks_styleProbe hb))
    have hcolor := (remarks_colorProbe ha).symm.trans
      ((hnil colorProbe "td").trans (remarks_colorProbe hb))
    have hlink := (remarks_linkProbe ha).symm.trans
      ((hnil linkProbe "a").trans (remarks_linkProbe hb))
    simp only [checkedNames, List.forall_mem_cons]
    exact ⟨hstyle, hcolor, not_iff_not.mp hlink, List.forall_mem_nil _⟩
  · intro hopen front back tagName line
    refine congrArg (List.map line.place.finding)
      (remarks_eq_of_alike (Item.evenQuotes_text _) (Item.evenQuotes_text _) ?_ tagName)
    intro names hmem
    exact all_alike (isKeyword_of_checked hmem) hname (hcalled hmem) (hopen names hmem) front back
  · intro front tagName line
    refine congrArg (List.map line.place.finding)
      (remarks_eq_of_alike (Item.evenQuotes_text _) (Item.evenQuotes_text _) ?_ tagName)
    intro names hmem
    rw [all_last (isKeyword_of_checked hmem) hname (hcalled hmem)]
    exact Alike.all_refl _

theorem attribute_spelled_inside_a_title_is_invisible :
    let plain : Item :=
      ⟨⟨"title".toList, "Old".toList⟩, List.all_eq_true.mp rfl, by decide, by decide⟩
    let spelled : Item :=
      ⟨⟨"title".toList, "style=Top:0 href= and so on".toList⟩, List.all_eq_true.mp rfl, by decide,
        by decide⟩
    (remarks (String.ofList (Item.text [styleProbe, plain, colorProbe])) "a").map
        (Line.place ⟨3, ""⟩).finding =
      (remarks (String.ofList (Item.text [styleProbe, spelled, colorProbe])) "a").map
        (Line.place ⟨3, ""⟩).finding := by
  intro plain spelled
  have hplain (names : List String) : ¬ LeavesOpen names plain.value :=
    QuotedAttribute.not_leavesOpen (c := 'd') rfl (by decide) (by decide)
  have hspelled (names : List String) : ¬ LeavesOpen names spelled.value :=
    QuotedAttribute.not_leavesOpen (c := 'n') rfl (by decide) (by decide)
  exact (unrelated_value_is_invisible_iff (a := plain) (b := spelled) rfl (by decide)).1.mpr
    (fun names _ => iff_of_false (hplain names) (hspelled names)) [styleProbe] [colorProbe] "a"
    ⟨3, ""⟩

theorem value_that_ends_in_a_name_hides_and_makes_findings :
    (remarks " data-url=\"https://x.test/?text\" bgcolor=\"fff\"" "td").map (·.code) =
      [.missingHash] ∧
    remarks " data-url=\"https://x.test/?text=\" bgcolor=\"fff\"" "td" = [] ∧
    remarks " title=\"href\" id=\"x\"" "a" = [] ∧
    (remarks " title=\"href=\" id=\"x\"" "a").map (·.errorTag) = ["href=\"id=\""] := by
  decide +kernel

end Attribute

end MailMarkup
