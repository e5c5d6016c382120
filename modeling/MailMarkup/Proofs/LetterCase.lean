import MailMarkup.Proofs.Attribution
import MailMarkup.Proofs.LineEnds
import MailMarkup.Proofs.Relocate
import MailMarkup.Proofs.Scan

namespace MailMarkup

theorem of_toLower {β : Type} (f : Char → β)
    (h : ∀ n : Fin 26, f (Char.ofNat (65 + n)).toLower = f (Char.ofNat (65 + n))) (c : Char) :
    f c.toLower = f c := by
  by_cases hc : c.val ≥ 'A'.val ∧ c.val ≤ 'Z'.val
  · have hle : 65 ≤ c.toNat := UInt32.le_iff_toNat_le.mp hc.1
    have hge : c.toNat ≤ 90 := UInt32.le_iff_toNat_le.mp hc.2
    have hletter := h ⟨c.toNat - 65, by omega⟩
    have hcode : 65 + (c.toNat - 65) = c.toNat := by omega
    simpa only [hcode, Char.ofNat_toNat] using hletter
  · exact congrArg f (dif_neg hc)

def SameButCase (text text' : String) : Prop :=
  text.toList.map Char.toLower = text'.toList.map Char.toLower

instance (text text' : String) : Decidable (SameButCase text text') :=
  inferInstanceAs (Decidable (_ = _))

def Text.lowered (text : String) : String := String.ofList (text.toList.map Char.toLower)

@[simp] theorem Text.toList_lowered (text : String) :
    (lowered text).toList = text.toList.map Char.toLower := String.toList_ofList

theorem sameButCase_iff {text text' : String} :
    SameButCase text text' ↔ Text.lowered text = Text.lowered text' := by
  rw [SameButCase, Text.lowered, Text.lowered, String.ofList_inj]

theorem comp_toLower {p : Char → Bool}
    (h : ∀ n : Fin 26, p (Char.ofNat (65 + n)).toLower = p (Char.ofNat (65 + n))) :
    p ∘ Char.toLower = p :=
  funext (of_toLower p h)

theorem toLower_eq_iff {d : Char}
    (h : ∀ n : Fin 26, decide ((Char.ofNat (65 + n)).toLower = d) = decide (Char.ofNat (65 + n) = d))
    (c : Char) : c.toLower = d ↔ c = d := by
  simpa using of_toLower (fun c => decide (c = d)) h c

namespace Text

theorem trim_toLower (cs : List Char) : trim (cs.map Char.toLower) = (trim cs).map Char.toLower := by
  have hblank : isBlank ∘ Char.toLower = isBlank := comp_toLower (by decide)
  simp only [trim, trimLeft, trimRight, List.dropWhile_map, ← List.map_reverse, hblank]

theorem lower_toLower (cs : List Char) : lower (cs.map Char.toLower) = lower cs := by
  rw [lower, List.flatMap_map]
  exact congrArg (List.flatMap · cs) (funext (of_toLower lowerChar (by decide)))

theorem pieces_toLower {p : Char → Bool} (h : p ∘ Char.toLower = p) (cs : List Char) :
    pieces p (cs.map Char.toLower) = (pieces p cs).map (List.map Char.toLower) := by
  induction cs with
  | nil => rfl
  | cons c cs ih =>
    have hc : p c.toLower = p c := congrFun h c
    rw [List.map_cons]
    cases hp : p c with
    | true =>
      rw [pieces_cons_of_pos (hc.trans hp), pieces_cons_of_pos hp, ih]
      rfl
    | false =>
      obtain ⟨w, ws, hw⟩ := List.exists_cons_of_ne_nil (pieces_ne_nil p cs)
      rw [hw, List.map_cons] at ih
      rw [pieces_cons_of_neg (hc.trans hp) ih, pieces_cons_of_neg hp hw]
      rfl

end Text

theorem unifyAfter_toLower (before : Option Char) (cs : List Char) :
    unifyAfter (before.map Char.toLower) (cs.map Char.toLower) =
      (unifyAfter before cs).map Char.toLower := by
  have hlf := toLower_eq_iff (d := '\n') (by decide)
  have hcr := toLower_eq_iff (d := '\r') (by decide)
  induction cs generalizing before with
  | nil => rfl
  | cons c cs ih =>
    have hbefore : before.map Char.toLower = some '\r' ↔ before = some '\r' := by
      cases before <;> simp [hcr]
    have hrest := ih (some c)
    rw [Option.map_some] at hrest
    simp only [List.map_cons, unifyAfter, hlf, hcr, hbefore, hrest]
    split
    · rfl
    · rw [List.map_cons]
      split
      · rfl
      · rfl

def Line.lowered (line : Line) : Line := ⟨line.number, Text.lowered line.text⟩

theorem lines_lowered (document : String) :
    lines (Text.lowered document) = (lines document).map Line.lowered := by
  have hbreak : (· == '\n') ∘ Char.toLower = (· == '\n') := comp_toLower (by decide)
  have hunify : unifyLineEnds (document.toList.map Char.toLower) =
      (unifyLineEnds document.toList).map Char.toLower := by
    simp only [unifyLineEnds_eq_unifyAfter]
    exact unifyAfter_toLower none document.toList
  rw [lines, Text.toList_lowered, hunify, Text.pieces_toLower hbreak, List.zipIdx_map, lines,
    List.map_map, List.map_map]
  apply List.map_congr_left
  intro p _
  simp [Line.lowered, Text.lowered]

theorem Line.display_lowered (line : Line) :
    line.lowered.display = Text.lowered line.display := by
  rw [Line.display, Line.lowered, Text.toList_lowered, Text.trim_toLower, Text.lowered,
    Line.display, String.toList_ofList]

theorem isSkipped_lowered (text : String) : isSkipped (Text.lowered text) = isSkipped text := by
  simp only [isSkipped, Text.toList_lowered, Text.trim_toLower, Text.lower_toLower]

namespace Tag

def lowered (tag : Tag) : Tag := { tag with attributes := Text.lowered tag.attributes }

theorem read?_toLower (cs : List Char) :
    read? (cs.map Char.toLower) =
      (read? cs).map fun read => (read.1.lowered, read.2.map Char.toLower) := by
  have hname : isNameChar ∘ Char.toLower = isNameChar := comp_toLower (by decide)
  have hend : (· != '>') ∘ Char.toLower = (· != '>') := comp_toLower (by decide)
  have hclosing : ((cs.map Char.toLower).head? == some '/') = (cs.head? == some '/') := by
    have hslash := toLower_eq_iff (d := '/') (by decide)
    cases cs <;> simp [hslash]
  have hidem : Char.toLower ∘ Char.toLower = Char.toLower := funext (of_toLower _ (by decide))
  have hbody : (if (cs.head? == some '/') = true then (cs.map Char.toLower).tail
      else cs.map Char.toLower) =
      (if (cs.head? == some '/') = true then cs.tail else cs).map Char.toLower := by
    split <;> simp
  simp only [read?, hclosing, hbody, List.takeWhile_map, List.dropWhile_map, hname, hend,
    List.map_map, hidem]
  generalize (if (cs.head? == some '/') = true then cs.tail else cs) = body
  cases body.takeWhile isNameChar with
  | nil => rfl
  | cons c name =>
    cases (body.dropWhile isNameChar).dropWhile (· != '>') with
    | nil => rfl
    | cons d rest => simp [lowered, Text.lowered]

theorem scanFrom_toLower (found : List Tag) (cs : List Char) :
    scanFrom (found.map lowered) (cs.map Char.toLower) = (scanFrom found cs).map lowered := by
  have hopen := toLower_eq_iff (d := '<') (by decide)
  fun_induction scanFrom found cs with
  | case1 found => rw [List.map_nil, scanFrom, List.map_reverse]
  | case2 found cs tag rest hread ih =>
    have hlow : read? (cs.map Char.toLower) = some (tag.lowered, rest.map Char.toLower) := by
      rw [read?_toLower, hread]
      rfl
    exact (scanFrom_of_read hlow _).trans ih
  | case3 found cs hread ih =>
    have hlow : read? (cs.map Char.toLower) = none := by
      rw [read?_toLower, hread]
      rfl
    exact (scanFrom_of_none hlow _).trans ih
  | case4 found c cs hc ih =>
    rw [List.map_cons, scanFrom_of_ne (fun h => hc ((hopen c).mp h)), ih]

theorem scan_lowered (text : String) :
    scan (Text.lowered text) = (scan text).map lowered := by
  rw [scan, Text.toList_lowered]
  exact scanFrom_toLower [] text.toList

theorem selfClosing_lowered (tag : Tag) : tag.lowered.selfClosing = tag.selfClosing := by
  have hslash := toLower_eq_iff (d := '/') (by decide)
  simp only [selfClosing, lowered, Text.toList_lowered, Text.trim_toLower, List.getLast?_map]
  cases (Text.trim tag.attributes.toList).getLast? <;> simp [hslash]

end Tag

def Place.lowered (place : Place) : Place := ⟨place.number, Text.lowered place.content⟩

theorem taggedPlaces_lowered (document : List Line) :
    taggedPlaces (document.map Line.lowered) =
      (taggedPlaces document).map fun t => (t.1.lowered, t.2.lowered) := by
  apply taggedPlaces_map
  intro line _
  have hskip : isSkipped line.lowered.text = isSkipped line.text := isSkipped_lowered line.text
  have hscan : Tag.scan line.lowered.text = (Tag.scan line.text).map Tag.lowered :=
    Tag.scan_lowered line.text
  have hplace : line.lowered.place = line.place.lowered := by
    rw [Line.place, Line.display_lowered]
    rfl
  cases h : isSkipped line.text <;> simp [taggedPlaces, hskip, hscan, hplace, h]

theorem gist_structuralFindings_lowered (document : String) :
    (structuralFindings (Text.lowered document)).map Finding.gist =
      (structuralFindings document).map Finding.gist := by
  rw [structuralFindings_eq_balance, structuralFindings_eq_balance, lines_lowered,
    taggedPlaces_lowered]
  apply Eq.symm
  apply Stack.balance_alike
  rw [List.forall₂_map_right_iff, List.forall₂_same]
  intro t _
  exact ⟨rfl, rfl, rfl, fun _ => (Tag.selfClosing_lowered t.2).symm⟩

theorem lines_sameButCase {document document' : String} (h : SameButCase document document') :
    (lines document).map Line.lowered = (lines document').map Line.lowered := by
  rw [← lines_lowered, ← lines_lowered, sameButCase_iff.mp h]

theorem sameButCase_lineContent {document document' : String} (h : SameButCase document document')
    {f g : Finding} (hf : f ∈ check document) (hg : g ∈ check document')
    (hnumber : f.lineNumber = g.lineNumber) : SameButCase f.lineContent g.lineContent := by
  obtain ⟨line, hline, -, hfn, hfc, -⟩ := isAbout_of_mem_check hf
  obtain ⟨line', hline', -, hgn, hgc, -⟩ := isAbout_of_mem_check hg
  have hget := (getElem?_lines_of_mem hline).2.2
  have hget' := (getElem?_lines_of_mem hline').2.2
  rw [← hfn] at hget
  rw [← hgn, ← hnumber] at hget'
  -- each shows the line that it names, and the two name the same one
  have hlowered := congrArg (fun ls => ls[f.lineNumber.toNat - 1]?) (lines_sameButCase h)
  simp only [List.getElem?_map, hget, hget', Option.map_some, Option.some.injEq] at hlowered
  rw [sameButCase_iff, hfc, hgc, ← Line.display_lowered, hlowered, Line.display_lowered]

structure Finding.SameButCase (f g : Finding) : Prop where
  number : f.lineNumber = g.lineNumber
  code : f.code = g.code
  errorTag : f.errorTag = g.errorTag
  message : f.message = g.message
  content : MailMarkup.SameButCase f.lineContent g.lineContent

theorem structural_findings_ignore_case (document document' : String)
    (h : SameButCase document document') :
    List.Forall₂ Finding.SameButCase (structuralFindings document)
      (structuralFindings document') := by
  have hgist : (structuralFindings document).map Finding.gist =
      (structuralFindings document').map Finding.gist := by
    rw [← gist_structuralFindings_lowered, sameButCase_iff.mp h, gist_structuralFindings_lowered]
  have halike : List.Forall₂ (fun f g => f.gist = g.gist) (structuralFindings document)
      (structuralFindings document') := by
    rw [← List.forall₂_map_right_iff, ← List.forall₂_map_left_iff, hgist]
    exact List.forall₂_refl _
  rw [List.forall₂_iff_zip] at halike ⊢
  refine ⟨halike.1, ?_⟩
  intro f g hmem
  obtain ⟨hf, hg⟩ := List.of_mem_zip hmem
  have hfg := halike.2 hmem
  simp only [Finding.gist, Prod.mk.injEq] at hfg
  obtain ⟨hnumber, hcode, herrorTag, hmessage⟩ := hfg
  refine ⟨hnumber, hcode, herrorTag, hmessage, ?_⟩
  exact sameButCase_lineContent h (List.mem_filter.mp hf).1 (List.mem_filter.mp hg).1 hnumber

theorem open_cell_and_stray_bold_in_either_case :
    let document := "<!DOCTYPE a>\n<Table><TD>É</tABLE>\n</B>"
    let document' := "<!doctype A>\n<tABLE><td>É</table>\n</b>"
    SameButCase document document' ∧
      (structuralFindings document').map Finding.gist =
        [(2, .unclosedBeforeClose, "<td>", "The tag <td> was not closed before </table> was found."),
          (3, .unexpectedClosingTag, "</b>",
            "Unexpected closing tag </b> with no corresponding opening tag.")] ∧
      List.Forall₂ Finding.SameButCase (structuralFindings document)
        (structuralFindings document') := by
  intro document document'
  have hcase : SameButCase document document' := by decide
  exact ⟨hcase, by decide +kernel, structural_findings_ignore_case document document' hcase⟩

end MailMarkup
