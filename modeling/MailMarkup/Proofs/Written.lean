import Mathlib.Data.List.Chain
import MailMarkup.Check
import MailMarkup.Proofs.LineEnds

namespace MailMarkup

inductive LineEnd where
  | lf
  | crlf
  | cr
  deriving DecidableEq, Repr

def LineEnd.text : LineEnd → String
  | .lf => "\n"
  | .crlf => "\r\n"
  | .cr => "\r"

def OnOneLine (text : String) : Prop := '\n' ∉ text.toList ∧ '\r' ∉ text.toList

instance : DecidablePred OnOneLine := fun _ => inferInstanceAs (Decidable (_ ∧ _))

theorem onOneLine_of_append {a b : String} (h : OnOneLine (a ++ b)) : OnOneLine a ∧ OnOneLine b := by
  simp only [OnOneLine, String.toList_append, List.mem_append, not_or] at h ⊢
  tauto

def numberFrom (first : Nat) (texts : List String) : List Line :=
  (texts.zipIdx first).map fun p => ⟨p.2, p.1⟩

theorem numberFrom_append (n : Nat) (texts texts' : List String) :
    numberFrom n (texts ++ texts') = numberFrom n texts ++ numberFrom (n + texts.length) texts' := by
  simp only [numberFrom, List.zipIdx_append, List.map_append]

theorem numberFrom_cons (n : Nat) (text : String) (texts : List String) :
    numberFrom n (text :: texts) = ⟨n, text⟩ :: numberFrom (n + 1) texts := rfl

theorem shift_numberFrom (n : Nat) (texts : List String) :
    (numberFrom (n + 1) texts).map (Line.shift (-1)) = numberFrom n texts := by
  induction texts generalizing n with
  | nil => rfl
  | cons text texts ih =>
    have hnumber : ((n + 1 : Nat) : Int) + -1 = n := by omega
    rw [numberFrom_cons, List.map_cons, ih, numberFrom_cons, Line.shift, hnumber]

theorem number_of_mem_numberFrom {n : Nat} {texts : List String} {line : Line}
    (h : line ∈ numberFrom n texts) : n ≤ line.number ∧ line.number < n + texts.length := by
  obtain ⟨p, hp, rfl⟩ := List.mem_map.mp h
  obtain ⟨hle, hlt, -⟩ := List.mem_zipIdx hp
  simp only
  omega

/-- A document as it is written: its first text, and each further one with the line end in front of
it. A CR, an empty text and an LF do not follow each other, since they would make one line end. -/
structure Written where
  first : String
  rest : List (LineEnd × String)
  onOneLine : ∀ text ∈ first :: rest.map Prod.snd, OnOneLine text
  apart : rest.IsChain fun piece next => ¬(piece = (.cr, "") ∧ next.1 = .lf)

theorem unifyAfter_onOneLine {text : String} (h : OnOneLine text) (before : Option Char) :
    unifyAfter before text.toList = text.toList := by
  obtain ⟨hlf, hcr⟩ := h
  generalize text.toList = cs at hlf hcr
  induction cs generalizing before with
  | nil => rfl
  | cons c cs ih =>
    obtain ⟨hc, hlf⟩ := List.ne_and_not_mem_of_not_mem_cons hlf
    obtain ⟨hc', hcr⟩ := List.ne_and_not_mem_of_not_mem_cons hcr
    rw [unifyAfter, if_neg (fun hjoin => hc hjoin.1.symm), if_neg hc'.symm, ih _ hlf hcr]

theorem unifyAfter_lineEnd {before : Option Char} {lineEnd : LineEnd}
    (h : before = some '\r' → lineEnd ≠ .lf) (cs : List Char) :
    unifyAfter before (lineEnd.text.toList ++ cs) =
      '\n' :: unifyAfter lineEnd.text.toList.getLast? cs := by
  cases lineEnd with
  | lf =>
    have hbefore : before ≠ some '\r' := fun hcr => h hcr rfl
    change unifyAfter before ('\n' :: cs) = _
    rw [unifyAfter, if_neg (fun hjoin => hbefore hjoin.2)]
    rfl
  | crlf => rfl
  | cr => rfl

theorem pieces_onOneLine {text : String} (h : OnOneLine text) :
    Text.pieces (· == '\n') text.toList = [text.toList] := by
  apply Text.pieces_of_free
  intro c hc
  rw [beq_eq_false_iff_ne]
  rintro rfl
  exact h.1 hc

namespace Written

def texts (w : Written) : List String := w.first :: w.rest.map Prod.snd

def document (w : Written) : String :=
  w.first ++ String.join (w.rest.map fun piece => piece.1.text ++ piece.2)

theorem toList_document (w : Written) :
    w.document.toList =
      w.first.toList ++ w.rest.flatMap fun piece => piece.1.text.toList ++ piece.2.toList := by
  simp [document, List.flatMap_map]

theorem unifyAfter_rest {before : Option Char} {rest : List (LineEnd × String)}
    (hline : ∀ piece ∈ rest, OnOneLine piece.2)
    (hapart : rest.IsChain fun piece next => ¬(piece = (.cr, "") ∧ next.1 = .lf))
    (hbefore : before = some '\r' → ∀ next ∈ rest.head?, next.1 ≠ .lf) :
    unifyAfter before (rest.flatMap fun piece => piece.1.text.toList ++ piece.2.toList) =
      rest.flatMap fun piece => '\n' :: piece.2.toList := by
  induction rest generalizing before with
  | nil => rfl
  | cons piece rest ih =>
    obtain ⟨lineEnd, text⟩ := piece
    obtain ⟨htext, hline⟩ := List.forall_mem_cons.mp hline
    obtain ⟨hnext, hapart⟩ := List.isChain_cons.mp hapart
    -- a CR right before `rest` can only be this piece's line end, with no text behind it
    have hlast : text.toList.getLast?.or lineEnd.text.toList.getLast? = some '\r' →
        ∀ next ∈ rest.head?, next.1 ≠ .lf := by
      intro hcr next hmem hlf
      apply hnext next hmem
      refine ⟨?_, hlf⟩
      cases hl : text.toList.getLast? with
      | some c =>
        have hc : c = '\r' := by simpa [hl] using hcr
        exact absurd (hc ▸ List.mem_of_getLast? hl) htext.2
      | none =>
        obtain rfl : text = "" := String.toList_eq_nil_iff.mp (List.getLast?_eq_none_iff.mp hl)
        cases lineEnd with
        | lf => exact absurd hcr (by decide)
        | crlf => exact absurd hcr (by decide)
        | cr => rfl
    rw [List.flatMap_cons, List.append_assoc,
      unifyAfter_lineEnd (fun hcr => hbefore hcr _ rfl), unifyAfter_append,
      unifyAfter_onOneLine htext, ih hline hapart hlast]
    rfl

theorem unifyLineEnds_document (w : Written) :
    unifyLineEnds w.document.toList =
      w.first.toList ++ w.rest.flatMap fun piece => '\n' :: piece.2.toList := by
  obtain ⟨hfirst, hrest⟩ := List.forall_mem_cons.mp w.onOneLine
  have hline : ∀ piece ∈ w.rest, OnOneLine piece.2 :=
    fun piece hp => hrest piece.2 (List.mem_map_of_mem hp)
  rw [unifyLineEnds_eq_unifyAfter, toList_document, unifyAfter_append,
    unifyAfter_onOneLine hfirst, unifyAfter_rest hline w.apart]
  intro hcr
  rw [Option.or_none] at hcr
  exact absurd (List.mem_of_getLast? hcr) hfirst.2

theorem pieces_texts {first : String} {rest : List (LineEnd × String)}
    (h : ∀ text ∈ first :: rest.map Prod.snd, OnOneLine text) :
    Text.pieces (· == '\n') (first.toList ++ rest.flatMap fun piece => '\n' :: piece.2.toList) =
      (first :: rest.map Prod.snd).map String.toList := by
  induction rest generalizing first with
  | nil =>
    simpa using pieces_onOneLine (h first List.mem_cons_self)
  | cons piece rest ih =>
    obtain ⟨hfirst, hrest⟩ := List.forall_mem_cons.mp h
    rw [List.flatMap_cons, List.cons_append, Text.pieces_append (by rfl),
      pieces_onOneLine hfirst, ih hrest]
    rfl

theorem lines_document (w : Written) : lines w.document = numberFrom 1 w.texts := by
  rw [lines, unifyLineEnds_document, pieces_texts w.onOneLine, List.zipIdx_map, List.map_map]
  apply List.map_congr_left
  intro p _
  simp only [Function.comp_apply, Prod.map_fst, Prod.map_snd, id_eq, String.ofList_toList]

def behind (lineEnd : LineEnd) (w : Written)
    (h : lineEnd = .cr → w.first = "" → ∀ next ∈ w.rest.head?, next.1 ≠ .lf) : Written where
  first := ""
  rest := (lineEnd, w.first) :: w.rest
  onOneLine := List.forall_mem_cons.mpr ⟨by decide, w.onOneLine⟩
  apart := by
    apply List.isChain_cons.mpr
    refine ⟨?_, w.apart⟩
    rintro next hnext ⟨hpiece, hlf⟩
    obtain ⟨hcr, hempty⟩ := Prod.mk.inj hpiece
    exact h hcr hempty next hnext hlf

theorem document_behind {lineEnd : LineEnd} {w : Written}
    (h : lineEnd = .cr → w.first = "" → ∀ next ∈ w.rest.head?, next.1 ≠ .lf) :
    (w.behind lineEnd h).document.toList = lineEnd.text.toList ++ w.document.toList := by
  simp [toList_document, behind]

def push (c : Char) (w : Written) (hlf : c ≠ '\n') (hcr : c ≠ '\r') : Written where
  first := String.ofList (c :: w.first.toList)
  rest := w.rest
  onOneLine := by
    obtain ⟨hfirst, hrest⟩ := List.forall_mem_cons.mp w.onOneLine
    refine List.forall_mem_cons.mpr ⟨?_, hrest⟩
    simp [OnOneLine, hlf.symm, hcr.symm, hfirst.1, hfirst.2]
  apart := w.apart

theorem document_push {c : Char} {w : Written} (hlf : c ≠ '\n') (hcr : c ≠ '\r') :
    (w.push c hlf hcr).document.toList = c :: w.document.toList := by
  simp [toList_document, push]

theorem exists_crlf {w : Written} (hempty : w.first = "") {next : LineEnd × String}
    (hnext : next ∈ w.rest.head?) (hlf : next.1 = .lf) :
    ∃ w' : Written, w'.document.toList = '\r' :: w.document.toList := by
  obtain ⟨first, rest, hline, hapart⟩ := w
  obtain ⟨later, rfl⟩ := List.head?_eq_some_iff.mp hnext
  obtain ⟨-, hlater⟩ := List.isChain_cons.mp hapart
  obtain ⟨lineEnd, text⟩ := next
  simp only at hempty hlf
  subst hempty hlf
  let below : Written := ⟨text, later, (List.forall_mem_cons.mp hline).2, hlater⟩
  refine ⟨below.behind .crlf (fun hcr => nomatch hcr), ?_⟩
  rw [document_behind]
  simp [toList_document, below, LineEnd.text]

theorem exists_document (cs : List Char) : ∃ w : Written, w.document.toList = cs := by
  induction cs with
  | nil => exact ⟨⟨"", [], by decide, List.IsChain.nil⟩, rfl⟩
  | cons c cs ih =>
    obtain ⟨w, rfl⟩ := ih
    by_cases hlf : c = '\n'
    · refine ⟨w.behind .lf (fun hcr => nomatch hcr), ?_⟩
      rw [document_behind, hlf]
      rfl
    by_cases hcr : c = '\r'
    · -- a CR takes an LF right behind it into its own line end
      by_cases hjoin : w.first = "" ∧ ∃ next ∈ w.rest.head?, next.1 = .lf
      · obtain ⟨hempty, next, hnext, hlf⟩ := hjoin
        rw [hcr]
        exact exists_crlf hempty hnext hlf
      · refine ⟨w.behind .cr ?_, ?_⟩
        · intro _ hempty next hnext hlf
          exact hjoin ⟨hempty, next, hnext, hlf⟩
        · rw [document_behind, hcr]
          rfl
    · exact ⟨w.push c hlf hcr, document_push hlf hcr⟩

theorem map_snd_lf (texts : List String) :
    (texts.map fun text => (LineEnd.lf, text)).map Prod.snd = texts := by
  rw [List.map_map]
  exact List.map_id texts

def ofLines (first : String) (rest : List String)
    (h : ∀ text ∈ first :: rest, OnOneLine text) : Written where
  first := first
  rest := rest.map fun text => (.lf, text)
  onOneLine := by rwa [map_snd_lf]
  apart := by
    rw [List.isChain_map]
    exact (List.pairwise_of_forall fun _ _ hcr => nomatch hcr.1).isChain

theorem texts_ofLines {first : String} {rest : List String}
    (h : ∀ text ∈ first :: rest, OnOneLine text) : (ofLines first rest h).texts = first :: rest := by
  rw [texts, ofLines, map_snd_lf]

theorem document_ofLines {first : String} {rest : List String}
    (h : ∀ text ∈ first :: rest, OnOneLine text) :
    (ofLines first rest h).document = "\n".intercalate (first :: rest) := by
  apply String.toList_inj.mp
  rw [toList_document, String.toList_intercalate]
  simp only [ofLines, List.flatMap_map, LineEnd.text, List.map_cons]
  clear h
  induction rest generalizing first with
  | nil => simp
  | cons text rest ih =>
    rw [List.map_cons, List.intercalate_cons_cons, ← ih, List.flatMap_cons]
    simp

end Written

theorem lines_intercalate {texts : List String} (hne : texts ≠ [])
    (h : ∀ text ∈ texts, OnOneLine text) :
    lines ("\n".intercalate texts) = numberFrom 1 texts := by
  obtain ⟨first, rest, rfl⟩ := List.exists_cons_of_ne_nil hne
  rw [← Written.document_ofLines h, Written.lines_document, Written.texts_ofLines]

theorem lines_are_the_written_texts :
    (∀ w : Written, lines w.document = numberFrom 1 w.texts) ∧
      (∀ document, ∃ w : Written, w.document = document) ∧
      ∀ w w' : Written, w.texts = w'.texts → check w.document = check w'.document := by
  refine ⟨Written.lines_document, ?_, ?_⟩
  · intro document
    obtain ⟨w, hw⟩ := Written.exists_document document.toList
    exact ⟨w, String.toList_inj.mp hw⟩
  · intro w w' htexts
    rw [check, check, Written.lines_document, Written.lines_document, htexts]

theorem open_paragraph_found_whatever_the_line_ends :
    let w : Written := ⟨"<p>", [(.cr, ""), (.crlf, "</b>")], by decide, by decide⟩
    let w' : Written := ⟨"<p>", [(.lf, ""), (.cr, "</b>")], by decide, by decide⟩
    w.document = "<p>\r\r\n</b>" ∧ w'.document = "<p>\n\r</b>" ∧ w.texts = w'.texts ∧
      check "<p>\r\r\n</b>" = check "<p>\n\r</b>" ∧
      check "<p>\n\r</b>" =
        [⟨3, "</b>", "</b>", "Mismatched closing tag. Expected </p> but found </b>.",
          .mismatchedClosingTag⟩,
        ⟨1, "<p>", "<p>", "The tag <p> on line 1 was never closed.", .unclosedTag⟩] := by
  intro w w'
  have hw : w.document = "<p>\r\r\n</b>" := by decide
  have hw' : w'.document = "<p>\n\r</b>" := by decide
  have htexts : w.texts = w'.texts := rfl
  have hcheck := lines_are_the_written_texts.2.2 w w' htexts
  rw [hw, hw'] at hcheck
  exact ⟨hw, hw', htexts, hcheck, by decide +kernel⟩

end MailMarkup
