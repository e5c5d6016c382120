import MailMarkup.Proofs.Remarks
import MailMarkup.Proofs.Reports
import MailMarkup.Proofs.Skeleton
import MailMarkup.Report

namespace MailMarkup

namespace Stack

theorem settle_structural (stack : Stack) (tag : Tag) (place : Place) :
    ∀ f ∈ (stack.settle tag place).1, f.code.isStructural = true := by
  intro f hf
  rcases (stack.settled tag place).mem_found hf with rfl | ⟨expected, rfl⟩ | ⟨frame, -, rfl⟩
  all_goals rfl

theorem leftOpen_structural (stack : Stack) :
    ∀ f ∈ stack.leftOpen, f.code.isStructural = true := by
  simp [leftOpen, Frame.neverClosed, Place.finding, Code.isStructural]

theorem visit_filter (stack : Stack) (t : Place × Tag) :
    (stack.visit t).1.filter (·.code.isStructural) = (stack.settle t.2 t.1).1 ∧
      (stack.visit t).1.filter (!·.code.isStructural) = attributeFindings t.1 t.2 := by
  have hlint : ∀ f ∈ attributeFindings t.1 t.2, f.code.isStructural = false :=
    fun f hf => (mem_attributeFindings hf).2.2.1
  have hstruct := stack.settle_structural t.2 t.1
  simp only [visit, List.filter_append]
  constructor
  · rw [List.filter_eq_nil_iff.mpr (by simpa using hlint), List.filter_eq_self.mpr hstruct,
      List.nil_append]
  · rw [List.filter_eq_self.mpr (by simpa using hlint),
      List.filter_eq_nil_iff.mpr (by simpa using hstruct), List.append_nil]

theorem trace_visit (stack : Stack) (tagged : List (Place × Tag)) :
    (trace visit stack tagged).1.filter (·.code.isStructural) = (stack.run tagged).1 ∧
      (trace visit stack tagged).1.filter (!·.code.isStructural) =
        tagged.flatMap (fun t => attributeFindings t.1 t.2) ∧
      (trace visit stack tagged).2 = (stack.run tagged).2 := by
  induction tagged generalizing stack with
  | nil => exact ⟨rfl, rfl, rfl⟩
  | cons t tagged ih =>
    obtain ⟨hstruct, hlint⟩ := stack.visit_filter t
    obtain ⟨ihstruct, ihlint, ihleft⟩ := ih (stack.visit t).2
    simp only [run, trace_cons, List.filter_append, List.flatMap_cons]
    exact ⟨by rw [hstruct, ihstruct]; rfl, by rw [hlint, ihlint], ihleft⟩

end Stack

theorem one_le_number_of_mem_taggedPlaces {document : String} {t : Place × Tag}
    (h : t ∈ taggedPlaces (lines document)) : 1 ≤ t.1.number := by
  obtain ⟨line, hline, ht⟩ := List.mem_flatMap.mp h
  obtain ⟨tag, -, rfl⟩ := List.mem_map.mp ht
  exact one_le_number_of_mem_lines (List.mem_filter.mp hline).1

def structuralFindings (document : String) : List Finding :=
  (check document).filter (·.code.isStructural)

def lintFindings (document : String) : List Finding :=
  (check document).filter (!·.code.isStructural)

theorem structuralFindings_eq_balance (document : String) :
    structuralFindings document = Stack.balance (taggedPlaces (lines document)) := by
  obtain ⟨hstruct, -, hleft⟩ := Stack.trace_visit [] (taggedPlaces (lines document))
  simp only [structuralFindings, check, checkLines, List.filter_append, hstruct, hleft, Stack.balance]
  rw [List.filter_eq_self.mpr (Stack.leftOpen_structural _)]

theorem feedAndFinish_lines (document : String) :
    Stack.feedAndFinish (taggedPlaces (lines document)) =
      (.ok (structuralFindings document), []) := by
  rw [structuralFindings_eq_balance]
  exact (Stack.feedAndFinish_admits _).eq_ok
    (Ledger.balance_placed fun _ => one_le_number_of_mem_taggedPlaces)

def lintPass (document : String) : List Finding :=
  ((lines document).filter (!isSkipped ·.text)).flatMap fun line =>
    ((Tag.scan line.text).filter (!·.closing)).flatMap fun tag =>
      (Attribute.remarks tag.attributes tag.name).map line.place.finding

theorem lintFindings_eq_lintPass (document : String) :
    lintFindings document = lintPass document := by
  have hopeners (place : Place) (tags : List Tag) :
      (tags.filter (!·.closing)).flatMap (fun tag =>
        (Attribute.remarks tag.attributes tag.name).map place.finding) =
      tags.flatMap (attributeFindings place) := by
    induction tags with
    | nil => rfl
    | cons tag tags ih => cases h : tag.closing <;> simp [attributeFindings, h, ih]
  obtain ⟨-, hlint, -⟩ := Stack.trace_visit [] (taggedPlaces (lines document))
  simp only [lintFindings, check, checkLines, List.filter_append, hlint]
  rw [List.filter_eq_nil_iff.mpr (by simpa using Stack.leftOpen_structural _), List.append_nil]
  simp only [lintPass, taggedPlaces, hopeners, List.flatMap_assoc, List.flatMap_map]

theorem ofFindings_eq (found : List Finding) :
    Verdict.ofFindings found =
      ⟨(found.filter (·.code.isStructural)).isEmpty && (found.filter (!·.code.isStructural)).isEmpty,
        found, (found.filter (·.code.isStructural)).length,
        (found.filter (!·.code.isStructural)).length⟩ := by
  have hlength : found.length = (found.filter (·.code.isStructural)).length +
      (found.filter (!·.code.isStructural)).length :=
    List.length_eq_length_filter_add _
  have hempty : found.isEmpty = ((found.filter (·.code.isStructural)).isEmpty &&
      (found.filter (!·.code.isStructural)).isEmpty) := by
    rw [Bool.eq_iff_iff, Bool.and_eq_true]
    simp only [List.isEmpty_iff_length_eq_zero]
    omega
  simp only [Verdict.ofFindings, hempty, List.countP_eq_length_filter, Verdict.mk.injEq, true_and]
  omega

theorem structural_of_sameSkeleton {tagged tagged' : List (Place × Tag)} {found : List Finding}
    (h : List.Forall₂ SameSkeleton tagged tagged')
    (hfound : (Stack.feedAndFinish tagged).1 = .ok found) :
    (Stack.feedAndFinish tagged').1.map (List.map Finding.gist) =
      .ok (found.map Finding.gist) := by
  have hgist := admitAll_gist (Stack.balance_alike h)
  rw [← (Stack.feedAndFinish_admits tagged).found, ← (Stack.feedAndFinish_admits tagged').found,
    hfound] at hgist
  exact hgist.symm

theorem check_is_two_passes (document : String) :
    Stack.feedAndFinish (taggedPlaces (lines document)) =
        (.ok (structuralFindings document), []) ∧
      lintFindings document = lintPass document ∧
      (∀ tagName, Attribute.remarks "" tagName = []) ∧
      Verdict.ofFindings (check document) =
        ⟨(structuralFindings document).isEmpty && (lintPass document).isEmpty, check document,
          (structuralFindings document).length, (lintPass document).length⟩ ∧
      ∀ tagged', List.Forall₂ SameSkeleton (taggedPlaces (lines document)) tagged' →
        (Stack.feedAndFinish tagged').1.map (List.map Finding.gist) =
          .ok ((structuralFindings document).map Finding.gist) := by
  have hfeed := feedAndFinish_lines document
  refine ⟨hfeed, lintFindings_eq_lintPass document, Attribute.remarks_empty, ?_, ?_⟩
  · rw [ofFindings_eq, ← lintFindings_eq_lintPass]
    rfl
  · intro tagged' h
    exact structural_of_sameSkeleton h (congrArg Prod.fst hfeed)

theorem open_bold_found_whatever_the_class :
    let document := "<p class='a'><b></p>"
    let place : Place := ⟨1, "<p id=x><b></p>"⟩
    let tagged' : List (Place × Tag) :=
      [(place, ⟨"p", false, " id=x"⟩), (place, ⟨"b", false, ""⟩), (place, ⟨"p", true, ""⟩)]
    List.Forall₂ SameSkeleton (taggedPlaces (lines document)) tagged' ∧
      (Stack.feedAndFinish tagged').1.map (List.map Finding.gist) =
        .ok ((structuralFindings document).map Finding.gist) := by
  intro document place tagged'
  have htagged : taggedPlaces (lines document) =
      [(⟨1, document⟩, ⟨"p", false, " class='a'"⟩), (⟨1, document⟩, ⟨"b", false, ""⟩),
        (⟨1, document⟩, ⟨"p", true, ""⟩)] := by
    decide +kernel
  have hsame : List.Forall₂ SameSkeleton (taggedPlaces (lines document)) tagged' := by
    rw [htagged]
    refine .cons ⟨rfl, rfl, rfl, ?_⟩ (.cons ⟨rfl, rfl, rfl, ?_⟩ (.cons ⟨rfl, rfl, rfl, ?_⟩ .nil))
    all_goals decide
  exact ⟨hsame, (check_is_two_passes document).2.2.2.2 tagged' hsame⟩

end MailMarkup
