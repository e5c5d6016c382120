import MailMarkup.Proofs.RecordFields
import MailMarkup.Record.Finding

namespace MailMarkup

def Verdict.aliases : List (String × String) :=
  [("lineNumber", "line_number"), ("lineContent", "line_content"), ("errorTag", "error_tag"),
   ("structuralCount", "structural_count"), ("lintCount", "lint_count")]

theorem Code.decode_label (c : Code) : decode (.str c.label) = .ok c := by
  simp only [decode, ofLabel?_label]

namespace Finding

theorem ofJson_of_respells {f : Finding} (hf : 1 ≤ f.lineNumber) {j : Json}
    (h : Record.Respells Verdict.aliases f.toJson j) : ofJson j = .ok f := by
  have hnames : Record.DistinctNames Verdict.aliases
      ["lineNumber", "lineContent", "errorTag", "message", "code"] := by decide
  obtain ⟨fields, rfl, hread⟩ := Record.Respells.exists_readsAs h hnames
  have hnumber : lineNumberField.read fields = .ok f.lineNumber := by
    apply hread.leaf (by decide) (List.mem_of_getElem? (i := 0) rfl) rfl
    exact if_neg (Int.not_lt.mpr hf)
  have hcontent : lineContentField.read fields = .ok f.lineContent :=
    hread.leaf (by decide) (List.mem_of_getElem? (i := 1) rfl) rfl rfl
  have htag : errorTagField.read fields = .ok f.errorTag :=
    hread.leaf (by decide) (List.mem_of_getElem? (i := 2) rfl) rfl rfl
  have hmessage : messageField.read fields = .ok f.message :=
    hread.leaf (by decide) (List.mem_of_getElem? (i := 3) rfl) rfl rfl
  have hcode : codeField.read fields = .ok f.code := by
    apply hread.leaf (by decide) (List.mem_of_getElem? (i := 4) rfl) rfl
    exact Code.decode_label f.code
  simp only [ofJson, ofFields, hnumber, hcontent, htag, hmessage, hcode]

theorem publicNameDecides : Record.PublicNameDecides Verdict.aliases ofJson := by
  intro a ha fields fields' hpublic hsame
  have hread {α : Type} (field : Record.Field α) (hfield : field.Follows Verdict.aliases) :
      field.read fields = field.read fields' := hfield.read_congr ha hpublic hsame
  simp only [ofJson, ofFields, hread lineNumberField (by decide),
    hread lineContentField (by decide), hread errorTagField (by decide),
    hread messageField (by decide), hread codeField (by decide)]

end Finding

namespace Verdict

theorem ofJson_of_respells {v : Verdict} (hv : ∀ f ∈ v.errors, 1 ≤ f.lineNumber) {j : Json}
    (h : Record.Respells aliases v.toJson j) : ofJson j = .ok v := by
  have hnames : Record.DistinctNames aliases
      ["valid", "errors", "structuralCount", "lintCount"] := by decide
  obtain ⟨fields, rfl, hread⟩ := Record.Respells.exists_readsAs h hnames
  have hvalid : validField.read fields = .ok v.valid :=
    hread.leaf (by decide) (List.mem_of_getElem? (i := 0) rfl) rfl rfl
  have herrors : errorsField.read fields = .ok v.errors := by
    apply hread errorsField (.arr (v.errors.map Finding.toJson)) _ (by decide)
      (List.mem_of_getElem? (i := 1) rfl)
    intro j hj
    obtain ⟨items, rfl, hitems⟩ := hj.of_items
    apply Record.list_eq_ok
    rw [List.forall₂_map_left_iff] at hitems
    exact ((List.forall₂_and_left _ _).mpr ⟨hv, hitems⟩).imp fun f item hf =>
      Finding.ofJson_of_respells hf.1 hf.2
  have hstructural : structuralCountField.read fields = .ok v.structuralCount :=
    hread.leaf (by decide) (List.mem_of_getElem? (i := 2) rfl) rfl rfl
  have hlint : lintCountField.read fields = .ok v.lintCount :=
    hread.leaf (by decide) (List.mem_of_getElem? (i := 3) rfl) rfl rfl
  simp only [ofJson, ofFields, hvalid, herrors, hstructural, hlint]

theorem publicNameDecides : Record.PublicNameDecides aliases ofJson := by
  intro a ha fields fields' hpublic hsame
  have hread {α : Type} (field : Record.Field α) (hfield : field.Follows aliases) :
      field.read fields = field.read fields' := hfield.read_congr ha hpublic hsame
  simp only [ofJson, ofFields, hread validField (by decide), hread errorsField (by decide),
    hread structuralCountField (by decide), hread lintCountField (by decide)]

/-- A verdict on findings that stand on lines is read back, in their order, from what is written for
it, however the fields are arranged and whichever of their names are used; of two names that are
both there the public one decides. -/
theorem read_back_however_arranged {found : List Finding} (h : ∀ f ∈ found, 1 ≤ f.lineNumber) :
    (ofFindings found).errors = found ∧
      ofJson (ofFindings found).toJson = .ok (ofFindings found) ∧
      (∀ j, Record.Respells aliases (ofFindings found).toJson j →
        ofJson j = .ok (ofFindings found)) ∧
      Record.PublicNameDecides aliases Finding.ofJson ∧
      Record.PublicNameDecides aliases ofJson := by
  have hback {j : Json} (hj : Record.Respells aliases (ofFindings found).toJson j) :
      ofJson j = .ok (ofFindings found) := ofJson_of_respells h hj
  exact ⟨rfl, hback (.same _), fun _ => hback, Finding.publicNameDecides, publicNameDecides⟩

theorem two_findings_are_read_back :
    let stray : Finding := ⟨7, "</b>", "</b>", "No opening tag.", .unexpectedClosingTag⟩
    let bare : Finding := ⟨2, "<p bgcolor='fff'>", "bgcolor='fff'", "No hash.", .missingHash⟩
    let j : Json := .obj
      [("structural_count", .int 9), ("lint_count", .int 1), ("structuralCount", .int 1),
       ("errors", .arr
         [.obj [("seen", .null), ("code", .str "UNEXPECTED_CLOSING_TAG"),
            ("message", .str "No opening tag."), ("error_tag", .str "</b>"),
            ("lineContent", .str "</b>"), ("line_number", .int 7)],
          .obj [("line_number", .str "none"), ("code", .str "MISSING_HASH"),
            ("message", .str "No hash."), ("errorTag", .str "bgcolor='fff'"),
            ("line_content", .str "<p bgcolor='fff'>"), ("lineNumber", .int 2)]]),
       ("valid", .bool false)]
    (∀ f ∈ [stray, bare], 1 ≤ f.lineNumber) ∧ ofJson j = .ok (ofFindings [stray, bare]) := by
  intro stray bare j
  have hplaced : ∀ f ∈ [stray, bare], 1 ≤ f.lineNumber := by decide
  obtain ⟨-, -, hback, -⟩ := read_back_however_arranged hplaced
  refine ⟨hplaced, hback j ?_⟩
  -- every object lists its fields backwards, and before them one that is not read
  have hbackwards (written renamed others : List (Text.Wide × Json))
      (hnames : List.Forall₂ (fun e e' => e'.1 ∈ Record.names aliases e.1) written renamed)
      (hvalues : List.Forall₂ (fun e e' => Record.Respells aliases e.2 e'.2) written renamed)
      (hfree : ∀ o ∈ others, o.1 ∉ written.map Prod.fst ∧ o.1 ∉ renamed.map Prod.fst) :
      Record.Respells aliases (.obj written) (.obj (renamed ++ others).reverse) :=
    .fields ⟨hnames, hfree, List.reverse_perm _⟩ hvalues
  have hstray := hbackwards stray.toFields
    [("line_number", .int 7), ("lineContent", .str "</b>"), ("error_tag", .str "</b>"),
     ("message", .str "No opening tag."), ("code", .str "UNEXPECTED_CLOSING_TAG")]
    [("seen", .null)] (by decide) (by repeat constructor) (by decide)
  have hbare := hbackwards bare.toFields
    [("lineNumber", .int 2), ("line_content", .str "<p bgcolor='fff'>"),
     ("errorTag", .str "bgcolor='fff'"), ("message", .str "No hash."),
     ("code", .str "MISSING_HASH")]
    [("line_number", .str "none")] (by decide) (by repeat constructor) (by decide)
  have herrors : Record.Respells aliases (.arr ([stray, bare].map Finding.toJson)) _ :=
    .items (.cons hstray (.cons hbare .nil))
  exact hbackwards _
    [("valid", .bool false), ("errors", _), ("structuralCount", .int 1), ("lint_count", .int 1)]
    [("structural_count", .int 9)] (by decide)
    (.cons (.same _) (.cons herrors (.cons (.same _) (.cons (.same _) .nil)))) (by decide)

end Verdict

end MailMarkup
