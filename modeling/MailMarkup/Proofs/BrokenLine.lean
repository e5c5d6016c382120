import MailMarkup.Proofs.Joined
import MailMarkup.Proofs.Scan
import MailMarkup.Proofs.Written

namespace MailMarkup

/-- Where a place goes when line `k` and the one below it become one line that shows `content`. -/
def Place.rejoin (k : Int) (content : String) (place : Place) : Place :=
  if place.number < k then place
  else if place.number ≤ k + 1 then ⟨k, content⟩
  else place.shift (-1)

namespace Place

variable {k : Int} {place : Place}

theorem rejoin_above (h : place.number < k) (content : String) :
    place.rejoin k content = place := by
  rw [rejoin, if_pos h]

theorem rejoin_between (h : k ≤ place.number) (h' : place.number ≤ k + 1) (content : String) :
    place.rejoin k content = ⟨k, content⟩ := by
  rw [rejoin, if_neg (by omega), if_pos h']

theorem rejoin_below (h : k + 1 < place.number) (content : String) :
    place.rejoin k content = place.shift (-1) := by
  rw [rejoin, if_neg (by omega), if_neg (by omega)]

theorem number_rejoin (k : Int) (content : String) (place : Place) :
    place.number = (place.rejoin k content).number ∨
      place.number = (place.rejoin k content).number + 1 := by
  by_cases habove : place.number < k
  · rw [rejoin_above habove]
    exact Or.inl rfl
  by_cases hbelow : k + 1 < place.number
  · rw [rejoin_below hbelow]
    right
    simp only [Place.shift]
    omega
  · rw [rejoin_between (by omega) (by omega)]
    simp only
    omega

end Place

section Rejoin

variable {before after : List String} {a b : String} {k : Nat}

theorem taggedPlaces_above (hk : 1 + before.length = k) (content : String) :
    (taggedPlaces (numberFrom 1 before)).map (fun t => (t.1.rejoin k content, t.2)) =
      taggedPlaces (numberFrom 1 before) := by
  rw [← taggedPlaces_relocate (Place.rejoin k content) id, List.map_id]
  intro line hmem
  have hlt := (number_of_mem_numberFrom hmem).2
  have habove : line.place.number < k := by
    change line.number < k
    omega
  rw [Place.rejoin_above habove]
  exact ⟨rfl, rfl⟩

theorem taggedPlaces_below (content : String) :
    (taggedPlaces (numberFrom (k + 2) after)).map (fun t => (t.1.rejoin k content, t.2)) =
      taggedPlaces (numberFrom (k + 1) after) := by
  rw [← shift_numberFrom (k + 1), taggedPlaces_relocate (Place.rejoin k content) (Line.shift (-1))]
  intro line hmem
  have hle := (number_of_mem_numberFrom hmem).1
  have hbelow : (k : Int) + 1 < line.place.number := by
    change (k : Int) + 1 < line.number
    omega
  rw [Place.rejoin_below hbelow]
  exact ⟨rfl, rfl⟩

variable (hcut : '<' ∉ a.toList.rtakeWhile (· != '>')) (hline : isSkipped (a ++ b) = false)
  (ha : isSkipped a = false) (hb : isSkipped b = false)

include hcut hline ha hb

theorem taggedPlaces_broken :
    (taggedPlaces ([⟨k, a⟩] ++ [⟨k + 1, b⟩])).map
        (fun t => (t.1.rejoin k (Line.display ⟨k, a ++ b⟩), t.2)) =
      taggedPlaces [⟨k, a ++ b⟩] := by
  have hplace (line : Line) (hle : k ≤ line.number) (hge : line.number ≤ k + 1) :
      line.place.rejoin k (Line.display ⟨k, a ++ b⟩) = Line.place ⟨k, a ++ b⟩ :=
    Place.rejoin_between hle hge _
  rw [taggedPlaces_append, taggedPlaces_singleton ⟨k, a ++ b⟩ hline,
    taggedPlaces_singleton ⟨k, a⟩ ha, taggedPlaces_singleton ⟨k + 1, b⟩ hb, Tag.scan_append hcut,
    List.map_append, List.map_append, List.map_map, List.map_map]
  simp only [Function.comp_def]
  have hnext : (k : Int) ≤ k + 1 := by omega
  rw [hplace ⟨k, a⟩ (Int.le_refl _) hnext, hplace ⟨k + 1, b⟩ hnext (Int.le_refl _)]

theorem taggedPlaces_rejoin (hk : 1 + before.length = k) :
    taggedPlaces (numberFrom 1 (before ++ (a ++ b) :: after)) =
      (taggedPlaces (numberFrom 1 (before ++ a :: b :: after))).map fun t =>
        (t.1.rejoin k (Line.display ⟨k, a ++ b⟩), t.2) := by
  have hwhole : numberFrom 1 (before ++ (a ++ b) :: after) =
      numberFrom 1 before ++ ([⟨k, a ++ b⟩] ++ numberFrom (k + 1) after) := by
    rw [numberFrom_append, hk, numberFrom_cons, List.singleton_append]
  have hbroken : numberFrom 1 (before ++ a :: b :: after) =
      numberFrom 1 before ++ (([⟨k, a⟩] ++ [⟨k + 1, b⟩]) ++ numberFrom (k + 2) after) := by
    rw [numberFrom_append, hk, numberFrom_cons, numberFrom_cons]
    rfl
  rw [hwhole, hbroken, taggedPlaces_append, taggedPlaces_append, taggedPlaces_append,
    taggedPlaces_append, List.map_append, List.map_append, taggedPlaces_above hk,
    taggedPlaces_below, taggedPlaces_broken hcut hline ha hb]

theorem check_rejoin (hk : 1 + before.length = k)
    (hfree : ∀ text ∈ before ++ (a ++ b) :: after, OnOneLine text) :
    check ("\n".intercalate (before ++ (a ++ b) :: after)) =
      (check ("\n".intercalate (before ++ a :: b :: after))).map
        (Finding.relocate (Place.rejoin k (Line.display ⟨k, a ++ b⟩))) := by
  have hbroken : ∀ text ∈ before ++ a :: b :: after, OnOneLine text := by
    obtain ⟨hbefore, hrest⟩ := List.forall_mem_append.mp hfree
    obtain ⟨hwhole, hafter⟩ := List.forall_mem_cons.mp hrest
    obtain ⟨hfirst, hsecond⟩ := onOneLine_of_append hwhole
    exact List.forall_mem_append.mpr ⟨hbefore,
      List.forall_mem_cons.mpr ⟨hfirst, List.forall_mem_cons.mpr ⟨hsecond, hafter⟩⟩⟩
  rw [check, check, lines_intercalate (by simp) hfree, lines_intercalate (by simp) hbroken]
  exact checkLines_relocate _ (taggedPlaces_rejoin hcut hline ha hb hk)

end Rejoin

/-- The findings say the same, the second at most one line further down than the first. Only a tag
that is never closed has the line number in its message. -/
structure Finding.SameWording (f g : Finding) : Prop where
  code : f.code = g.code
  errorTag : f.errorTag = g.errorTag
  message : f.code ≠ .unclosedTag → f.message = g.message
  neverClosed : f.code = .unclosedTag →
    f.message = neverClosedMessage f.errorTag f.lineNumber ∧
      g.message = neverClosedMessage g.errorTag g.lineNumber
  number : g.lineNumber = f.lineNumber ∨ g.lineNumber = f.lineNumber + 1

theorem Finding.sameWording_rejoin {document : String} {f : Finding} (h : f ∈ check document)
    (k : Int) (content : String) : (f.relocate (Place.rejoin k content)).SameWording f where
  code := rfl
  errorTag := rfl
  message := fun hcode => if_neg hcode
  neverClosed := fun hcode => ⟨if_pos hcode, message_of_mem_checkLines h hcode⟩
  number := f.place.number_rejoin k content

theorem findings_when_a_line_is_broken (before after : List String) (a b : String)
    (hfree : ∀ text ∈ before ++ (a ++ b) :: after, OnOneLine text)
    (hcut : '<' ∉ a.toList.rtakeWhile (· != '>')) (hline : isSkipped (a ++ b) = false)
    (ha : isSkipped a = false) (hb : isSkipped b = false) :
    Tag.scan (a ++ b) = Tag.scan a ++ Tag.scan b ∧
      List.Forall₂ Finding.SameWording
        (check ("\n".intercalate (before ++ (a ++ b) :: after)))
        (check ("\n".intercalate (before ++ a :: b :: after))) := by
  refine ⟨Tag.scan_append hcut b, ?_⟩
  rw [check_rejoin hcut hline ha hb rfl hfree, List.forall₂_map_left_iff, List.forall₂_same]
  intro f hf
  exact Finding.sameWording_rejoin hf _ _

theorem open_bold_found_when_its_line_is_broken :
    let before := ["<table>"]
    let a := "<td title='a<b'>1 > 0"
    let b := " <b></td><p"
    let after := ["<i>"]
    let whole := "\n".intercalate (before ++ (a ++ b) :: after)
    let broken := "\n".intercalate (before ++ a :: b :: after)
    ((∀ text ∈ before ++ (a ++ b) :: after, OnOneLine text) ∧
      '<' ∉ a.toList.rtakeWhile (· != '>') ∧ isSkipped (a ++ b) = false ∧
      isSkipped a = false ∧ isSkipped b = false) ∧
      (check whole).map (fun f => (f.lineNumber, f.code, f.errorTag)) =
        [(2, .unclosedBeforeClose, "<b>"), (1, .unclosedTag, "<table>"), (3, .unclosedTag, "<i>")] ∧
      (check broken).map (fun f => (f.lineNumber, f.code, f.errorTag)) =
        [(3, .unclosedBeforeClose, "<b>"), (1, .unclosedTag, "<table>"), (4, .unclosedTag, "<i>")] ∧
      List.Forall₂ Finding.SameWording (check whole) (check broken) := by
  intro before a b after whole broken
  have hfree : ∀ text ∈ before ++ (a ++ b) :: after, OnOneLine text := by decide
  have hcut : '<' ∉ a.toList.rtakeWhile (· != '>') := by decide
  have hline : isSkipped (a ++ b) = false := by decide +kernel
  have ha : isSkipped a = false := by decide +kernel
  have hb : isSkipped b = false := by decide +kernel
  refine ⟨⟨hfree, hcut, hline, ha, hb⟩, by decide +kernel, by decide +kernel, ?_⟩
  exact (findings_when_a_line_is_broken before after a b hfree hcut hline ha hb).2

end MailMarkup
