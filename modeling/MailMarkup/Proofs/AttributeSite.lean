import Mathlib.Data.List.InsertIdx
import MailMarkup.Proofs.AttributeReading

namespace MailMarkup.QuotedAttribute

/-- An attribute that was found, and the place in the text where its value begins. -/
structure Site where
  place : Nat
  found : QuotedAttribute
  deriving DecidableEq, Repr

def sitesFrom (names : List String) (place : Nat) (before : Option Char) : List Char → List Site
  | [] => []
  | c :: cs =>
    if mayStart before then
      match _h : read? names (c :: cs) with
      | some (a, rest) =>
        -- the value and the closing quote are the last that was read
        let next := place + (cs.length + 1 - rest.length)
        ⟨next - (a.value.length + 1), a⟩ :: sitesFrom names next none rest
      | none => sitesFrom names (place + 1) (some c) cs
    else sitesFrom names (place + 1) (some c) cs
termination_by cs => cs.length
decreasing_by
  · exact length_lt_of_read? _h
  · exact Nat.lt_succ_self _
  · exact Nat.lt_succ_self _

def sites (names : List String) (attributes : List Char) : List Site :=
  sitesFrom names 0 none attributes

namespace Source

def opening (source : Source) : List Char :=
  source.name ++ (source.before ++ '=' :: (source.behind ++ [source.quote]))

def sign (source : Source) : List Char := source.name ++ (source.before ++ '=' :: source.behind)

theorem opening_eq_sign (source : Source) : source.opening = source.sign ++ [source.quote] := by
  simp [opening, sign]

theorem text_append_eq (source : Source) (rest : List Char) :
    source.text ++ rest = source.opening ++ (source.value ++ source.quote :: rest) := by
  simp [text, assignment, opening]

theorem length_text (source : Source) :
    source.text.length = source.opening.length + source.value.length + 1 := by
  have htext := congrArg List.length (source.text_append_eq [])
  simp only [List.append_nil, List.length_append, List.length_singleton] at htext
  omega

theorem length_opening_pos (source : Source) : 0 < source.opening.length := by
  simp only [opening, List.length_append, List.length_cons]
  omega

theorem mark_of_mem (source : Source) {c : Char}
    (h : c ∈ source.before ++ '=' :: (source.behind ++ [source.quote])) :
    Text.isBlank c = true ∨ c = '=' ∨ isQuote c = true := by
  simp only [List.mem_append, List.mem_cons, List.not_mem_nil, or_false] at h
  rcases h with hc | rfl | hc | rfl
  · exact Or.inl (source.isBlank_before c hc)
  · exact Or.inr (Or.inl rfl)
  · exact Or.inl (source.isBlank_behind c hc)
  · exact Or.inr (Or.inr source.isQuote_quote)

def withValue (source : Source) {value : List Char} (h : source.quote ∉ value) : Source :=
  { source with value := value, not_mem_value := h }

theorem text_withValue (source : Source) {value : List Char} (h : source.quote ∉ value)
    (rest : List Char) : (source.withValue h).text ++ rest =
      source.opening ++ (value ++ source.quote :: rest) :=
  (source.withValue h).text_append_eq rest

end Source

theorem sitesFrom_pass {names : List String} {before : Option Char} {c : Char} {cs : List Char}
    (h : mayStart before = false ∨ read? names (c :: cs) = none) (place : Nat) :
    sitesFrom names place before (c :: cs) = sitesFrom names (place + 1) (some c) cs := by
  rw [sitesFrom]
  split
  · rename_i hstart
    split
    · rename_i hread
      simp [hstart, hread] at h
    · rfl
  · rfl

/-- How a text is searched: at each character an attribute is read, or the character is passed. -/
theorem search_induct (names : List String) {motive : Nat → Option Char → List Char → Prop}
    (nil : ∀ place before, motive place before [])
    (pass : ∀ place before c cs, mayStart before = false ∨ read? names (c :: cs) = none →
      motive (place + 1) (some c) cs → motive place before (c :: cs))
    (read : ∀ place before (source : Source) rest, mayStart before = true →
      IsCalled names source.name → motive (place + source.text.length) none rest →
      motive place before (source.text ++ rest))
    (place : Nat) (before : Option Char) (cs : List Char) : motive place before cs := by
  fun_induction sitesFrom names place before cs with
  | case1 place before => exact nil place before
  | case2 place before c cs hstart a rest hread next ih =>
    obtain ⟨source, rfl, htext, hcalled⟩ := source_of_read? hread
    have hnext : next = place + source.text.length := by
      have hlength := congrArg List.length htext
      simp only [List.length_cons, List.length_append] at hlength
      omega
    rw [htext]
    exact read place before source rest hstart hcalled (hnext ▸ ih)
  | case3 place before c cs hstart hread ih => exact pass place before c cs (Or.inr hread) ih
  | case4 place before c cs hstart ih =>
    exact pass place before c cs (Or.inl (Bool.eq_false_iff.mpr hstart)) ih

section Keywords

variable {names : List String} (hnames : ∀ name ∈ names, Text.IsKeyword name.toList)
include hnames

theorem sitesFrom_source {before : Option Char} (hstart : mayStart before = true) (source : Source)
    (hcalled : IsCalled names source.name) (rest : List Char) (place : Nat) :
    sitesFrom names place before (source.text ++ rest) =
      ⟨place + source.opening.length, source.quoted⟩ ::
        sitesFrom names (place + source.text.length) none rest := by
  have hread := read?_of_isCalled hnames source hcalled rest
  have hlength : (source.text ++ rest).length - rest.length = source.text.length := by simp
  have hplace : place + source.text.length - (source.value.length + 1) =
      place + source.opening.length := by
    rw [source.length_text]
    omega
  cases hcs : source.text ++ rest with
  | nil => simp [Source.text, Source.assignment] at hcs
  | cons c cs =>
    rw [hcs] at hread hlength
    rw [sitesFrom, if_pos hstart]
    split
    · rename_i hread'
      rw [hread] at hread'
      cases hread'
      rw [List.length_cons] at hlength
      simp only [hlength, Source.quoted, hplace]
    · rename_i hread'
      rw [hread] at hread'
      cases hread'

theorem allFrom_source {before : Option Char} (hstart : mayStart before = true) (source : Source)
    (hcalled : IsCalled names source.name) (rest : List Char) :
    allFrom names [] before (source.text ++ rest) =
      source.quoted :: allFrom names [] none rest := by
  rw [allFrom_of_read hstart (read?_of_isCalled hnames source hcalled rest), allFrom_cons,
    List.reverse_nil, List.nil_append]

theorem map_found_sitesFrom (place : Nat) (before : Option Char) (cs : List Char) :
    (sitesFrom names place before cs).map Site.found = allFrom names [] before cs := by
  induction place, before, cs using search_induct names with
  | nil place before => rw [sitesFrom, allFrom, List.map_nil, List.reverse_nil]
  | pass place before c cs h ih => rw [sitesFrom_pass h, allFrom_pass h, ih]
  | read place before source rest hstart hcalled ih =>
    rw [sitesFrom_source hnames hstart source hcalled, allFrom_source hnames hstart source hcalled,
      List.map_cons, ih]

theorem map_found_sites (cs : List Char) : (sites names cs).map Site.found = all names cs :=
  map_found_sitesFrom hnames 0 none cs

theorem source_of_mem_sitesFrom {place : Nat} {before : Option Char} {cs : List Char} {s : Site}
    (h : s ∈ sitesFrom names place before cs) :
    ∃ front, ∃ source : Source, ∃ rest, cs = front ++ (source.text ++ rest) ∧
      s = ⟨place + (front ++ source.opening).length, source.quoted⟩ ∧
      IsCalled names source.name := by
  induction place, before, cs using search_induct names with
  | nil place before =>
    rw [sitesFrom] at h
    cases h
  | pass place before c cs hpass ih =>
    rw [sitesFrom_pass hpass] at h
    obtain ⟨front, source, rest, rfl, rfl, hcalled⟩ := ih h
    refine ⟨c :: front, source, rest, rfl, ?_, hcalled⟩
    congr 1
    simp only [List.length_append, List.length_cons]
    omega
  | read place before source rest hstart hcalled ih =>
    rw [sitesFrom_source hnames hstart source hcalled, List.mem_cons] at h
    rcases h with rfl | h
    · exact ⟨[], source, rest, rfl, rfl, hcalled⟩
    · obtain ⟨front, other, behind, rfl, rfl, hother⟩ := ih h
      refine ⟨source.text ++ front, other, behind, by simp, ?_, hother⟩
      congr 1
      simp only [List.length_append]
      omega

theorem lt_place_of_mem_sitesFrom {place : Nat} {before : Option Char} {cs : List Char} {s : Site}
    (h : s ∈ sitesFrom names place before cs) : place < s.place := by
  obtain ⟨front, source, rest, -, rfl, -⟩ := source_of_mem_sitesFrom hnames h
  have hpos := source.length_opening_pos
  simp only [List.length_append]
  omega

theorem pairwise_sitesFrom (place : Nat) (before : Option Char) (cs : List Char) :
    (sitesFrom names place before cs).Pairwise
      fun s t => s.place + s.found.value.length < t.place := by
  induction place, before, cs using search_induct names with
  | nil place before =>
    rw [sitesFrom]
    exact List.Pairwise.nil
  | pass place before c cs h ih => rwa [sitesFrom_pass h]
  | read place before source rest hstart hcalled ih =>
    rw [sitesFrom_source hnames hstart source hcalled]
    refine List.Pairwise.cons ?_ ih
    intro t ht
    have hlt := lt_place_of_mem_sitesFrom hnames ht
    rw [source.length_text] at hlt
    simp only [Source.quoted]
    omega

end Keywords

theorem mayStart_of_isQuote {c : Char} (h : isQuote c = true) : mayStart (some c) = true :=
  of_isQuote (p := fun c => mayStart (some c) = true) (by decide) (by decide) h

/-- A place that no name and no sign of an attribute reaches across. -/
structure IsCut (left right : List Char) : Prop where
  last : ∀ c ∈ left.getLast?, Text.isBlank c = true ∨ isQuote c = true
  head : ∀ c ∈ right.head?, ¬ (Text.isBlank c = true ∨ c = '=' ∨ isQuote c = true)

theorem IsCut.of_append (front : List Char) {left right : List Char}
    (h : IsCut (front ++ left) right) : IsCut left right where
  last c hc := by
    apply h.last c
    rw [List.getLast?_append, Option.mem_def.mp hc]
    rfl
  head := h.head

theorem IsCut.hash {left right : List Char} (h : IsCut left right) : IsCut left ('#' :: right) where
  last := h.last
  head c hc := by
    cases hc
    decide

def Site.withHash (cut : Nat) (s : Site) : QuotedAttribute :=
  if s.place ≤ cut ∧ cut ≤ s.place + s.found.value.length then
    ⟨s.found.name, s.found.value.insertIdx (cut - s.place) '#'⟩
  else s.found

theorem insertIdx_append (left right : List Char) (c : Char) :
    (left ++ right).insertIdx left.length c = left ++ c :: right := by
  induction left with
  | nil => rfl
  | cons d left ih => rw [List.cons_append, List.length_cons, List.insertIdx_succ_cons, ih,
      List.cons_append]

theorem Site.withHash_of_lt {cut : Nat} {s : Site} (h : cut < s.place) : s.withHash cut = s.found :=
  if_neg (by omega)

theorem Site.withHash_of_gt {cut : Nat} {s : Site} (h : s.place + s.found.value.length < cut) :
    s.withHash cut = s.found :=
  if_neg (by omega)

theorem Site.withHash_inside (place : Nat) (name left right : List Char) :
    Site.withHash (place + left.length) ⟨place, name, left ++ right⟩ =
      ⟨name, left ++ '#' :: right⟩ := by
  rw [Site.withHash, if_pos, Nat.add_sub_cancel_left, insertIdx_append]
  simp only [List.length_append]
  omega

section Cut

variable {names : List String} (hnames : ∀ name ∈ names, Text.IsKeyword name.toList)
include hnames

theorem read?_hash (cs : List Char) : read? names ('#' :: cs) = none := by
  cases hread : read? names ('#' :: cs) with
  | none => rfl
  | some read =>
    obtain ⟨source, -, htext, hcalled⟩ := source_of_read? hread
    obtain ⟨d, name, hname⟩ := List.exists_cons_of_ne_nil (IsCalled.ne_nil hnames hcalled)
    have hword := IsCalled.isWord hnames hcalled d (by simp [hname])
    rw [Source.text, hname] at htext
    rw [← (List.cons.inj htext).1] at hword
    exact absurd hword (by decide)

theorem IsCut.opening_eq {left right : List Char} (h : IsCut left right) (hleft : left ≠ [])
    {source : Source} (hcalled : IsCalled names source.name) {part rest : List Char}
    (hpart : source.opening = left ++ part) (hright : right = part ++ rest) : part = [] := by
  cases part with
  | nil => rfl
  | cons c part =>
    exfalso
    have hc := h.head c (by rw [hright]; rfl)
    rw [Source.opening] at hpart
    rcases List.append_eq_append_iff.mp hpart with ⟨run, rfl, hrun⟩ | ⟨run, hname, hrun⟩
    · exact hc (source.mark_of_mem (by rw [hrun]; simp))
    · have hmem : left.getLast hleft ∈ source.name := by
        rw [hname]
        exact List.mem_append_left _ (List.getLast_mem hleft)
      obtain ⟨hblank, -, hquote, -⟩ := word_facts (hcalled.isWord hnames _ hmem)
      rcases h.last _ (List.getLast?_eq_some_getLast hleft) with hlast | hlast
      · rw [hlast] at hblank
        cases hblank
      · rw [hlast] at hquote
        cases hquote

theorem IsCut.cases_text {left right rest : List Char} (h : IsCut left right) (hleft : left ≠ [])
    {source : Source} (hcalled : IsCalled names source.name)
    (htext : left ++ right = source.text ++ rest) :
    (∃ back, left = source.text ++ back ∧ rest = back ++ right) ∨
      ∃ front back, left = source.opening ++ front ∧ source.value = front ++ back ∧
        right = back ++ source.quote :: rest := by
  rw [source.text_append_eq] at htext
  rcases List.append_eq_append_iff.mp htext with ⟨part, hpart, hright⟩ | ⟨front, rfl, hbehind⟩
  · have hnil := h.opening_eq hnames hleft hcalled hpart hright
    rw [hnil, List.append_nil] at hpart
    rw [hnil, List.nil_append] at hright
    exact Or.inr ⟨[], source.value, by rw [hpart, List.append_nil], rfl, hright⟩
  · rcases List.append_eq_append_iff.mp hbehind with ⟨back, rfl, hback⟩ | ⟨back, hvalue, hright⟩
    · cases back with
      | nil =>
        have hquote : source.quote ∈ right.head? := by
          rw [← List.nil_append right, ← hback]
          rfl
        exact absurd (Or.inr (Or.inr source.isQuote_quote)) (h.head _ hquote)
      | cons c back =>
        rw [List.cons_append] at hback
        obtain ⟨rfl, rfl⟩ := List.cons.inj hback
        exact Or.inl ⟨back, (source.text_append_eq back).symm, rfl⟩
    · exact Or.inr ⟨front, back, rfl, hvalue, hright⟩

theorem IsCut.read?_eq_none {left right : List Char} (h : IsCut left right) (hleft : left ≠ [])
    (hread : read? names (left ++ right) = none) : read? names (left ++ '#' :: right) = none := by
  cases hedited : read? names (left ++ '#' :: right) with
  | none => rfl
  | some read =>
    exfalso
    obtain ⟨source, -, htext, hcalled⟩ := source_of_read? hedited
    -- without the hash the attribute would be read as well
    have hsilent (source : Source) (hcalled : IsCalled names source.name) (rest : List Char) :
        left ++ right ≠ source.text ++ rest := by
      intro heq
      rw [heq, read?_of_isCalled hnames source hcalled] at hread
      cases hread
    rcases h.hash.cases_text hnames hleft hcalled htext with ⟨back, rfl, -⟩ |
      ⟨front, back, rfl, hvalue, hright⟩
    · exact hsilent source hcalled (back ++ right) (List.append_assoc _ _ _)
    · have hfree := source.not_mem_value
      have hquote := source.isQuote_quote
      cases back with
      | nil =>
        rw [← (List.cons.inj hright).1] at hquote
        exact absurd hquote (by decide)
      | cons c back =>
        obtain ⟨-, hright⟩ := List.cons.inj hright
        have hfree' : source.quote ∉ front ++ back := by simp_all
        apply hsilent (source.withValue hfree') hcalled read.2
        rw [source.text_withValue, List.append_assoc, List.append_assoc, hright]
        rfl

theorem map_withHash_of_le {cut place : Nat} (h : cut ≤ place) (before : Option Char)
    (cs : List Char) : (sitesFrom names place before cs).map (Site.withHash cut) =
      allFrom names [] before cs := by
  rw [← map_found_sitesFrom hnames place]
  apply List.map_congr_left
  intro s hs
  exact Site.withHash_of_lt (h.trans_lt (lt_place_of_mem_sitesFrom hnames hs))

theorem allFrom_hash_inside {before : Option Char} (hstart : mayStart before = true)
    {source : Source} (hcalled : IsCalled names source.name) {front back : List Char}
    (hvalue : source.value = front ++ back) (rest : List Char) (place : Nat) :
    allFrom names [] before (source.opening ++ front ++ '#' :: (back ++ source.quote :: rest)) =
      (sitesFrom names place before (source.text ++ rest)).map
        (Site.withHash (place + (source.opening ++ front).length)) := by
  have hfree : source.quote ∉ front ++ '#' :: back := by
    have hplain : source.quote ∉ front ++ back := hvalue ▸ source.not_mem_value
    have hhash : source.quote ≠ '#' :=
      of_isQuote (p := (· ≠ '#')) (by decide) (by decide) source.isQuote_quote
    simp_all
  have htext : source.opening ++ front ++ '#' :: (back ++ source.quote :: rest) =
      (source.withValue hfree).text ++ rest := by
    rw [source.text_withValue, List.append_assoc, List.append_assoc, List.cons_append]
  have hhead : Site.withHash (place + (source.opening ++ front).length)
      ⟨place + source.opening.length, source.quoted⟩ = (source.withValue hfree).quoted := by
    rw [List.length_append, ← Nat.add_assoc, Source.quoted, hvalue, Site.withHash_inside]
    rfl
  have hle : place + (source.opening ++ front).length ≤ place + source.text.length := by
    rw [source.length_text, hvalue]
    simp only [List.length_append]
    omega
  rw [htext, allFrom_source hnames hstart (source.withValue hfree) hcalled,
    sitesFrom_source hnames hstart source hcalled, List.map_cons, hhead,
    map_withHash_of_le hnames hle]

theorem map_withHash_source {before : Option Char} (hstart : mayStart before = true)
    {source : Source} (hcalled : IsCalled names source.name) (back rest : List Char) (place : Nat) :
    (sitesFrom names place before (source.text ++ rest)).map
        (Site.withHash (place + (source.text ++ back).length)) =
      source.quoted :: (sitesFrom names (place + source.text.length) none rest).map
        (Site.withHash (place + source.text.length + back.length)) := by
  rw [sitesFrom_source hnames hstart source hcalled, List.map_cons, List.length_append,
    ← Nat.add_assoc, Site.withHash_of_gt]
  have hlength := source.length_text
  simp only [Source.quoted]
  omega

theorem allFrom_hash {left right : List Char} (h : IsCut left right) {before : Option Char}
    (hbefore : left = [] → mayStart before = true) (place : Nat) :
    allFrom names [] before (left ++ '#' :: right) =
      (sitesFrom names place before (left ++ right)).map (Site.withHash (place + left.length)) := by
  -- the search goes on from a later character of `left`, by one character or one attribute
  induction hlength : left.length using Nat.strong_induction_on generalizing left before place with
  | _ n ih =>
  subst hlength
  cases left with
  | nil =>
    have hstart : mayStart (some '#') = mayStart before := by
      rw [hbefore rfl]
      decide
    rw [List.nil_append, List.nil_append, allFrom_pass (Or.inr (read?_hash hnames right)),
      allFrom_congr hstart]
    exact (map_withHash_of_le hnames (Nat.le_refl place) before right).symm
  | cons c left =>
    have hcons : c :: left ≠ [] := List.cons_ne_nil c left
    by_cases hpass : mayStart before = false ∨ read? names (c :: (left ++ right)) = none
    · have hpass' : mayStart before = false ∨ read? names (c :: (left ++ '#' :: right)) = none :=
        hpass.imp_right (h.read?_eq_none hnames hcons)
      have hstart : left = [] → mayStart (some c) = true := by
        rintro rfl
        rcases h.last c rfl with hblank | hquote
        · exact mayStart_of_isBlank hblank
        · exact mayStart_of_isQuote hquote
      rw [List.cons_append, List.cons_append, allFrom_pass hpass', sitesFrom_pass hpass,
        ih left.length (Nat.lt_succ_self _) (h.of_append [c]) hstart (place + 1) rfl,
        List.length_cons, Nat.add_right_comm, Nat.add_assoc place]
    · obtain ⟨hstart, hread⟩ := not_or.mp hpass
      rw [Bool.not_eq_false] at hstart
      obtain ⟨read, hread⟩ := Option.ne_none_iff_exists'.mp hread
      obtain ⟨source, -, htext, hcalled⟩ := source_of_read? hread
      rw [← List.cons_append] at htext
      rcases h.cases_text hnames hcons hcalled htext with ⟨back, hleft, hrest⟩ |
        ⟨front, back, hleft, hvalue, hright⟩
      · have hshorter : back.length < (c :: left).length := by
          have hlength := source.length_text
          rw [hleft, List.length_append]
          omega
        have hcut : IsCut back right := (hleft ▸ h).of_append source.text
        rw [htext, hrest, hleft, map_withHash_source hnames hstart hcalled, List.append_assoc,
          allFrom_source hnames hstart source hcalled,
          ih back.length hshorter hcut (fun _ => rfl) _ rfl]
      · rw [htext, hleft, hright]
        exact allFrom_hash_inside hnames hstart hcalled hvalue read.2 place

theorem all_hash {left right : List Char} (h : IsCut left right) :
    all names (left ++ '#' :: right) =
      (sites names (left ++ right)).map (Site.withHash left.length) := by
  have hall := allFrom_hash hnames h (fun _ => (rfl : mayStart none = true)) 0
  rwa [Nat.zero_add] at hall

theorem source_of_mem_sites {left right : List Char} {s : Site}
    (h : s ∈ sites names (left ++ right)) (hplace : s.place ≤ left.length)
    (hend : left.length ≤ s.place + s.found.value.length) :
    ∃ (text front back rest : List Char) (source : Source), IsCalled names source.name ∧
      left = text ++ (source.opening ++ front) ∧ right = back ++ source.quote :: rest ∧
      source.value = front ++ back ∧ s.found = source.quoted ∧
      s.withHash left.length = ⟨source.name, front ++ '#' :: back⟩ := by
  obtain ⟨text, source, rest, htext, rfl, hcalled⟩ := source_of_mem_sitesFrom hnames h
  rw [source.text_append_eq, ← List.append_assoc] at htext
  simp only [Nat.zero_add, Source.quoted] at hplace hend
  -- the opening ends before the place, and the value does not
  obtain ⟨front, rfl⟩ := List.prefix_of_prefix_length_le
    (htext ▸ List.prefix_append (text ++ source.opening) _) (List.prefix_append left right) hplace
  rw [List.append_assoc (text ++ source.opening), List.append_cancel_left_eq] at htext
  have hfront : front.length ≤ source.value.length := by
    rw [List.length_append] at hend
    omega
  obtain ⟨back, hvalue⟩ := List.prefix_of_prefix_length_le (List.prefix_append front right)
    (htext ▸ List.prefix_append source.value _) hfront
  rw [← hvalue, List.append_assoc, List.append_cancel_left_eq] at htext
  refine ⟨text, front, back, rest, source, hcalled, List.append_assoc _ _ _, htext, hvalue.symm,
    rfl, ?_⟩
  rw [Nat.zero_add, List.length_append, Source.quoted, ← hvalue, Site.withHash_inside]

end Cut

end MailMarkup.QuotedAttribute
