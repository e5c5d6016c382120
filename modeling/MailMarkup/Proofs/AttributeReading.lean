import Mathlib.Data.List.Forall2
import MailMarkup.Proofs.AttributeScan
import MailMarkup.Proofs.Keyword
import MailMarkup.Proofs.Remarks

namespace MailMarkup

theorem Text.keyword?_append {word written : List Char}
    (h : List.Forall₂ (fun k c => sameLetter k c = true) word written) (after : List Char) :
    keyword? word (written ++ after) = some (written, after) := by
  induction h with
  | nil => rfl
  | cons hletter _ ih => simp [keyword?, hletter, ih]

theorem Text.sameLetters_of_toLower {word name : List Char} (h : name.map Char.toLower = word) :
    List.Forall₂ (fun k c => sameLetter k c = true) word name := by
  rw [← h, List.forall₂_map_left_iff, List.forall₂_same]
  intro c _
  simp [sameLetter]

namespace QuotedAttribute

def IsCalled (names : List String) (name : List Char) : Prop :=
  ∃ word ∈ names, List.Forall₂ (fun k c => Text.sameLetter k c = true) word.toList name

instance (names : List String) (name : List Char) : Decidable (IsCalled names name) :=
  inferInstanceAs (Decidable (∃ word ∈ names, _))

theorem IsCalled.mono {names names' : List String} {name : List Char} (h : IsCalled names name)
    (hsub : names ⊆ names') : IsCalled names' name := by
  obtain ⟨word, hmem, hletters⟩ := h
  exact ⟨word, hsub hmem, hletters⟩

theorem of_isQuote {p : Char → Prop} (hdouble : p '\x22') (hsingle : p '\x27') {c : Char}
    (h : isQuote c = true) : p c := by
  simp only [isQuote, Bool.or_eq_true, beq_iff_eq] at h
  rcases h with rfl | rfl
  · exact hdouble
  · exact hsingle

theorem quote_facts {c : Char} (h : isQuote c = true) : Text.isBlank c = false ∧ c ≠ '=' :=
  of_isQuote (p := fun c => Text.isBlank c = false ∧ c ≠ '=') (by decide) (by decide) h

theorem word_facts {c : Char} (h : Text.isWord c = true) :
    Text.isBlank c = false ∧ c ≠ '=' ∧ isQuote c = false ∧ mayStart (some c) = false := by
  refine ⟨?_, ?_, ?_, by simp [mayStart, h]⟩
  · rw [Bool.eq_false_iff]
    intro hblank
    rw [Text.isWord_of_isBlank hblank] at h
    cases h
  · rintro rfl
    exact absurd h (by decide)
  · rw [Bool.eq_false_iff]
    intro hquote
    simp only [isQuote, Bool.or_eq_true, beq_iff_eq] at hquote
    rcases hquote with rfl | rfl
    all_goals exact absurd h (by decide)

theorem mayStart_of_isBlank {c : Char} (h : Text.isBlank c = true) : mayStart (some c) = true := by
  have hdash : c ≠ '-' := by
    rintro rfl
    exact absurd h (by decide)
  simp [mayStart, Text.isWord_of_isBlank h, hdash]

theorem readValue?_assignment (source : Source) (rest : List Char) :
    readValue? (source.assignment ++ rest) = some (source.value, rest) := by
  have htext : source.assignment ++ rest = source.before ++ '=' :: (source.behind ++
      source.quote :: (source.value ++ source.quote :: rest)) := by
    simp [Source.assignment]
  have hsign := (span_append_cons (a := '=') (source.behind ++ source.quote ::
    (source.value ++ source.quote :: rest)) source.isBlank_before (by decide)).2
  have hquote := (span_append_cons (source.value ++ source.quote :: rest) source.isBlank_behind
    (quote_facts source.isQuote_quote).1).2
  obtain ⟨htake, hdrop⟩ := span_at source.not_mem_value rest
  rw [htext, readValue?, hsign]
  simp only [hquote, source.isQuote_quote, hdrop, htake]

theorem readValue?_eq_none {cs : List Char} (h : ∀ c ∈ (cs.dropWhile Text.isBlank).head?, c ≠ '=') :
    readValue? cs = none := by
  unfold readValue?
  split
  · rename_i hsign
    rw [hsign] at h
    exact absurd rfl (h '=' rfl)
  · rfl

theorem read?_eq_none {names : List String} {cs : List Char}
    (h : ∀ name ∈ names, ∀ written after, Text.keyword? name.toList cs = some (written, after) →
      readValue? after = none) : read? names cs = none := by
  rw [read?, List.findSome?_eq_none_iff]
  intro name hname
  split
  · rfl
  · rename_i written after hkey
    rw [h name hname written after hkey, Option.map_none]

theorem read?_ne_none {names : List String} {name rest : List Char} (h : IsCalled names name)
    (hvalue : readValue? rest ≠ none) : read? names (name ++ rest) ≠ none := by
  obtain ⟨word, hmem, hletters⟩ := h
  intro hnone
  have hword := List.findSome?_eq_none_iff.mp hnone word hmem
  rw [Text.keyword?_append hletters] at hword
  exact hvalue (Option.map_eq_none_iff.mp hword)

theorem Source.text_append (source : Source) (rest : List Char) :
    source.text ++ rest = source.name ++ (source.assignment ++ rest) :=
  List.append_assoc _ _ _

theorem Source.head_assignment (source : Source) (rest : List Char) :
    ∀ c ∈ (source.assignment ++ rest).head?, Text.isBlank c = true ∨ c = '=' := by
  have hblank := source.isBlank_before
  intro c hc
  cases hbefore : source.before with
  | nil =>
    simp only [assignment, hbefore, List.nil_append, List.cons_append, List.head?_cons,
      Option.mem_some_iff] at hc
    exact Or.inr hc.symm
  | cons b before =>
    simp only [assignment, hbefore, List.cons_append, List.head?_cons, Option.mem_some_iff] at hc
    exact Or.inl (hblank c (by simp [hbefore, hc]))

theorem Source.span_name (source : Source)
    (hname : ∀ c ∈ source.name, Text.isBlank c = false ∧ c ≠ '=') (rest : List Char) :
    (source.text ++ rest).takeWhile (fun c => !Text.isBlank c && c != '=') = source.name ∧
      (source.text ++ rest).dropWhile (fun c => !Text.isBlank c && c != '=') =
        source.assignment ++ rest := by
  rw [source.text_append]
  apply span_of_head
  · intro c hc
    simp [hname c hc]
  · intro c hc
    rcases source.head_assignment rest c hc with hblank | rfl
    · simp [hblank]
    · simp

theorem allFrom_pass {names : List String} {before : Option Char} {c : Char} {cs : List Char}
    (h : mayStart before = false ∨ read? names (c :: cs) = none) (found : List QuotedAttribute) :
    allFrom names found before (c :: cs) = allFrom names found (some c) cs := by
  rw [allFrom]
  split
  · rename_i hstart
    split
    · rename_i hread
      simp [hstart, hread] at h
    · rfl
  · rfl

theorem allFrom_of_read {names : List String} {before : Option Char} {cs rest : List Char}
    {a : QuotedAttribute} (hstart : mayStart before = true) (hread : read? names cs = some (a, rest))
    (found : List QuotedAttribute) :
    allFrom names found before cs = allFrom names (a :: found) none rest := by
  cases cs with
  | nil => exact absurd (length_lt_of_read? hread) (Nat.not_lt_zero _)
  | cons c cs =>
    rw [allFrom, if_pos hstart]
    split
    · rename_i hread'
      rw [hread] at hread'
      cases hread'
      rfl
    · rename_i hread'
      rw [hread] at hread'
      cases hread'

theorem allFrom_congr {names : List String} {before before' : Option Char}
    (h : mayStart before = mayStart before') (found : List QuotedAttribute) (cs : List Char) :
    allFrom names found before cs = allFrom names found before' cs := by
  cases cs with
  | nil => rw [allFrom, allFrom]
  | cons c cs => rw [allFrom, allFrom, h]

theorem allFrom_behind (names : List String) (found older : List QuotedAttribute)
    (before : Option Char) (cs : List Char) :
    allFrom names (found ++ older) before cs = older.reverse ++ allFrom names found before cs := by
  fun_induction allFrom names found before cs with
  | case1 found before => rw [allFrom, List.reverse_append]
  | case2 found before c cs hstart a rest hread ih =>
    rw [allFrom_of_read hstart hread, ← ih, List.cons_append]
  | case3 found before c cs hstart hread ih => rw [allFrom_pass (Or.inr hread), ih]
  | case4 found before c cs hstart ih =>
    rw [allFrom_pass (Or.inl (Bool.eq_false_iff.mpr hstart)), ih]

theorem allFrom_cons (names : List String) (a : QuotedAttribute) (found : List QuotedAttribute)
    (before : Option Char) (cs : List Char) :
    allFrom names (a :: found) before cs = found.reverse ++ a :: allFrom names [] before cs := by
  rw [← List.nil_append (a :: found), allFrom_behind, List.reverse_cons, List.append_assoc,
    List.singleton_append]

theorem allFrom_quiet {names : List String} {run cs : List Char} {before : Option Char}
    (h : ∀ front c back, run = front ++ c :: back →
      mayStart (front.getLast?.or before) = false ∨ read? names (c :: (back ++ cs)) = none)
    (found : List QuotedAttribute) :
    allFrom names found before (run ++ cs) = allFrom names found (run.getLast?.or before) cs := by
  induction run generalizing before with
  | nil => rfl
  | cons c run ih =>
    have hlast (front : List Char) :
        (c :: front).getLast?.or before = front.getLast?.or (some c) := by
      rw [List.getLast?_cons]
      cases front.getLast? <;> rfl
    have hfirst : mayStart before = false ∨ read? names (c :: (run ++ cs)) = none := h [] c run rfl
    rw [List.cons_append, allFrom_pass hfirst, hlast]
    apply ih
    intro front d back hsplit
    rw [← hlast]
    exact h (c :: front) d back (by rw [hsplit, List.cons_append])

def written (a : QuotedAttribute) : List Char :=
  ' ' :: (a.name ++ '=' :: '\x22' :: (a.value ++ ['\x22']))

def source (a : QuotedAttribute) (h : '\x22' ∉ a.value) : Source :=
  ⟨a.name, [], [], '\x22', a.value, List.forall_mem_nil _, List.forall_mem_nil _, rfl, h⟩

theorem text_source (a : QuotedAttribute) (h : '\x22' ∉ a.value) :
    (a.source h).text = a.name ++ '=' :: '\x22' :: (a.value ++ ['\x22']) := rfl

theorem isQuote_eq_false {cs : List Char} (hdouble : '\x22' ∉ cs) (hsingle : '\x27' ∉ cs) :
    ∀ c ∈ cs, isQuote c = false := by
  intro c hc
  rw [Bool.eq_false_iff]
  intro hquote
  simp only [isQuote, Bool.or_eq_true, beq_iff_eq] at hquote
  rcases hquote with rfl | rfl
  · exact hdouble hc
  · exact hsingle hc

theorem not_mem_of_isQuote {cs : List Char} (h : ∀ c ∈ cs, isQuote c = false) {q : Char}
    (hq : isQuote q = true) : q ∉ cs := by
  intro hmem
  rw [h q hmem] at hq
  cases hq

theorem EvenQuotes.of_free {cs : List Char} (h : ∀ c ∈ cs, isQuote c = false) : EvenQuotes cs := by
  intro q hq
  rw [List.count_eq_zero.mpr (not_mem_of_isQuote h hq)]

theorem EvenQuotes.of_isBlank {cs : List Char} (h : ∀ c ∈ cs, Text.isBlank c = true) :
    EvenQuotes cs := by
  apply EvenQuotes.of_free
  intro c hc
  rw [Bool.eq_false_iff]
  intro hquote
  have hblank := (quote_facts hquote).1
  rw [h c hc] at hblank
  cases hblank

theorem Source.evenQuotes_text (source : Source) (hname : ∀ c ∈ source.name, isQuote c = false)
    (hvalue : ∀ c ∈ source.value, isQuote c = false) : EvenQuotes source.text := by
  have hsign : EvenQuotes ['='] := .of_free (List.forall_mem_singleton.mpr rfl)
  have hquoted := (EvenQuotes.of_free hvalue).enclose source.quote
  have hbehind := (EvenQuotes.of_isBlank source.isBlank_behind).append hquoted
  have hassignment := (EvenQuotes.of_isBlank source.isBlank_before).append (hsign.append hbehind)
  exact (EvenQuotes.of_free hname).append hassignment

theorem evenQuotes_written {a : QuotedAttribute} (hname : ∀ c ∈ a.name, isQuote c = false)
    (hvalue : ∀ c ∈ a.value, isQuote c = false) : EvenQuotes a.written := by
  have hspace : EvenQuotes [' '] := .of_free (List.forall_mem_singleton.mpr rfl)
  exact hspace.append ((a.source (not_mem_of_isQuote hvalue rfl)).evenQuotes_text hname hvalue)

section Keywords

variable {names : List String} (hnames : ∀ name ∈ names, Text.IsKeyword name.toList)
include hnames

theorem IsCalled.ne_nil {name : List Char} (h : IsCalled names name) : name ≠ [] := by
  obtain ⟨word, hmem, hletters⟩ := h
  rintro rfl
  exact (hnames word hmem).ne_nil (List.forall₂_nil_right_iff.mp hletters)

theorem IsCalled.isWord {name : List Char} (h : IsCalled names name) :
    ∀ c ∈ name, Text.isWord c = true := by
  obtain ⟨word, hmem, hletters⟩ := h
  have hlower := (hnames word hmem).isLower
  generalize word.toList = ks at hletters hlower
  induction hletters with
  | nil => exact fun c hc => absurd hc List.not_mem_nil
  | cons hletter _ ih =>
    obtain ⟨hk, hks⟩ := List.forall_mem_cons.mp hlower
    exact List.forall_mem_cons.mpr ⟨Text.isWord_of_sameLetter hk hletter, ih hks⟩

theorem read?_mark {c : Char} (hc : Text.isBlank c = true ∨ c = '=' ∨ isQuote c = true)
    (cs : List Char) : read? names (c :: cs) = none := by
  apply read?_eq_none
  intro name hname written after hkey
  rw [Text.keyword?_eq_none_of_head (hnames name hname) hc] at hkey
  cases hkey

theorem eq_of_read?_source {source : Source} {rest after : List Char} {a : QuotedAttribute}
    (hname : ∀ c ∈ source.name, Text.isBlank c = false ∧ c ≠ '=')
    (h : read? names (source.text ++ rest) = some (a, after)) :
    IsCalled names source.name ∧ a = source.quoted ∧ after = rest := by
  obtain ⟨other, rfl, htext, hcalled⟩ := source_of_read? h
  -- both names end at the first blank or sign, so they are the same, and then the values are
  have hother : ∀ c ∈ other.name, Text.isBlank c = false ∧ c ≠ '=' := by
    intro c hc
    obtain ⟨hblank, hsign, -⟩ := word_facts (IsCalled.isWord hnames hcalled c hc)
    exact ⟨hblank, hsign⟩
  obtain ⟨htake, hdrop⟩ := source.span_name hname rest
  rw [htext, (other.span_name hother after).1] at htake
  rw [htext, (other.span_name hother after).2] at hdrop
  have hvalue : some (other.value, after) = some (source.value, rest) := by
    rw [← readValue?_assignment, ← readValue?_assignment, hdrop]
  obtain ⟨hsame, rfl⟩ := Prod.mk.inj (Option.some.inj hvalue)
  exact ⟨htake ▸ hcalled, by rw [Source.quoted, Source.quoted, htake, hsame], rfl⟩

theorem read?_of_isCalled (source : Source) (h : IsCalled names source.name) (rest : List Char) :
    read? names (source.text ++ rest) = some (source.quoted, rest) := by
  have hname : ∀ c ∈ source.name, Text.isBlank c = false ∧ c ≠ '=' := by
    intro c hc
    obtain ⟨hblank, hsign, -⟩ := word_facts (h.isWord hnames c hc)
    exact ⟨hblank, hsign⟩
  have hsome : read? names (source.text ++ rest) ≠ none := by
    rw [source.text_append]
    apply read?_ne_none h
    rw [readValue?_assignment]
    exact Option.some_ne_none _
  obtain ⟨⟨a, after⟩, hread⟩ := Option.ne_none_iff_exists'.mp hsome
  obtain ⟨-, rfl, rfl⟩ := eq_of_read?_source hnames hname hread
  exact hread

theorem read?_of_not_isCalled (source : Source) (h : ¬ IsCalled names source.name)
    (hname : ∀ c ∈ source.name, Text.isBlank c = false ∧ c ≠ '=') (rest : List Char) :
    read? names (source.text ++ rest) = none := by
  cases hread : read? names (source.text ++ rest) with
  | none => rfl
  | some read => exact absurd (eq_of_read?_source hnames hname hread).1 h

theorem allFrom_written {a : QuotedAttribute} (h : IsCalled names a.name)
    (hvalue : '\x22' ∉ a.value) (cs : List Char) (found : List QuotedAttribute)
    (before : Option Char) :
    allFrom names found before (a.written ++ cs) = allFrom names (a :: found) none cs := by
  have hread := read?_of_isCalled hnames (a.source hvalue) h cs
  rw [written, List.cons_append, allFrom_pass (Or.inr (read?_mark hnames (Or.inl (by decide)) _)),
    ← a.text_source hvalue]
  exact allFrom_of_read (mayStart_of_isBlank (by decide)) hread found

theorem all_written {a : QuotedAttribute} (h : IsCalled names a.name) (hvalue : '\x22' ∉ a.value) :
    all names a.written = [a] := by
  have hfound := allFrom_written hnames h hvalue [] [] none
  rwa [List.append_nil, allFrom] at hfound

/-- What is read from within quotes reaches to the closing quote and takes it for an opening one. -/
theorem source_of_read?_inside {part cs rest : List Char} {a : QuotedAttribute}
    (hpart : ∀ c ∈ part, isQuote c = false)
    (h : read? names (part ++ '\x22' :: cs) = some (a, rest)) :
    ∃ source : Source, part = source.name ++ (source.before ++ '=' :: source.behind) ∧
      cs = source.value ++ '\x22' :: rest ∧ IsCalled names source.name := by
  obtain ⟨source, rfl, htext, hcalled⟩ := source_of_read? h
  have hfront : ∀ c ∈ source.name ++ (source.before ++ '=' :: source.behind),
      (!isQuote c) = true := by
    have hblank {run : List Char} (hrun : ∀ c ∈ run, Text.isBlank c = true) :
        ∀ c ∈ run, (!isQuote c) = true := by
      intro c hc
      rw [Bool.not_eq_true', Bool.eq_false_iff]
      intro hquote
      have hvisible := (quote_facts hquote).1
      rw [hrun c hc] at hvisible
      cases hvisible
    simp only [List.forall_mem_append, List.forall_mem_cons]
    refine ⟨?_, hblank source.isBlank_before, by decide, hblank source.isBlank_behind⟩
    intro c hc
    rw [(word_facts (IsCalled.isWord hnames hcalled c hc)).2.2.1, Bool.not_false]
  have hparts : part ++ '\x22' :: cs = (source.name ++ (source.before ++ '=' :: source.behind)) ++
      source.quote :: (source.value ++ source.quote :: rest) := by
    rw [htext]
    simp [Source.text, Source.assignment]
  obtain ⟨htake, hdrop⟩ := span_append_cons (p := fun c => !isQuote c) (a := '\x22') cs
    (fun c hc => by rw [hpart c hc, Bool.not_false]) rfl
  obtain ⟨htake', hdrop'⟩ := span_append_cons (p := fun c => !isQuote c) (a := source.quote)
    (source.value ++ source.quote :: rest) hfront (by rw [source.isQuote_quote, Bool.not_true])
  rw [hparts, htake'] at htake
  rw [hparts, hdrop'] at hdrop
  obtain ⟨hquote, rfl⟩ := List.cons.inj hdrop
  exact ⟨source, htake.symm, by rw [hquote], hcalled⟩

theorem allFrom_last {value : List Char} (hvalue : ∀ c ∈ value, isQuote c = false)
    (found : List QuotedAttribute) (before : Option Char) :
    allFrom names found before (value ++ ['\x22']) = found.reverse := by
  rw [allFrom_quiet, allFrom_pass (Or.inr (read?_mark hnames (Or.inr (Or.inr rfl)) [])), allFrom]
  rintro front c back rfl
  right
  cases hread : read? names (c :: (back ++ ['\x22'])) with
  | none => rfl
  | some read =>
    have hpart : ∀ d ∈ c :: back, isQuote d = false :=
      fun d hd => hvalue d (List.mem_append_right front hd)
    obtain ⟨source, -, hnil, -⟩ := source_of_read?_inside hnames hpart hread
    simp at hnil

end Keywords

end QuotedAttribute

end MailMarkup
