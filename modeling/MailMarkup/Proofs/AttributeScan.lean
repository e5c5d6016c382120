import MailMarkup.Attribute.Quoted
import MailMarkup.Proofs.Scan

namespace MailMarkup

theorem Text.sameLetters_of_keyword? {ks cs written rest : List Char}
    (h : keyword? ks cs = some (written, rest)) :
    List.Forall₂ (fun k c => sameLetter k c = true) ks written := by
  fun_induction keyword? ks cs generalizing written with
  | case1 cs =>
    obtain ⟨rfl, -⟩ := Prod.mk.inj (Option.some.inj h)
    exact List.Forall₂.nil
  | case2 => cases h
  | case3 k ks c cs hletter ih =>
    obtain ⟨⟨w, r⟩, hw, he⟩ := Option.map_eq_some_iff.mp h
    obtain ⟨rfl, rfl⟩ := Prod.mk.inj he
    exact List.Forall₂.cons hletter (ih hw)
  | case4 => cases h

namespace QuotedAttribute

/-- How an attribute is written: its name in any case, and its value in quotes of one kind, with or
without blanks around the sign between them. -/
structure Source where
  name : List Char
  before : List Char
  behind : List Char
  quote : Char
  value : List Char
  isBlank_before : ∀ c ∈ before, Text.isBlank c = true
  isBlank_behind : ∀ c ∈ behind, Text.isBlank c = true
  isQuote_quote : isQuote quote = true
  not_mem_value : quote ∉ value

namespace Source

def assignment (source : Source) : List Char :=
  source.before ++ '=' :: (source.behind ++ source.quote :: (source.value ++ [source.quote]))

def text (source : Source) : List Char := source.name ++ source.assignment

def quoted (source : Source) : QuotedAttribute := ⟨source.name, source.value⟩

theorem name_infix_text (source : Source) : source.name <:+: source.text :=
  (List.prefix_append _ _).isInfix

theorem value_infix_text (source : Source) : source.value <:+: source.text :=
  ⟨source.name ++ (source.before ++ '=' :: (source.behind ++ [source.quote])), [source.quote],
    by simp [text, assignment]⟩

end Source

theorem source_of_readValue? {cs value rest : List Char} (h : readValue? cs = some (value, rest))
    (name : List Char) :
    ∃ source : Source, source.quoted = ⟨name, value⟩ ∧ cs = source.assignment ++ rest := by
  unfold readValue? at h
  split at h
  · rename_i behindSign hsign
    split at h
    · rename_i q inside hquote
      split at h
      · rename_i quote after hq hafter
        obtain ⟨rfl, rfl⟩ := Prod.mk.inj (Option.some.inj h)
        have hclosing : quote = q := by
          have hhead : quote ∈ (inside.dropWhile (· != q)).head? := by
            rw [hafter]
            rfl
          simpa using head_dropWhile hhead
        have hfree : q ∉ inside.takeWhile (· != q) := by
          intro hmem
          simpa using List.mem_takeWhile_imp hmem
        refine ⟨⟨name, cs.takeWhile Text.isBlank, behindSign.takeWhile Text.isBlank, q,
          inside.takeWhile (· != q), fun c hc => List.mem_takeWhile_imp hc,
          fun c hc => List.mem_takeWhile_imp hc, hq, hfree⟩, rfl, ?_⟩
        have hinside := List.takeWhile_append_dropWhile (p := (· != q)) (l := inside)
        have hbehind := List.takeWhile_append_dropWhile (p := Text.isBlank) (l := behindSign)
        have hcs := List.takeWhile_append_dropWhile (p := Text.isBlank) (l := cs)
        rw [hafter, hclosing] at hinside
        rw [hquote, ← hinside] at hbehind
        rw [hsign, ← hbehind] at hcs
        simpa [Source.assignment] using hcs.symm
      · cases h
    · cases h
  · cases h

theorem source_of_read? {names : List String} {cs rest : List Char} {a : QuotedAttribute}
    (h : read? names cs = some (a, rest)) :
    ∃ source : Source, source.quoted = a ∧ cs = source.text ++ rest ∧ ∃ name ∈ names,
      List.Forall₂ (fun k c => Text.sameLetter k c = true) name.toList source.name := by
  obtain ⟨name, hmem, hname⟩ := List.exists_of_findSome?_eq_some h
  split at hname
  · cases hname
  · rename_i written behind hkey
    obtain ⟨⟨value, after⟩, hvalue, he⟩ := Option.map_eq_some_iff.mp hname
    obtain ⟨rfl, rfl⟩ := Prod.mk.inj he
    obtain ⟨source, hsource, rfl⟩ := source_of_readValue? hvalue written
    obtain ⟨rfl, rfl⟩ := QuotedAttribute.mk.inj hsource
    refine ⟨source, rfl, ?_, name, hmem, Text.sameLetters_of_keyword? hkey⟩
    rw [← Text.append_of_keyword? hkey, Source.text, List.append_assoc]

theorem source_of_mem_allFrom {names : List String} {found : List QuotedAttribute}
    {before : Option Char} {cs : List Char} {a : QuotedAttribute}
    (h : a ∈ allFrom names found before cs) :
    a ∈ found ∨ ∃ source : Source, source.quoted = a ∧ source.text <:+: cs ∧ ∃ name ∈ names,
      List.Forall₂ (fun k c => Text.sameLetter k c = true) name.toList source.name := by
  fun_induction allFrom names found before cs with
  | case1 found before => exact Or.inl (List.mem_reverse.mp h)
  | case2 found before c cs hstart b rest hread ih =>
    obtain ⟨source, rfl, hcs, hname⟩ := source_of_read? hread
    rw [hcs]
    rcases ih h with hfound | ⟨other, rfl, hother, hname'⟩
    · rcases List.mem_cons.mp hfound with rfl | hfound
      · exact Or.inr ⟨source, rfl, (List.prefix_append _ _).isInfix, hname⟩
      · exact Or.inl hfound
    · exact Or.inr ⟨other, rfl, hother.trans (List.suffix_append _ _).isInfix, hname'⟩
  | case3 found before c cs hstart hread ih =>
    rcases ih h with hfound | ⟨source, rfl, hsource, hname⟩
    · exact Or.inl hfound
    · exact Or.inr ⟨source, rfl, hsource.trans (List.suffix_cons c cs).isInfix, hname⟩
  | case4 found before c cs hstart ih =>
    rcases ih h with hfound | ⟨source, rfl, hsource, hname⟩
    · exact Or.inl hfound
    · exact Or.inr ⟨source, rfl, hsource.trans (List.suffix_cons c cs).isInfix, hname⟩

theorem source_of_mem_all {names : List String} {attributes : List Char} {a : QuotedAttribute}
    (h : a ∈ all names attributes) :
    ∃ source : Source, source.quoted = a ∧ source.text <:+: attributes ∧ ∃ name ∈ names,
      List.Forall₂ (fun k c => Text.sameLetter k c = true) name.toList source.name := by
  rcases source_of_mem_allFrom h with hnil | hsource
  · cases hnil
  · exact hsource

theorem infix_of_mem_all {names : List String} {attributes : List Char} {a : QuotedAttribute}
    (h : a ∈ all names attributes) : a.name <:+: attributes ∧ a.value <:+: attributes := by
  obtain ⟨source, rfl, hsource, -⟩ := source_of_mem_all h
  exact ⟨source.name_infix_text.trans hsource, source.value_infix_text.trans hsource⟩

end QuotedAttribute

end MailMarkup
