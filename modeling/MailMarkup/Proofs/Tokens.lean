import MailMarkup.Proofs.Excerpts

namespace MailMarkup.Tag

/-- A tag begins behind a `<` where a name does, with or without a slash before it, if a `>` still
follows. -/
structure Begins (behind : List Char) : Prop where
  name : ∃ slash c rest, (slash = [] ∨ slash = ['/']) ∧ behind = slash ++ c :: rest ∧
    isNameChar c = true
  gt_mem : '>' ∈ behind

theorem Source.begins (source : Source) (rest : List Char) :
    Begins (source.inside ++ '>' :: rest) := by
  obtain ⟨c, name, hname⟩ := List.exists_cons_of_ne_nil source.name_ne_nil
  have hc : isNameChar c = true := source.isNameChar_of_mem c (by simp [hname])
  refine ⟨⟨source.slash, c, name ++ (source.attributes ++ '>' :: rest), ?_, ?_, hc⟩, by simp⟩
  · unfold slash
    split
    · exact Or.inr rfl
    · exact Or.inl rfl
  · simp [inside, hname]

theorem Begins.exists_read? {cs : List Char} (h : Begins cs) :
    ∃ tag rest, read? cs = some (tag, rest) := by
  obtain ⟨⟨slash, c, rest, hslash, rfl, hc⟩, hgt⟩ := h
  have hbody : (if ((slash ++ c :: rest).head? == some '/') = true then (slash ++ c :: rest).tail
      else slash ++ c :: rest) = c :: rest := by
    rcases hslash with rfl | rfl
    · have hne : c ≠ '/' := by
        rintro rfl
        exact absurd hc (by decide)
      simp [hne]
    · rfl
  -- names hold no `>`, so the one that follows stands behind the name
  have hinside : '>' ∈ (c :: rest).dropWhile isNameChar := by
    have hmem : '>' ∈ c :: rest := by
      rcases hslash with rfl | rfl
      · exact hgt
      · simpa using hgt
    rw [← List.takeWhile_append_dropWhile (p := isNameChar) (l := c :: rest)] at hmem
    rcases List.mem_append.mp hmem with hname | hinside
    · exact absurd (List.mem_takeWhile_imp hname) (by decide)
    · exact hinside
  simp only [read?, hbody]
  split
  · rename_i hnil
    rw [List.takeWhile_cons_of_pos hc] at hnil
    cases hnil
  · rename_i hnil
    exact absurd (List.dropWhile_eq_nil_iff.mp hnil '>' hinside) (by decide)
  · exact ⟨_, _, rfl⟩

theorem read?_eq_none_iff {cs : List Char} : read? cs = none ↔ ¬Begins cs := by
  constructor
  · intro hnone hbegins
    obtain ⟨tag, rest, hread⟩ := hbegins.exists_read?
    rw [hnone] at hread
    cases hread
  · intro hbegins
    rw [Option.eq_none_iff_forall_not_mem]
    rintro ⟨tag, rest⟩ hread
    obtain ⟨source, -, rfl⟩ := source_of_read? hread
    exact hbegins (source.begins rest)

def IsGap (gap back : List Char) : Prop :=
  ∀ front behind, gap = front ++ '<' :: behind → ¬Begins (behind ++ back)

theorem isGap_of_not_mem {gap : List Char} (h : '<' ∉ gap) (back : List Char) :
    IsGap gap back := by
  rintro front behind rfl
  exact absurd (by simp) h

theorem isGap_cons_iff {c : Char} {gap back : List Char} :
    IsGap (c :: gap) back ↔ (c = '<' → ¬Begins (gap ++ back)) ∧ IsGap gap back := by
  constructor
  · intro h
    refine ⟨?_, ?_⟩
    · rintro rfl
      exact h [] gap rfl
    · rintro front behind rfl
      exact h (c :: front) behind rfl
  · rintro ⟨hfirst, hrest⟩ front behind heq
    cases front with
    | nil =>
      obtain ⟨rfl, rfl⟩ := List.cons.inj heq
      exact hfirst rfl
    | cons d front =>
      obtain ⟨-, rfl⟩ := List.cons.inj heq
      exact hrest front behind rfl

/-- A line read as tags with gaps before, between and behind them. -/
inductive Tokens : List Char → List Source → Prop
  | gap {gap : List Char} (hgap : IsGap gap []) : Tokens gap []
  | tag {gap rest : List Char} {sources : List Source} (source : Source)
      (hgap : IsGap gap (source.text ++ rest)) (hrest : Tokens rest sources) :
      Tokens (gap ++ (source.text ++ rest)) (source :: sources)

theorem Tokens.cons {c : Char} {cs : List Char} {sources : List Source} (h : Tokens cs sources)
    (hc : c = '<' → ¬Begins cs) : Tokens (c :: cs) sources := by
  cases h with
  | gap hgap =>
    apply Tokens.gap
    exact isGap_cons_iff.mpr ⟨by simpa using hc, hgap⟩
  | tag source hgap hrest =>
    rw [← List.cons_append]
    apply Tokens.tag source _ hrest
    exact isGap_cons_iff.mpr ⟨hc, hgap⟩

theorem exists_tokens (found : List Tag) (cs : List Char) :
    ∃ sources, Tokens cs sources ∧ scanFrom found cs = found.reverse ++ sources.map Source.tag := by
  fun_induction scanFrom found cs with
  | case1 found => exact ⟨[], .gap (isGap_of_not_mem List.not_mem_nil []), by simp⟩
  | case2 found cs tag rest hread ih =>
    obtain ⟨source, rfl, rfl⟩ := source_of_read? hread
    obtain ⟨sources, htokens, hscan⟩ := ih
    refine ⟨source :: sources, ?_, by simp [hscan]⟩
    have hline : '<' :: (source.inside ++ '>' :: rest) = [] ++ (source.text ++ rest) := by
      simp [Source.text]
    rw [hline]
    exact .tag source (isGap_of_not_mem List.not_mem_nil _) htokens
  | case3 found cs hread ih =>
    obtain ⟨sources, htokens, hscan⟩ := ih
    exact ⟨sources, htokens.cons fun _ => read?_eq_none_iff.mp hread, hscan⟩
  | case4 found c cs hc ih =>
    obtain ⟨sources, htokens, hscan⟩ := ih
    exact ⟨sources, htokens.cons fun h => absurd h hc, hscan⟩

theorem scanFrom_gap {gap back : List Char} (h : IsGap gap back) (found : List Tag) :
    scanFrom found (gap ++ back) = scanFrom found back := by
  induction gap with
  | nil => rfl
  | cons c gap ih =>
    obtain ⟨hfirst, hrest⟩ := isGap_cons_iff.mp h
    rw [List.cons_append]
    by_cases hc : c = '<'
    · subst hc
      rw [scanFrom_of_none (read?_eq_none_iff.mpr (hfirst rfl)), ih hrest]
    · rw [scanFrom_of_ne hc, ih hrest]

theorem Tokens.scanFrom_eq {cs : List Char} {sources : List Source} (h : Tokens cs sources)
    (found : List Tag) : scanFrom found cs = found.reverse ++ sources.map Source.tag := by
  induction h generalizing found with
  | gap hgap =>
    have hscan := scanFrom_gap hgap found
    rw [List.append_nil] at hscan
    rw [hscan, scanFrom, List.map_nil, List.append_nil]
  | @tag gap rest sources source hgap hrest ih =>
    have htext : source.text ++ rest = '<' :: (source.inside ++ '>' :: rest) := by
      simp [Source.text]
    rw [scanFrom_gap hgap, htext, scanFrom_of_read (read?_source source rest), ih]
    simp

theorem scan_eq_iff {line : String} {tags : List Tag} :
    scan line = tags ↔ ∃ sources, Tokens line.toList sources ∧ sources.map Source.tag = tags := by
  constructor
  · rintro rfl
    obtain ⟨sources, htokens, hscan⟩ := exists_tokens [] line.toList
    exact ⟨sources, htokens, by rw [scan, hscan, List.reverse_nil, List.nil_append]⟩
  · rintro ⟨sources, htokens, rfl⟩
    rw [scan, htokens.scanFrom_eq, List.reverse_nil, List.nil_append]

def text (tag : Tag) : String :=
  "<" ++ (if tag.closing then "/" else "") ++ tag.name ++ tag.attributes ++ ">"

/-- A tag that is read back as it is written: its name has no capitals, and its attributes run
neither into the name nor past the tag. -/
structure IsWritable (tag : Tag) : Prop where
  name_ne : tag.name ≠ ""
  name_chars : ∀ c ∈ tag.name.toList, (isNameChar c && !c.isUpper) = true
  gt_not_mem : '>' ∉ tag.attributes.toList
  isNameChar_of_head : ∀ c ∈ tag.attributes.toList.head?, isNameChar c = false

theorem IsWritable.exists_source {tag : Tag} (h : tag.IsWritable) :
    ∃ source : Source, source.tag = tag ∧ source.text = tag.text.toList := by
  have hname : tag.name.toList ≠ [] := by simpa using h.name_ne
  have hchars : ∀ c ∈ tag.name.toList, isNameChar c = true ∧ c.isUpper = false := by
    intro c hc
    simpa using h.name_chars c hc
  have hlower : tag.name.toList.map Char.toLower = tag.name.toList := by
    have hsmall : ∀ c ∈ tag.name.toList, c.toLower = c :=
      fun c hc => dif_neg (of_decide_eq_false (hchars c hc).2)
    rw [List.map_congr_left hsmall, List.map_id']
  refine ⟨⟨tag.closing, tag.name.toList, tag.attributes.toList, hname,
    fun c hc => (hchars c hc).1, h.isNameChar_of_head, h.gt_not_mem⟩, ?_, ?_⟩
  · simp [Source.tag, hlower]
  · cases hclosing : tag.closing <;>
      simp [Source.text, Source.inside, Source.slash, text, hclosing]

def render (first : String) : List (Tag × String) → String
  | [] => first
  | (tag, next) :: tagged => first ++ tag.text ++ render next tagged

theorem exists_tokens_render {first : String} {tagged : List (Tag × String)}
    (hfirst : '<' ∉ first.toList)
    (htagged : ∀ t ∈ tagged, t.1.IsWritable ∧ '<' ∉ t.2.toList) :
    ∃ sources, Tokens (render first tagged).toList sources ∧
      sources.map Source.tag = tagged.map Prod.fst := by
  induction tagged generalizing first with
  | nil => exact ⟨[], .gap (isGap_of_not_mem hfirst []), rfl⟩
  | cons t tagged ih =>
    obtain ⟨hwritable, hnext⟩ := htagged t List.mem_cons_self
    obtain ⟨source, hsource, htext⟩ := hwritable.exists_source
    obtain ⟨sources, htokens, htags⟩ := ih hnext fun t ht => htagged t (List.mem_cons_of_mem _ ht)
    refine ⟨source :: sources, ?_, by simp [hsource, htags]⟩
    rw [render, String.append_assoc, String.toList_append, String.toList_append, ← htext]
    exact .tag source (isGap_of_not_mem hfirst _) htokens

/-- The tags of a line are what the line reads as, and the line that tags are written to reads as
these tags. -/
theorem scan_tokenises_its_grammar :
    (∀ (line : String) (tags : List Tag), scan line = tags ↔
      ∃ sources, Tokens line.toList sources ∧ sources.map Source.tag = tags) ∧
    ∀ (first : String) (tagged : List (Tag × String)), '<' ∉ first.toList →
      (∀ t ∈ tagged, t.1.IsWritable ∧ '<' ∉ t.2.toList) →
      scan (render first tagged) = tagged.map Prod.fst := by
  constructor
  · intro line tags
    exact scan_eq_iff
  · intro first tagged hfirst htagged
    exact scan_eq_iff.mpr (exists_tokens_render hfirst htagged)

theorem cell_and_rectangle_are_read_back :
    let cell : Tag := ⟨"td", false, " title='</b'"⟩
    let rectangle : Tag := ⟨"v:rect", true, " "⟩
    scan "a > b<td title='</b'>1 > 0</v:rect > " = [cell, rectangle] := by
  intro cell rectangle
  have hspace (tag : Tag) (h : tag.attributes.toList.head? = some ' ') :
      ∀ c ∈ tag.attributes.toList.head?, isNameChar c = false := by
    rw [h]
    rintro c ⟨⟩
    rfl
  have hcell : cell.IsWritable :=
    ⟨by decide, List.all_eq_true.mp (by decide), by decide, hspace cell (by decide)⟩
  have hrectangle : rectangle.IsWritable :=
    ⟨by decide, List.all_eq_true.mp (by decide), by decide, hspace rectangle (by decide)⟩
  apply scan_tokenises_its_grammar.2 "a > b" [(cell, "1 > 0"), (rectangle, " ")] (by decide)
  simp [hcell, hrectangle]

end MailMarkup.Tag
