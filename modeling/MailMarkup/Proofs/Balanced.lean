import MailMarkup.Proofs.Passes

namespace MailMarkup

inductive Balanced : List Tag → Prop
  | nil : Balanced []
  | neutral {tag : Tag} {tags : List Tag} (hn : tag.isNeutral = true) (ht : Balanced tags) :
      Balanced (tag :: tags)
  | pair {opener closer : Tag} {inner rest : List Tag} (ho : opener.opens = true)
      (hc : closer.closes = true) (hname : closer.name = opener.name) (hi : Balanced inner)
      (hr : Balanced rest) : Balanced (opener :: inner ++ closer :: rest)

/-- The tags close the names in turn, with balanced tags in between. -/
inductive Closes : List String → List Tag → Prop
  | done {tags : List Tag} (h : Balanced tags) : Closes [] tags
  | next {closer : Tag} {names : List String} {inner rest : List Tag} (hi : Balanced inner)
      (hc : closer.closes = true) (hr : Closes names rest) :
      Closes (closer.name :: names) (inner ++ closer :: rest)

namespace Closes

theorem neutral {tag : Tag} {names : List String} {tags : List Tag} (hn : tag.isNeutral = true)
    (h : Closes names tags) : Closes names (tag :: tags) := by
  cases h with
  | done h => exact .done (.neutral hn h)
  | next hi hc hr => exact .next (.neutral hn hi) hc hr

theorem opened {tag : Tag} {names : List String} {tags : List Tag} (ho : tag.opens = true)
    (h : Closes (tag.name :: names) tags) : Closes names (tag :: tags) := by
  generalize hnames : tag.name :: names = all at h
  cases h with
  | done _ => simp at hnames
  | next hi hc hr =>
    obtain ⟨hname, rfl⟩ := List.cons.inj hnames
    cases hr with
    | done hb => exact .done (.pair ho hc hname.symm hi hb)
    | @next closer' names' inner' rest' hi' hc' hr' =>
      have hb := Balanced.pair ho hc hname.symm hi hi'
      have hnext := Closes.next hb hc' hr'
      simpa using hnext

end Closes

namespace Stack

theorem close_eq_nil {stack : Stack} {name : String} {place : Place}
    (h : (stack.close name place).1 = []) :
    ∃ frame below, stack = frame :: below ∧ frame.name = name ∧
      (stack.close name place).2 = below := by
  rcases stack.split_at_name name with hne | ⟨above, frame, below, rfl, hname, hne⟩
  · cases stack with
    | nil => simp [close_nil] at h
    | cons top rest => simp [close_of_ne hne] at h
  · rw [close_append hne hname] at h ⊢
    obtain rfl : above = [] := by simpa using h
    exact ⟨frame, below, rfl, hname, rfl⟩

theorem closes_of_run {stack : Stack} {tagged : List (Place × Tag)}
    (h : stack.run tagged = ([], [])) : Closes (stack.map Frame.name) (tagged.map Prod.snd) := by
  induction tagged generalizing stack with
  | nil =>
    obtain rfl : stack = [] := congrArg Prod.snd h
    exact .done .nil
  | cons t tagged ih =>
    obtain ⟨place, tag⟩ := t
    rw [run_cons, Prod.mk.injEq, List.append_eq_nil_iff] at h
    obtain ⟨⟨hfound, hlater⟩, hleft⟩ := h
    -- the rest closes what is open behind this tag
    have hrest := ih (Prod.ext hlater hleft)
    rcases tag.kind_cases with ⟨hn, -, -⟩ | ⟨-, ho, -⟩ | ⟨-, -, hc⟩
    · rw [settle_of_neutral hn] at hrest
      exact hrest.neutral hn
    · rw [settle_of_opens ho] at hrest
      exact hrest.opened ho
    · rw [settle_of_closes hc] at hfound hrest
      obtain ⟨frame, below, rfl, hname, hbelow⟩ := close_eq_nil hfound
      rw [hbelow] at hrest
      rw [List.map_cons, hname]
      exact Closes.next .nil hc hrest

theorem run_of_balanced {tagged : List (Place × Tag)} (h : Balanced (tagged.map Prod.snd))
    (stack : Stack) : stack.run tagged = ([], stack) := by
  generalize htags : tagged.map Prod.snd = tags at h
  induction h generalizing tagged stack with
  | nil =>
    obtain rfl : tagged = [] := by simpa using htags
    rfl
  | neutral hn _ ih =>
    obtain ⟨t, rest, rfl, rfl, hrest⟩ := List.map_eq_cons_iff.mp htags
    rw [run_cons, settle_of_neutral hn, ih stack hrest]
    rfl
  | pair ho hc hname _ _ ihi ihr =>
    rw [List.cons_append] at htags
    obtain ⟨t, tail, rfl, rfl, htail⟩ := List.map_eq_cons_iff.mp htags
    obtain ⟨inner, tail', rfl, hinner, htail'⟩ := List.map_eq_append_iff.mp htail
    obtain ⟨c, rest, rfl, rfl, hrest⟩ := List.map_eq_cons_iff.mp htail'
    have hclose : Stack.close (⟨t.2.name, t.1⟩ :: stack) c.2.name c.1 = ([], stack) :=
      @close_append [] stack ⟨t.2.name, t.1⟩ c.2.name (by simp) hname.symm c.1
    rw [run_cons, settle_of_opens ho, run_append, ihi _ hinner, run_cons, settle_of_closes hc,
      hclose, ihr stack hrest]
    rfl

theorem feedAll_of_balanced {tagged : List (Place × Tag)} (h : Balanced (tagged.map Prod.snd))
    (stack : Stack) : stack.feedAll tagged = (.ok [], stack) := by
  have hadmits := stack.feedAll_admits tagged
  rw [run_of_balanced h] at hadmits
  exact hadmits.eq_ok (by simp)

theorem balance_eq_nil_iff {tagged : List (Place × Tag)} :
    balance tagged = [] ↔ Balanced (tagged.map Prod.snd) := by
  constructor
  · intro h
    obtain ⟨hfound, hopen⟩ := List.append_eq_nil_iff.mp h
    have hleft : (Stack.run [] tagged).2 = [] := by simpa [leftOpen] using hopen
    cases closes_of_run (Prod.ext hfound hleft) with
    | done hb => exact hb
  · intro h
    rw [balance, run_of_balanced h]
    rfl

end Stack

def scannedTags (document : String) : List Tag :=
  ((lines document).filter (!isSkipped ·.text)).flatMap (Tag.scan ·.text)

theorem map_snd_taggedPlaces (document : String) :
    (taggedPlaces (lines document)).map Prod.snd = scannedTags document := by
  simp [taggedPlaces, scannedTags, List.map_flatMap, Function.comp_def]

theorem no_structural_finding_iff_balanced (document : String) :
    ((∀ f ∈ check document, f.code.isStructural = false) ↔ Balanced (scannedTags document)) ∧
      ∀ (tagged : List (Place × Tag)) (stack : Stack), Balanced (tagged.map Prod.snd) →
        stack.feedAll tagged = (.ok [], stack) := by
  constructor
  · rw [← map_snd_taggedPlaces, ← Stack.balance_eq_nil_iff, ← structuralFindings_eq_balance,
      structuralFindings, List.filter_eq_nil_iff]
    simp only [Bool.not_eq_true]
  · intro tagged stack h
    exact Stack.feedAll_of_balanced h stack

theorem paragraph_is_balanced_on_any_stack :
    let place : Place := ⟨7, "<p>a<br></br><img/></p>"⟩
    let tagged : List (Place × Tag) := [(place, ⟨"p", false, ""⟩), (place, ⟨"br", false, ""⟩),
      (place, ⟨"br", true, ""⟩), (place, ⟨"img", false, "/"⟩), (place, ⟨"p", true, ""⟩)]
    let stack : Stack := [⟨"td", ⟨3, "<td>"⟩⟩, ⟨"table", ⟨0, ""⟩⟩]
    Balanced (tagged.map Prod.snd) ∧ stack.feedAll tagged = (.ok [], stack) := by
  intro place tagged stack
  have hneutral : Balanced [⟨"br", false, ""⟩, ⟨"br", true, ""⟩, ⟨"img", false, "/"⟩] :=
    .neutral (by decide) (.neutral (by decide) (.neutral (by decide) .nil))
  have hb : Balanced (tagged.map Prod.snd) :=
    @Balanced.pair ⟨"p", false, ""⟩ ⟨"p", true, ""⟩ _ _ (by decide) (by decide) rfl hneutral .nil
  exact ⟨hb, (no_structural_finding_iff_balanced "").2 tagged stack hb⟩

end MailMarkup
