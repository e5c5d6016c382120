import MailMarkup.Proofs.Keyword
import MailMarkup.Proofs.RgbFunction

namespace MailMarkup.Rgb

def IsHexDigit (d : Char) (n : Nat) : Prop := n < 16 ∧ d.toLower = Nat.digitChar n

/-- Six digits, two for each channel, or three of which each counts twice. -/
inductive HexDigits : List Char → Rgb → Prop
  | six {r r' g g' b b' : Char} {m m' n n' k k' : Nat} (hr : IsHexDigit r m)
      (hr' : IsHexDigit r' m') (hg : IsHexDigit g n) (hg' : IsHexDigit g' n') (hb : IsHexDigit b k)
      (hb' : IsHexDigit b' k') :
      HexDigits [r, r', g, g', b, b'] ⟨16 * m + m', 16 * n + n', 16 * k + k'⟩
  | three {r g b : Char} {c : Rgb} (h : HexDigits [r, r, g, g, b, b] c) : HexDigits [r, g, b] c

def IsHex (cs : List Char) (c : Rgb) : Prop :=
  HexDigits cs c ∨ ∃ digits, cs = '#' :: digits ∧ HexDigits digits c

theorem toNat_of_hexValue? {d : Char} {n : Nat} (h : hexValue? d = some n) : d.toNat < 0x80 := by
  unfold hexValue? at h
  split at h
  · rename_i hd
    have hle : d.toNat ≤ 57 := (Char.isDigit_iff_toNat.mp hd).2
    omega
  · split at h
    · rename_i hd
      have hle : d.toNat ≤ 102 := UInt32.le_iff_toNat_le.mp hd.2
      omega
    · split at h
      · rename_i hd
        have hle : d.toNat ≤ 70 := UInt32.le_iff_toNat_le.mp hd.2
        omega
      · cases h

theorem IsHexDigit.toNat_lt {d : Char} {n : Nat} (h : IsHexDigit d n) : d.toNat < 0x80 := by
  have hdigit : ∀ m : Fin 16, (Nat.digitChar m).toNat < 0x80 := by decide
  by_cases hc : d.val ≥ 'A'.val ∧ d.val ≤ 'Z'.val
  · have hle : d.toNat ≤ 90 := UInt32.le_iff_toNat_le.mp hc.2
    omega
  · have hsame : d.toLower = d := dif_neg hc
    rw [← hsame, h.2]
    exact hdigit ⟨n, h.1⟩

theorem hexValue?_eq_some_iff {d : Char} {n : Nat} : hexValue? d = some n ↔ IsHexDigit d n := by
  constructor
  · intro h
    have hall := of_ascii (p := fun d => (hexValue? d).all
      (fun m => decide (m < 16 ∧ d.toLower = Nat.digitChar m)) = true) (by decide +kernel)
      (toNat_of_hexValue? h)
    rw [h, Option.all_some, decide_eq_true_eq] at hall
    exact hall
  · intro h
    exact of_ascii (p := fun d => ∀ m : Fin 16,
      d.toLower = Nat.digitChar m → hexValue? d = some m.val) (by decide +kernel) h.toNat_lt
      ⟨n, h.1⟩ h.2

theorem mapM_hexValue?_eq_some_iff {digits : List Char} {values : List Nat} :
    digits.mapM hexValue? = some values ↔ List.Forall₂ IsHexDigit digits values := by
  induction digits generalizing values with
  | nil =>
    rw [List.mapM_nil, List.forall₂_nil_left_iff, eq_comm]
    exact Option.some_inj
  | cons d digits ih =>
    rw [List.mapM_cons, List.forall₂_cons_left_iff]
    simp only [Option.bind_eq_bind, Option.bind_eq_some_iff, hexValue?_eq_some_iff, ih,
      Option.pure_def, Option.some.injEq]
    constructor
    · rintro ⟨n, hn, rest, hrest, rfl⟩
      exact ⟨n, rest, hn, hrest, rfl⟩
    · rintro ⟨n, rest, hn, hrest, rfl⟩
      exact ⟨n, hn, rest, hrest, rfl⟩

theorem IsHexDigit.unique {d : Char} {m n : Nat} (hm : IsHexDigit d m) (hn : IsHexDigit d n) :
    m = n := by
  rw [← hexValue?_eq_some_iff] at hm hn
  exact Option.some.inj (hm.symm.trans hn)

theorem digit_counted_twice (n : Nat) : (17 * n : Int) = 16 * n + n := by omega

theorem hexDigits_of_ofHex? {digits : List Char} {c : Rgb} (h : ofHex? ('#' :: digits) = some c) :
    HexDigits digits c := by
  simp only [ofHex?, List.head?_cons, beq_self_eq_true, ↓reduceIte, List.tail_cons] at h
  split at h
  · rename_i r g b hvalues
    obtain rfl := Option.some.inj h
    rw [mapM_hexValue?_eq_some_iff] at hvalues
    rcases hvalues with _ | ⟨hr, _ | ⟨hg, _ | ⟨hb, _ | _⟩⟩⟩
    rw [digit_counted_twice, digit_counted_twice, digit_counted_twice]
    exact .three (.six hr hr hg hg hb hb)
  · rename_i r r' g g' b b' hvalues
    obtain rfl := Option.some.inj h
    rw [mapM_hexValue?_eq_some_iff] at hvalues
    rcases hvalues with _ | ⟨hr, _ | ⟨hr', _ | ⟨hg, _ | ⟨hg', _ | ⟨hb, _ | ⟨hb', _ | _⟩⟩⟩⟩⟩⟩
    exact .six hr hr' hg hg' hb hb'
  · cases h

theorem ofHex?_of_hexDigits {digits : List Char} {c : Rgb} (h : HexDigits digits c) :
    ofHex? ('#' :: digits) = some c := by
  simp only [ofHex?, List.head?_cons, beq_self_eq_true, ↓reduceIte, List.tail_cons]
  cases h with
  | six hr hr' hg hg' hb hb' =>
    rw [mapM_hexValue?_eq_some_iff.mpr
      (.cons hr (.cons hr' (.cons hg (.cons hg' (.cons hb (.cons hb' .nil))))))]
  | three h =>
    cases h with
    | six hr hr' hg hg' hb hb' =>
      obtain rfl := hr.unique hr'
      obtain rfl := hg.unique hg'
      obtain rfl := hb.unique hb'
      rw [mapM_hexValue?_eq_some_iff.mpr (.cons hr (.cons hg (.cons hb .nil))),
        ← digit_counted_twice, ← digit_counted_twice, ← digit_counted_twice]

theorem HexDigits.exists_head {digits : List Char} {c : Rgb} (h : HexDigits digits c) :
    ∃ d n rest, digits = d :: rest ∧ IsHexDigit d n := by
  cases h with
  | six hr => exact ⟨_, _, _, rfl, hr⟩
  | three h =>
    cases h with
    | six hr => exact ⟨_, _, _, rfl, hr⟩

theorem ofHex?_eq_some_iff {cs : List Char} {c : Rgb} : ofHex? cs = some c ↔ IsHex cs c := by
  by_cases hhash : cs.head? = some '#'
  · obtain ⟨digits, rfl⟩ := List.head?_eq_some_iff.mp hhash
    constructor
    · intro h
      exact Or.inr ⟨digits, rfl, hexDigits_of_ofHex? h⟩
    · rintro (h | ⟨digits', hcs, h⟩)
      · obtain ⟨d, n, rest, hcs, hd⟩ := h.exists_head
        rw [← (List.cons.inj hcs).1, ← hexValue?_eq_some_iff] at hd
        cases hd
      · rw [(List.cons.inj hcs).2]
        exact ofHex?_of_hexDigits h
  · -- without the hash the digits are the whole text
    have hread : ofHex? cs = ofHex? ('#' :: cs) := by simp [ofHex?, hhash]
    rw [hread]
    constructor
    · intro h
      exact Or.inl (hexDigits_of_ofHex? h)
    · rintro (h | ⟨digits, rfl, -⟩)
      · exact ofHex?_of_hexDigits h
      · exact absurd rfl hhash

structure IsChannel (ds : List Char) : Prop where
  ne_nil : ds ≠ []
  length_le : ds.length ≤ 3
  isDigit : ∀ d ∈ ds, Text.isDigit d = true

def IsGap (gap : List Char) : Prop :=
  ∃ front mark back, gap = front ++ mark :: back ∧ (mark = ',' ∨ mark = ' ') ∧
    (∀ c ∈ front, Text.isBlank c = true) ∧ ∀ c ∈ back, Text.isBlank c = true

theorem isDigit_of_isBlank {c : Char} (h : Text.isBlank c = true) : Text.isDigit c = false :=
  Text.of_isBlank (p := fun c => Text.isDigit c = false) (by decide +kernel) h

theorem comma_not_mem {run : List Char} (h : ∀ c ∈ run, Text.isBlank c = true) : ',' ∉ run :=
  fun hmem => absurd (h ',' hmem) (by decide)

theorem IsGap.isBlank_or_comma {gap : List Char} (h : IsGap gap) :
    ∀ c ∈ gap, Text.isBlank c = true ∨ c = ',' := by
  obtain ⟨front, mark, back, rfl, hmark, hfront, hback⟩ := h
  intro c hc
  rcases List.mem_append.mp hc with hc | hc
  · exact Or.inl (hfront c hc)
  · rcases List.mem_cons.mp hc with rfl | hc
    · rcases hmark with rfl | rfl
      · exact Or.inr rfl
      · exact Or.inl (by decide)
    · exact Or.inl (hback c hc)

theorem IsGap.isDigit_eq_false {gap : List Char} (h : IsGap gap) :
    ∀ c ∈ gap, Text.isDigit c = false := by
  intro c hc
  rcases h.isBlank_or_comma c hc with hblank | rfl
  · exact isDigit_of_isBlank hblank
  · decide

theorem IsGap.span {gap cs : List Char} (h : IsGap gap)
    (hcs : ∀ c ∈ cs.head?, Text.isDigit c = true) :
    (gap ++ cs).takeWhile (fun c => !Text.isDigit c) = gap ∧
      (gap ++ cs).dropWhile (fun c => !Text.isDigit c) = cs := by
  apply span_of_head
  · intro c hc
    rw [h.isDigit_eq_false c hc, Bool.not_false]
  · intro c hc
    rw [hcs c hc, Bool.not_true]

theorem isSeparator_iff {gap : List Char} : isSeparator gap = true ↔ IsGap gap := by
  simp only [isSeparator, Bool.and_eq_true, Bool.or_eq_true, List.all_eq_true, beq_iff_eq,
    decide_eq_true_eq, List.contains_iff_mem]
  constructor
  · rintro ⟨⟨hall, hcount⟩, hmark⟩
    have hblank {run : List Char} (hsub : run ⊆ gap) (hcomma : ',' ∉ run) :
        ∀ c ∈ run, Text.isBlank c = true := by
      intro c hc
      rcases hall c (hsub hc) with hblank | rfl
      · exact hblank
      · exact absurd hc hcomma
    by_cases hcomma : ',' ∈ gap
    · obtain ⟨front, back, rfl, hfront⟩ := List.eq_append_cons_of_mem hcomma
      have hback : ',' ∉ back := by
        rw [List.count_append, List.count_cons_self] at hcount
        exact List.count_eq_zero.mp (by omega)
      exact ⟨front, ',', back, rfl, Or.inl rfl, hblank (List.subset_append_left _ _) hfront,
        hblank (fun c hc => by simp [hc]) hback⟩
    · obtain ⟨front, back, rfl⟩ := List.append_of_mem (hmark.resolve_left hcomma)
      have hall := hblank (List.Subset.refl _) hcomma
      exact ⟨front, ' ', back, rfl, Or.inr rfl, fun c hc => hall c (by simp [hc]),
        fun c hc => hall c (by simp [hc])⟩
  · intro h
    refine ⟨⟨h.isBlank_or_comma, ?_⟩, ?_⟩
    · obtain ⟨front, mark, back, rfl, -, hfront, hback⟩ := h
      rw [List.count_append, List.count_cons, List.count_eq_zero.mpr (comma_not_mem hfront),
        List.count_eq_zero.mpr (comma_not_mem hback)]
      split <;> omega
    · obtain ⟨front, mark, back, rfl, rfl | rfl, -, -⟩ := h
      · exact Or.inl (by simp)
      · exact Or.inr (by simp)

theorem channel?_eq_some_iff {cs rest : List Char} {n : Nat} :
    channel? cs = some (n, rest) ↔ ∃ ds, cs = ds ++ rest ∧ IsChannel ds ∧ Text.number ds = n ∧
      ∀ c ∈ rest.head?, Text.isDigit c = false := by
  constructor
  · intro h
    simp only [channel?, Bool.or_eq_true, List.isEmpty_iff, decide_eq_true_eq] at h
    split at h
    · cases h
    · rename_i hds
      rw [not_or, not_lt] at hds
      obtain ⟨rfl, rfl⟩ := Prod.mk.inj (Option.some.inj h)
      exact ⟨_, List.takeWhile_append_dropWhile.symm,
        ⟨hds.1, hds.2, fun d hd => List.mem_takeWhile_imp hd⟩, rfl, fun c hc => head_dropWhile hc⟩
  · rintro ⟨ds, rfl, hds, rfl, hrest⟩
    obtain ⟨htake, hdrop⟩ := span_of_head hds.isDigit hrest
    have hlength := hds.length_le
    simp only [channel?, htake, hdrop]
    rw [if_neg (by simp [hds.ne_nil]; omega)]

theorem separator?_eq_some_iff {cs rest : List Char} :
    separator? cs = some rest ↔
      ∃ gap, cs = gap ++ rest ∧ IsGap gap ∧ ∀ c ∈ rest.head?, Text.isDigit c = true := by
  constructor
  · intro h
    rw [separator?] at h
    split at h
    · rename_i hgap
      obtain rfl := Option.some.inj h
      refine ⟨_, List.takeWhile_append_dropWhile.symm, isSeparator_iff.mp hgap, ?_⟩
      intro c hc
      simpa using head_dropWhile hc
    · cases h
  · rintro ⟨gap, rfl, hgap, hrest⟩
    obtain ⟨htake, hdrop⟩ := hgap.span hrest
    rw [separator?, htake, hdrop, if_pos (isSeparator_iff.mpr hgap)]

/-- No longer run of at most three digits begins where the channel does. -/
def IsLongest (ds tail : List Char) : Prop :=
  ∀ es, es <+: ds ++ tail → IsChannel es → es.length ≤ ds.length

theorem IsChannel.prefix_digits {ds cs : List Char} (hds : IsChannel ds) (h : ds <+: cs) :
    ds <+: (cs.takeWhile Text.isDigit).take 3 := by
  obtain ⟨rest, rfl⟩ := h
  rw [List.takeWhile_append_of_pos hds.isDigit, List.prefix_take_iff]
  exact ⟨List.prefix_append _ _, hds.length_le⟩

theorem isDigit_of_mem_digits {cs : List Char} {d : Char}
    (h : d ∈ (cs.takeWhile Text.isDigit).take 3) : Text.isDigit d = true :=
  List.mem_takeWhile_imp (List.mem_of_mem_take h)

theorem digits_prefix_self (cs : List Char) : (cs.takeWhile Text.isDigit).take 3 <+: cs :=
  (List.take_prefix _ _).trans (List.takeWhile_prefix _)

theorem IsLongest.digits_eq {ds tail : List Char} (hlongest : IsLongest ds tail)
    (hds : IsChannel ds) : ((ds ++ (tail ++ [')'])).takeWhile Text.isDigit).take 3 = ds := by
  have hinitial := hds.prefix_digits (List.prefix_append ds (tail ++ [')']))
  have hself := digits_prefix_self (ds ++ (tail ++ [')']))
  have hlength := List.length_take_le 3 ((ds ++ (tail ++ [')'])).takeWhile Text.isDigit)
  have hdigit : ∀ d ∈ ((ds ++ (tail ++ [')'])).takeWhile Text.isDigit).take 3,
      Text.isDigit d = true := fun _ => isDigit_of_mem_digits
  generalize ((ds ++ (tail ++ [')'])).takeWhile Text.isDigit).take 3 = es at *
  -- the parenthesis is no digit, so the digits end before it
  have hbefore : es <+: ds ++ tail := by
    rw [← List.append_assoc] at hself
    rcases List.prefix_concat_iff.mp hself with rfl | hbefore
    · exact absurd (hdigit ')' (by simp)) (by decide)
    · exact hbefore
  have hes : IsChannel es := ⟨List.ne_nil_of_length_pos (by
    have hpos := List.length_pos_iff.mpr hds.ne_nil
    have hle := hinitial.length_le
    omega), hlength, hdigit⟩
  exact (hinitial.eq_of_length_le (hlongest es hbefore hes)).symm

theorem lastChannel?_eq_some_iff {cs : List Char} {n : Nat} :
    lastChannel? cs = some n ↔ ∃ ds tail, cs = ds ++ (tail ++ [')']) ∧ IsChannel ds ∧
      IsLongest ds tail ∧ ')' ∉ tail ∧ Text.number ds = n := by
  constructor
  · intro h
    simp only [lastChannel?, Bool.or_eq_true, List.isEmpty_iff, bne_iff_ne, ne_eq] at h
    split at h
    · cases h
    · rename_i hds
      rw [not_or, not_not] at hds
      obtain ⟨hne, hparen⟩ := hds
      obtain rfl := Option.some.inj h
      have hcs := List.prefix_iff_eq_append.mp (digits_prefix_self cs)
      have htail := List.takeWhile_append_dropWhile (p := (· != ')'))
        (l := cs.drop ((cs.takeWhile Text.isDigit).take 3).length)
      rw [hparen] at htail
      refine ⟨_, _, by rw [htail, hcs],
        ⟨hne, List.length_take_le _ _, fun _ => isDigit_of_mem_digits⟩, ?_, ?_, rfl⟩
      · intro es hes hchannel
        have hwhole : es <+: cs := by
          rw [← hcs, ← htail, ← List.append_assoc]
          exact hes.trans (List.prefix_append _ _)
        exact (hchannel.prefix_digits hwhole).length_le
      · intro hmem
        simpa using List.mem_takeWhile_imp hmem
  · rintro ⟨ds, tail, rfl, hds, hlongest, htail, rfl⟩
    have hparen := (span_at htail []).2
    simp only [lastChannel?, hlongest.digits_eq hds, List.drop_left, hparen]
    rw [if_neg (by simp [hds.ne_nil])]

/-- What stands between the parentheses, with the closing one: three numbers, and whatever else
there is behind them. -/
structure Arguments where
  blanks : List Char
  red : List Char
  gap : List Char
  green : List Char
  gap' : List Char
  blue : List Char
  tail : List Char
  isBlank_blanks : ∀ c ∈ blanks, Text.isBlank c = true
  isChannel_red : IsChannel red
  isGap_gap : IsGap gap
  isChannel_green : IsChannel green
  isGap_gap' : IsGap gap'
  isChannel_blue : IsChannel blue
  isLongest_blue : IsLongest blue tail
  not_mem_tail : ')' ∉ tail

namespace Arguments

def fromBlue (args : Arguments) : List Char := args.blue ++ (args.tail ++ [')'])

def fromGreen (args : Arguments) : List Char := args.green ++ (args.gap' ++ args.fromBlue)

def fromRed (args : Arguments) : List Char := args.red ++ (args.gap ++ args.fromGreen)

def text (args : Arguments) : List Char := args.blanks ++ args.fromRed

def color (args : Arguments) : Rgb :=
  ⟨Text.number args.red, Text.number args.green, Text.number args.blue⟩

end Arguments

theorem IsChannel.head_isDigit {ds : List Char} (h : IsChannel ds) (cs : List Char) :
    ∀ c ∈ (ds ++ cs).head?, Text.isDigit c = true := by
  obtain ⟨d, ds, rfl⟩ := List.exists_cons_of_ne_nil h.ne_nil
  rintro c ⟨⟩
  exact h.isDigit d List.mem_cons_self

theorem IsGap.head_isDigit {gap : List Char} (h : IsGap gap) (cs : List Char) :
    ∀ c ∈ (gap ++ cs).head?, Text.isDigit c = false := by
  have hne : gap ≠ [] := by
    obtain ⟨front, mark, back, rfl, -⟩ := h
    simp
  have hdigit := h.isDigit_eq_false
  obtain ⟨d, gap, rfl⟩ := List.exists_cons_of_ne_nil hne
  rintro c ⟨⟩
  exact hdigit d List.mem_cons_self

theorem Arguments.dropWhile_text (args : Arguments) :
    args.text.dropWhile Text.isBlank = args.fromRed := by
  have hstop : ∀ c ∈ args.fromRed.head?, Text.isBlank c = false := by
    intro c hc
    have hdigit := args.isChannel_red.head_isDigit _ c hc
    rw [Bool.eq_false_iff]
    intro hblank
    rw [isDigit_of_isBlank hblank] at hdigit
    cases hdigit
  exact (span_of_head args.isBlank_blanks hstop).2

theorem channels?_eq_some_iff {cs : List Char} {r g b : Nat} :
    channels? cs = some (r, g, b) ↔ ∃ args : Arguments, cs = args.text ∧
      Text.number args.red = r ∧ Text.number args.green = g ∧ Text.number args.blue = b := by
  simp only [channels?, Option.bind_eq_bind, Option.bind_eq_some_iff, Prod.exists,
    channel?_eq_some_iff, separator?_eq_some_iff, lastChannel?_eq_some_iff, Option.pure_def,
    Option.some.injEq, Prod.mk.injEq]
  constructor
  · rintro ⟨_, _, ⟨red, hcs, hred, rfl, -⟩, _, ⟨gap, rfl, hgap, -⟩, _, _,
      ⟨green, rfl, hgreen, rfl, -⟩, _, ⟨gap', rfl, hgap', -⟩, _, ⟨blue, tail, rfl, hblue, hlongest, htail, rfl⟩, rfl, rfl, rfl⟩
    refine ⟨⟨cs.takeWhile Text.isBlank, red, gap, green, gap', blue, tail,
      fun c hc => List.mem_takeWhile_imp hc, hred, hgap, hgreen, hgap', hblue, hlongest, htail⟩, ?_,
      rfl, rfl, rfl⟩
    have hwhole := List.takeWhile_append_dropWhile (p := Text.isBlank) (l := cs)
    rw [hcs] at hwhole
    exact hwhole.symm
  · rintro ⟨args, rfl, rfl, rfl, rfl⟩
    refine ⟨_, args.gap ++ args.fromGreen, ⟨args.red, args.dropWhile_text, args.isChannel_red, rfl,
      args.isGap_gap.head_isDigit _⟩, args.fromGreen, ⟨args.gap, rfl, args.isGap_gap,
      args.isChannel_green.head_isDigit _⟩, _, args.gap' ++ args.fromBlue, ⟨args.green, rfl,
      args.isChannel_green, rfl, args.isGap_gap'.head_isDigit _⟩, args.fromBlue, ⟨args.gap', rfl,
      args.isGap_gap', args.isChannel_blue.head_isDigit _⟩, _, ⟨args.blue, args.tail, rfl,
      args.isChannel_blue, args.isLongest_blue, args.not_mem_tail, rfl⟩, rfl, rfl, rfl⟩

theorem Arguments.span_red (args : Arguments) :
    args.fromRed.takeWhile Text.isDigit = args.red ∧
      args.fromRed.dropWhile Text.isDigit = args.gap ++ args.fromGreen :=
  span_of_head args.isChannel_red.isDigit (args.isGap_gap.head_isDigit _)

theorem Arguments.span_green (args : Arguments) :
    args.fromGreen.takeWhile Text.isDigit = args.green ∧
      args.fromGreen.dropWhile Text.isDigit = args.gap' ++ args.fromBlue :=
  span_of_head args.isChannel_green.isDigit (args.isGap_gap'.head_isDigit _)

theorem Arguments.dropWhile_gap (args : Arguments) :
    (args.gap ++ args.fromGreen).dropWhile (fun c => !Text.isDigit c) = args.fromGreen :=
  (args.isGap_gap.span (args.isChannel_green.head_isDigit _)).2

theorem Arguments.dropWhile_gap' (args : Arguments) :
    (args.gap' ++ args.fromBlue).dropWhile (fun c => !Text.isDigit c) = args.fromBlue :=
  (args.isGap_gap'.span (args.isChannel_blue.head_isDigit _)).2

theorem Arguments.digits_unique {args args' : Arguments} (h : args.text = args'.text) :
    args.red = args'.red ∧ args.green = args'.green ∧ args.blue = args'.blue := by
  have hred : args.fromRed = args'.fromRed := by rw [← dropWhile_text, h, dropWhile_text]
  have hgreen : args.fromGreen = args'.fromGreen := by
    rw [← args.dropWhile_gap, ← args.span_red.2, hred, args'.span_red.2, args'.dropWhile_gap]
  have hblue : args.fromBlue = args'.fromBlue := by
    rw [← args.dropWhile_gap', ← args.span_green.2, hgreen, args'.span_green.2,
      args'.dropWhile_gap']
  refine ⟨?_, ?_, ?_⟩
  · rw [← args.span_red.1, hred, args'.span_red.1]
  · rw [← args.span_green.1, hgreen, args'.span_green.1]
  · rw [← args.isLongest_blue.digits_eq args.isChannel_blue, ← fromBlue, hblue, fromBlue,
      args'.isLongest_blue.digits_eq args'.isChannel_blue]

theorem inside?_eq_some_iff {cs inside : List Char} :
    (["rgb(", "rgba("].findSome? fun start =>
      if start.toList.isPrefixOf cs then some (cs.drop start.length) else none) = some inside ↔
      cs = "rgb(".toList ++ inside ∨ cs = "rgba(".toList ++ inside := by
  constructor
  · intro h
    obtain ⟨start, hmem, hstart⟩ := List.exists_of_findSome?_eq_some h
    split at hstart
    · rename_i hinitial
      obtain ⟨rest, rfl⟩ := List.isPrefixOf_iff_prefix.mp hinitial
      have hrest : rest = inside := by
        rw [← String.length_toList, List.drop_left] at hstart
        exact Option.some.inj hstart
      rw [List.mem_cons, List.mem_singleton] at hmem
      rcases hmem with rfl | rfl
      · exact Or.inl (by rw [hrest])
      · exact Or.inr (by rw [hrest])
    · cases hstart
  · rintro (rfl | rfl)
    · rfl
    · rfl

namespace Arguments

def IsInRange (args : Arguments) : Prop :=
  Text.number args.red ≤ 255 ∧ Text.number args.green ≤ 255 ∧ Text.number args.blue ≤ 255

def IsCall (args : Arguments) (cs : List Char) : Prop :=
  cs = "rgb(".toList ++ args.text ∨ cs = "rgba(".toList ++ args.text

end Arguments

theorem ofFunction?_eq_some_iff {cs : List Char} {c : Rgb} :
    ofFunction? cs = some c ↔
      ∃ args : Arguments, args.IsCall cs ∧ args.IsInRange ∧ args.color = c := by
  constructor
  · intro h
    dsimp only [ofFunction?] at h
    split at h
    · rename_i r g b hread
      obtain ⟨inside, hinside, hchannels⟩ := Option.bind_eq_some_iff.mp hread
      obtain ⟨args, rfl, rfl, rfl, rfl⟩ := channels?_eq_some_iff.mp hchannels
      split at h
      · rename_i hrange
        exact ⟨args, inside?_eq_some_iff.mp hinside, hrange, Option.some.inj h⟩
      · cases h
    · cases h
  · rintro ⟨args, hcall, hrange, rfl⟩
    have hchannels : channels? args.text =
        some (Text.number args.red, Text.number args.green, Text.number args.blue) :=
      channels?_eq_some_iff.mpr ⟨args, rfl, rfl, rfl, rfl⟩
    rw [ofFunction?, inside?_eq_some_iff.mpr hcall, Option.bind_some, hchannels]
    exact if_pos hrange

theorem head_lower {c : Char} (h : c.toNat < 0x80) (cs : List Char) :
    (Text.lower (c :: cs)).head? = some c.toLower := by
  rw [Text.lower, List.flatMap_cons, Text.lowerChar_ascii h]
  rfl

theorem IsHex.head_lower_ne {cs : List Char} {c : Rgb} (h : IsHex cs c) :
    (Text.lower cs).head? ≠ some 'r' := by
  rcases h with h | ⟨digits, rfl, -⟩
  · obtain ⟨d, n, rest, rfl, hd⟩ := h.exists_head
    have hdigit : ∀ m : Fin 16, Nat.digitChar m ≠ 'r' := by decide
    rw [head_lower hd.toNat_lt, hd.2]
    exact fun heq => hdigit ⟨n, hd.1⟩ (Option.some.inj heq)
  · rw [head_lower (by decide)]
    decide

theorem Arguments.IsCall.head_eq {args : Arguments} {cs : List Char} (h : args.IsCall cs) :
    cs.head? = some 'r' := by
  rcases h with rfl | rfl
  · rfl
  · rfl

theorem Arguments.IsCall.text_eq {args args' : Arguments} {cs : List Char} (h : args.IsCall cs)
    (h' : args'.IsCall cs) : args.text = args'.text := by
  rcases h with rfl | rfl
  · rcases h' with h' | h'
    · exact List.append_cancel_left h'
    · cases h'
  · rcases h' with h' | h'
    · cases h'
    · exact List.append_cancel_left h'

def read? (cs : List Char) : Option Rgb := (ofHex? cs).or (ofFunction? (Text.lower cs))

theorem parse_eq (text : String) :
    parse text = (read? (Text.trim text.toList)).elim (.error ⟨text⟩) .ok := by
  simp only [parse, read?]
  cases (ofHex? (Text.trim text.toList)).or (ofFunction? (Text.lower (Text.trim text.toList))) <;>
    rfl

theorem parse_eq_ok_iff {text : String} {c : Rgb} :
    parse text = .ok c ↔ read? (Text.trim text.toList) = some c := by
  rw [parse_eq]
  cases read? (Text.trim text.toList) <;> simp

theorem parse_eq_error {text : String} (h : ∀ c, parse text ≠ .ok c) :
    parse text = .error ⟨text⟩ := by
  cases hread : read? (Text.trim text.toList) with
  | none => rw [parse_eq, hread, Option.elim_none]
  | some c => exact absurd (parse_eq_ok_iff.mpr hread) (h c)

theorem read?_eq_some_iff {cs : List Char} {c : Rgb} :
    read? cs = some c ↔ IsHex cs c ∨ ∃ args : Arguments,
      args.IsCall (Text.lower cs) ∧ args.IsInRange ∧ args.color = c := by
  rw [read?, Option.or_eq_some_iff, ofHex?_eq_some_iff, ofFunction?_eq_some_iff]
  constructor
  · exact Or.imp_right And.right
  · rintro (hhex | ⟨args, hcall, hrange⟩)
    · exact Or.inl hhex
    · -- no text is read in both ways
      refine Or.inr ⟨?_, args, hcall, hrange⟩
      rw [Option.eq_none_iff_forall_not_mem]
      intro c' hc'
      exact (ofHex?_eq_some_iff.mp hc').head_lower_ne hcall.head_eq

/-- A text is a color exactly if it is one in hexadecimal digits, or in lower case a call with three
numbers up to 255, which are found in one way only. Any other text is quoted in the error. -/
theorem parse_reads_its_grammar (text : String) :
    let cs := Text.trim text.toList
    (∀ c, parse text = .ok c ↔ IsHex cs c ∨ ∃ args : Arguments,
      args.IsCall (Text.lower cs) ∧ args.IsInRange ∧ args.color = c) ∧
    (∀ args args' : Arguments, args.IsCall (Text.lower cs) → args'.IsCall (Text.lower cs) →
      args.red = args'.red ∧ args.green = args'.green ∧ args.blue = args'.blue) ∧
    ((¬ ∃ c, parse text = .ok c) →
      ∃ e, parse text = .error e ∧ e.message = "Unrecognised color '" ++ text ++ "'") := by
  intro cs
  refine ⟨?_, ?_, ?_⟩
  · intro c
    exact parse_eq_ok_iff.trans read?_eq_some_iff
  · intro args args' hcall hcall'
    exact Arguments.digits_unique (hcall.text_eq hcall')
  · intro hnone
    have herror := parse_eq_error (not_exists.mp hnone)
    exact ⟨⟨text⟩, herror, rfl⟩

end MailMarkup.Rgb
