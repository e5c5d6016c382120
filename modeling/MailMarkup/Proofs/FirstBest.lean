import Mathlib.Data.Prod.Lex
import MailMarkup.Color.Contrast

namespace MailMarkup

namespace FloatOrder

open Float.Model (UnpackedFloat)

/-- Where a number lies among the others: negative ones below the zeros and positive ones above, by
exponent and mantissa, and the infinities at the ends. -/
def place : UnpackedFloat → ℤ ×ₗ ℤ ×ₗ ℤ
  | .infinity .negative => toLex (-2, toLex (0, 0))
  | .finite .negative m e _ => toLex (-1, toLex (-e, -m))
  | .zero _ => toLex (0, toLex (0, 0))
  | .finite .positive m e _ => toLex (1, toLex (e, m))
  | .infinity .positive => toLex (2, toLex (0, 0))
  | .notANumber => toLex (3, toLex (0, 0))

theorem compare_neg (i j : ℤ) : compare (-i) (-j) = (compare i j).swap := by
  rw [← Std.OrientedOrd.eq_swap]
  rcases lt_trichotomy i j with h | h | h
  · rw [compare_gt_iff_gt.mpr h, compare_gt_iff_gt.mpr (by omega)]
  · rw [compare_eq_iff_eq.mpr h.symm, compare_eq_iff_eq.mpr (by omega)]
  · rw [compare_lt_iff_lt.mpr h, compare_lt_iff_lt.mpr (by omega)]

theorem compare_cast (m n : ℕ) : compare (m : ℤ) n = compare m n := by
  rcases lt_trichotomy m n with h | h | h
  · rw [compare_lt_iff_lt.mpr h, compare_lt_iff_lt.mpr (by omega)]
  · rw [compare_eq_iff_eq.mpr h, compare_eq_iff_eq.mpr (by omega)]
  · rw [compare_gt_iff_gt.mpr h, compare_gt_iff_gt.mpr (by omega)]

theorem compare_eq_place {a b : UnpackedFloat} (ha : a ≠ .notANumber) (hb : b ≠ .notANumber) :
    a.compare b = some (compare (place a) (place b)) := by
  cases a with
  | notANumber => exact absurd rfl ha
  | infinity s =>
    cases b with
    | notANumber => exact absurd rfl hb
    | infinity t => cases s <;> cases t <;> rfl
    | zero t => cases s <;> rfl
    | finite t m e => cases s <;> cases t <;> rfl
  | zero s =>
    cases b with
    | notANumber => exact absurd rfl hb
    | infinity t => cases t <;> rfl
    | zero t => rfl
    | finite t m e => cases t <;> rfl
  | finite s m e hm =>
    cases b with
    | notANumber => exact absurd rfl hb
    | infinity t => cases s <;> cases t <;> rfl
    | zero t => cases s <;> rfl
    | finite t n f hn =>
      cases s with
      | positive =>
        cases t with
        | positive =>
          change some ((compare e f).then (compare m n)) =
            some ((compare e f).then (compare (m : ℤ) n))
          rw [compare_cast]
        | negative => rfl
      | negative =>
        cases t with
        | positive => rfl
        | negative =>
          change some ((compare e f).then (compare m n)).swap =
            some ((compare (-e) (-f)).then (compare (-(m : ℤ)) (-n)))
          rw [compare_neg, compare_neg, compare_cast, Ordering.swap_then]

def rank (x : Float) : ℤ ×ₗ ℤ ×ₗ ℤ := place x.toModel.unpack

def IsNumber (x : Float) : Prop := x.toModel.unpack ≠ .notANumber

theorem isNumber_of_lt {x y : Float} (h : x < y) : IsNumber y := by
  intro hnan
  have hlt : (x.toModel.unpack.compare y.toModel.unpack == some .lt) = true := of_decide_eq_true h
  have hnone (a : UnpackedFloat) : a.compare .notANumber = none := by
    cases a <;> rfl
  rw [hnan, hnone] at hlt
  cases hlt

theorem lt_iff_rank_lt {x y : Float} (hx : IsNumber x) (hy : IsNumber y) :
    x < y ↔ rank x < rank y := by
  have hdef : x < y ↔ (x.toModel.unpack.compare y.toModel.unpack == some .lt) = true :=
    decide_eq_true_iff
  rw [hdef, compare_eq_place hx hy, beq_iff_eq, Option.some.injEq]
  exact compare_lt_iff_lt

theorem le_iff_rank_le {x y : Float} (hx : IsNumber x) (hy : IsNumber y) :
    x ≤ y ↔ rank x ≤ rank y := by
  have hdef : x ≤ y ↔ (x.toModel.unpack.compare y.toModel.unpack).any (·.isLE) = true :=
    decide_eq_true_iff
  rw [hdef, compare_eq_place hx hy, Option.any_some, Ordering.isLE_iff_ne_gt]
  exact compare_le_iff_le

end FloatOrder

namespace Contrast

def IsFirstBest {α ρ : Type} [LinearOrder ρ] (value : α → ρ) (candidates : List α) (best : α) :
    Prop :=
  ∃ before after, candidates = before ++ best :: after ∧ (∀ c ∈ before, value c < value best) ∧
    ∀ c ∈ after, value c ≤ value best

section Search

variable {α ρ : Type} [LinearOrder ρ] {value : α → ρ} {searched : List α} {best : α}

theorem IsFirstBest.le (h : IsFirstBest value searched best) :
    ∀ c ∈ searched, value c ≤ value best := by
  obtain ⟨before, after, rfl, hbefore, hafter⟩ := h
  intro c hc
  rcases List.mem_append.mp hc with hc | hc
  · exact (hbefore c hc).le
  · rcases List.mem_cons.mp hc with rfl | hc
    · exact le_rfl
    · exact hafter c hc

theorem IsFirstBest.beaten (h : IsFirstBest value searched best) {c : α}
    (hc : value best < value c) : IsFirstBest value (searched ++ [c]) c := by
  refine ⟨searched, [], rfl, ?_, List.forall_mem_nil _⟩
  intro d hd
  exact lt_of_le_of_lt (h.le d hd) hc

theorem IsFirstBest.kept (h : IsFirstBest value searched best) {c : α}
    (hc : value c ≤ value best) : IsFirstBest value (searched ++ [c]) best := by
  obtain ⟨before, after, rfl, hbefore, hafter⟩ := h
  refine ⟨before, after ++ [c], by simp, hbefore, ?_⟩
  intro d hd
  rcases List.mem_append.mp hd with hd | hd
  · exact hafter d hd
  · rw [List.mem_singleton.mp hd]
    exact hc

variable {σ : Type} [LT σ] [DecidableLT σ] {rank : σ → ρ} {IsScore : σ → Prop}
  (hrank : ∀ {x y}, IsScore x → IsScore y → (x < y ↔ rank x < rank y)) {score : α → σ}
include hrank

theorem foldl_isFirstBest {candidates : List α}
    (hscore : ∀ c ∈ searched ++ candidates, IsScore (score c))
    (h : IsFirstBest (rank ∘ score) searched best) :
    IsFirstBest (rank ∘ score) (searched ++ candidates)
      (candidates.foldl (fun best c => if best.2 < score c then (c, score c) else best)
        (best, score best)).1 := by
  induction candidates generalizing searched best with
  | nil =>
    rw [List.append_nil]
    exact h
  | cons c candidates ih =>
    have hbest : IsScore (score best) := by
      obtain ⟨before, after, rfl, -, -⟩ := h
      exact hscore best (by simp)
    have hstep := hrank hbest (hscore c (by simp))
    rw [List.append_cons] at hscore ⊢
    rw [List.foldl_cons]
    by_cases hc : score best < score c
    · rw [if_pos hc]
      exact ih hscore (h.beaten (hstep.mp hc))
    · rw [if_neg hc]
      exact ih hscore (h.kept (not_lt.mp (mt hstep.mpr hc)))

theorem firstBest_isFirstBest {candidates : List α} {bar : σ} (hne : candidates ≠ [])
    (hscore : ∀ c ∈ candidates, IsScore (score c)) (hbar : ∀ c ∈ candidates, bar < score c)
    (fallback : α) :
    IsFirstBest (rank ∘ score) candidates (firstBest score fallback bar candidates) := by
  obtain ⟨c, candidates, rfl⟩ := List.exists_cons_of_ne_nil hne
  -- the first candidate is above the bar, so the search goes on with it
  rw [firstBest, List.foldl_cons, if_pos (hbar c List.mem_cons_self)]
  have hfirst : IsFirstBest (rank ∘ score) [c] c :=
    ⟨[], [], rfl, List.forall_mem_nil _, List.forall_mem_nil _⟩
  have hall : ∀ d ∈ [c] ++ candidates, IsScore (score d) := hscore
  exact foldl_isFirstBest hrank hall hfirst

end Search

section Modes

open FloatOrder (rank IsNumber lt_iff_rank_lt le_iff_rank_le)

variable {contrast : Rgb → Rgb → Float} {background c : Rgb}
  (hlight : 0.0 < contrast c background) (hdark : 0.0 < contrast c.invert background.invert)
include hlight hdark

theorem lt_worst : 0.0 < worst contrast background c := by
  rw [worst]
  split
  · exact hdark
  · exact hlight

theorem isNumber_worst : IsNumber (worst contrast background c) :=
  FloatOrder.isNumber_of_lt (lt_worst hlight hdark)

theorem worst_is_smaller :
    worst contrast background c ≤ contrast c background ∧
      worst contrast background c ≤ contrast c.invert background.invert ∧
      (worst contrast background c = contrast c background ∨
        worst contrast background c = contrast c.invert background.invert) := by
  have hl := FloatOrder.isNumber_of_lt hlight
  have hd := FloatOrder.isNumber_of_lt hdark
  by_cases h : contrast c.invert background.invert < contrast c background
  · have hworst : worst contrast background c = contrast c.invert background.invert := if_pos h
    rw [hworst]
    exact ⟨(le_iff_rank_le hd hl).mpr ((lt_iff_rank_lt hd hl).mp h).le,
      (le_iff_rank_le hd hd).mpr le_rfl, Or.inr rfl⟩
  · have hworst : worst contrast background c = contrast c background := if_neg h
    rw [hworst]
    exact ⟨(le_iff_rank_le hl hl).mpr le_rfl,
      (le_iff_rank_le hl hd).mpr (not_lt.mp (mt (lt_iff_rank_lt hd hl).mpr h)), Or.inl rfl⟩

end Modes

theorem shade_mem_shades (text : Rgb) {step : Nat} (h : step ≤ 100) :
    shade text step ∈ shades text :=
  List.mem_map.mpr ⟨step, List.mem_range.mpr (Nat.lt_succ_of_le h), rfl⟩

theorem shade_of_split {text c : Rgb} {before after : List Rgb}
    (h : shades text = before ++ c :: after) :
    before.length ≤ 100 ∧ c = shade text before.length ∧
      ∀ step < before.length, shade text step ∈ before := by
  have hlength := congrArg List.length h
  simp only [shades, List.length_map, List.length_range, List.length_append,
    List.length_cons] at hlength
  have hat (step : Nat) (hstep : step ≤ 100) :
      (before ++ c :: after)[step]? = some (shade text step) := by
    rw [← h, shades, List.getElem?_map, List.getElem?_range (by omega), Option.map_some]
  refine ⟨by omega, ?_, ?_⟩
  · have hbest := hat before.length (by omega)
    rw [List.getElem?_append_right le_rfl, Nat.sub_self, List.getElem?_cons_zero] at hbest
    exact Option.some.inj hbest
  · intro step hstep
    have hearlier := hat step (by omega)
    rw [List.getElem?_append_left hstep] at hearlier
    exact List.mem_of_getElem? hearlier

/-- The search keeps the first of the best candidates, and never what it starts with. So the shade
that is suggested reads at least as well as each of the others in the mode in which it reads worse,
and better than every darker one. -/
theorem search_keeps_first_of_the_best :
    (∀ {α σ : Type} [LinearOrder σ] (score : α → σ) (fallback : α) (bar : σ) (candidates : List α),
      candidates ≠ [] → (∀ c ∈ candidates, bar < score c) →
        IsFirstBest score candidates (firstBest score fallback bar candidates)) ∧
    (∀ text background, suggest text background = suggestBy Rgb.contrast 0.0 text background) ∧
    ∀ (contrast : Rgb → Rgb → Float) (text background : Rgb),
      (∀ c ∈ shades text,
        0.0 < contrast c background ∧ 0.0 < contrast c.invert background.invert) →
      let worse := fun step => worst contrast background (shade text step)
      (∀ step ≤ 100, worse step ≤ contrast (shade text step) background ∧
        worse step ≤ contrast (shade text step).invert background.invert ∧
        (worse step = contrast (shade text step) background ∨
          worse step = contrast (shade text step).invert background.invert)) ∧
      ∃ best ≤ 100, suggestBy contrast 0.0 text background = shade text best ∧
        ∀ step ≤ 100, worse step ≤ worse best ∧ (step < best → worse step < worse best) := by
  refine ⟨?_, fun text background => rfl, ?_⟩
  · intro α σ _ score fallback bar candidates hne hbar
    have hrank : ∀ {x y : σ}, True → True → (x < y ↔ id x < id y) := fun _ _ => Iff.rfl
    exact firstBest_isFirstBest hrank hne (fun _ _ => trivial) hbar fallback
  · intro contrast text background hratio worse
    have hshade {step : Nat} (hstep : step ≤ 100) := hratio _ (shade_mem_shades text hstep)
    have hnumber {step : Nat} (hstep : step ≤ 100) : FloatOrder.IsNumber (worse step) :=
      isNumber_worst (hshade hstep).1 (hshade hstep).2
    refine ⟨fun step hstep => worst_is_smaller (hshade hstep).1 (hshade hstep).2, ?_⟩
    have hne : shades text ≠ [] := List.ne_nil_of_mem (shade_mem_shades text (Nat.zero_le 100))
    have hbest : IsFirstBest (FloatOrder.rank ∘ worst contrast background) (shades text)
        (suggestBy contrast 0.0 text background) :=
      firstBest_isFirstBest FloatOrder.lt_iff_rank_lt hne
        (fun c hc => isNumber_worst (hratio c hc).1 (hratio c hc).2)
        (fun c hc => lt_worst (hratio c hc).1 (hratio c hc).2) text
    have hle := hbest.le
    obtain ⟨before, after, hsplit, hdarker, -⟩ := hbest
    obtain ⟨hlength, hshown, hmem⟩ := shade_of_split hsplit
    rw [hshown] at hle hdarker
    refine ⟨before.length, hlength, hshown, ?_⟩
    intro step hstep
    constructor
    · exact (FloatOrder.le_iff_rank_le (hnumber hstep) (hnumber hlength)).mpr
        (hle _ (shade_mem_shades text hstep))
    · intro hearlier
      exact (FloatOrder.lt_iff_rank_lt (hnumber hstep) (hnumber hlength)).mpr
        (hdarker _ (hmem step hearlier))

theorem first_of_two_fours_is_kept :
    (IsFirstBest (· % 5) [1, 9, 4, 3] (firstBest (· % 5) 7 0 [1, 9, 4, 3]) ∧
      firstBest (· % 5) 7 0 [1, 9, 4, 3] = 9) ∧
    let contrast := fun a b : Rgb => if a = b then (1.0 : Float) else 2.5
    let worse := fun step => worst contrast ⟨255, 255, 255⟩ (shade ⟨128, 0, 0⟩ step)
    ∃ best ≤ 100, suggestBy contrast 0.0 ⟨128, 0, 0⟩ ⟨255, 255, 255⟩ = shade ⟨128, 0, 0⟩ best ∧
      ∀ step ≤ 100, worse step ≤ worse best ∧ (step < best → worse step < worse best) := by
  constructor
  · exact ⟨search_keeps_first_of_the_best.1 _ _ _ _ (by decide) (by decide), by decide⟩
  · intro contrast worse
    have hratio (a b : Rgb) : 0.0 < contrast a b := by
      simp only [contrast]
      split <;> decide +kernel
    exact (search_keeps_first_of_the_best.2.2 contrast ⟨128, 0, 0⟩ ⟨255, 255, 255⟩
      (fun c _ => ⟨hratio c _, hratio c.invert _⟩)).2

end Contrast

end MailMarkup
