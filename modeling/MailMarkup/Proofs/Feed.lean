import MailMarkup.Proofs.Settle

namespace MailMarkup

theorem admitAll_of_placed {found : List Finding} (h : ∀ f ∈ found, f.isPlaced = true) :
    admitAll found = .ok found := by
  unfold admitAll
  rw [if_pos (List.all_eq_true.mpr h)]

theorem admitAll_of_not_placed {found : List Finding} (h : ¬∀ f ∈ found, f.isPlaced = true) :
    admitAll found = .error [⟨[.key "line_number"], .atLeast 1⟩] := by
  unfold admitAll
  rw [if_neg (fun hall => h (List.all_eq_true.mp hall))]

section Attempt

variable {α σ : Type}

def andThen (r : Except (List Fault) (List Finding) × σ)
    (next : σ → Except (List Fault) (List Finding) × σ) :
    Except (List Fault) (List Finding) × σ :=
  match r with
  | (.error faults, s) => (.error faults, s)
  | (.ok found, s) =>
    match next s with
    | (.error faults, s) => (.error faults, s)
    | (.ok later, s) => (.ok (found ++ later), s)

theorem andThen_of_error {r : Except (List Fault) (List Finding) × σ} {faults : List Fault}
    (h : r.1 = .error faults) (next : σ → Except (List Fault) (List Finding) × σ) :
    (andThen r next).1 = .error faults := by
  obtain ⟨result, s⟩ := r
  cases h
  rfl

theorem andThen_of_next_error {s : σ} {next : σ → Except (List Fault) (List Finding) × σ}
    {faults : List Fault} (h : (next s).1 = .error faults) (found : List Finding) :
    (andThen (.ok found, s) next).1 = .error faults := by
  simp only [andThen]
  generalize next s = r at h
  obtain ⟨result, left⟩ := r
  cases h
  rfl

def attempt (step : σ → α → Except (List Fault) (List Finding) × σ) (s : σ) :
    List α → Except (List Fault) (List Finding) × σ
  | [] => (.ok [], s)
  | a :: as => andThen (step s a) fun s => attempt step s as

structure Admits (r : Except (List Fault) (List Finding) × σ) (o : List Finding × σ) : Prop where
  found : r.1 = admitAll o.1
  left : (∀ f ∈ o.1, f.isPlaced = true) → r.2 = o.2

theorem Admits.eq_ok {r : Except (List Fault) (List Finding) × σ} {o : List Finding × σ}
    (h : Admits r o) (hplaced : ∀ f ∈ o.1, f.isPlaced = true) : r = (.ok o.1, o.2) :=
  Prod.ext (h.found.trans (admitAll_of_placed hplaced)) (h.left hplaced)

theorem Admits.andThen {r : Except (List Fault) (List Finding) × σ} {o o' : List Finding × σ}
    {next : σ → Except (List Fault) (List Finding) × σ} (h : Admits r o)
    (h' : Admits (next o.2) o') : Admits (andThen r next) (o.1 ++ o'.1, o'.2) := by
  by_cases hplaced : ∀ f ∈ o.1, f.isPlaced = true
  · rw [h.eq_ok hplaced]
    by_cases hplaced' : ∀ f ∈ o'.1, f.isPlaced = true
    · have hall := List.forall_mem_append.mpr ⟨hplaced, hplaced'⟩
      simp only [MailMarkup.andThen, h'.eq_ok hplaced']
      exact ⟨(admitAll_of_placed hall).symm, fun _ => rfl⟩
    · have hall : ¬∀ f ∈ o.1 ++ o'.1, f.isPlaced = true :=
        fun hall => hplaced' (List.forall_mem_append.mp hall).2
      have herror := h'.found.trans (admitAll_of_not_placed hplaced')
      refine ⟨?_, fun h => absurd h hall⟩
      rw [admitAll_of_not_placed hall, andThen_of_next_error herror]
  · have hall : ¬∀ f ∈ o.1 ++ o'.1, f.isPlaced = true :=
      fun hall => hplaced (List.forall_mem_append.mp hall).1
    have herror := h.found.trans (admitAll_of_not_placed hplaced)
    refine ⟨?_, fun h => absurd h hall⟩
    rw [admitAll_of_not_placed hall, andThen_of_error herror]

theorem Admits.attempt {step : σ → α → Except (List Fault) (List Finding) × σ}
    {total : σ → α → List Finding × σ} (h : ∀ s a, Admits (step s a) (total s a)) (s : σ)
    (as : List α) : Admits (attempt step s as) (trace total s as) := by
  induction as generalizing s with
  | nil => exact ⟨rfl, fun _ => rfl⟩
  | cons a as ih =>
    rw [trace_cons]
    exact (h s a).andThen (ih (total s a).2)

end Attempt

namespace Stack

theorem feed_admits (stack : Stack) (tag : Tag) (place : Place) :
    Admits (stack.feed tag place) (stack.settle tag place) where
  found := by
    unfold feed
    cases h : admitAll (stack.settle tag place).1 <;> simp [h]
  left hplaced := by
    simp only [feed, admitAll_of_placed hplaced]

theorem finish_admits (stack : Stack) : Admits stack.finish (stack.leftOpen, []) where
  found := by
    unfold finish
    cases admitAll stack.leftOpen <;> rfl
  left hplaced := by
    simp only [finish, admitAll_of_placed hplaced]

def feedAll (stack : Stack) (tagged : List (Place × Tag)) :
    Except (List Fault) (List Finding) × Stack :=
  attempt (fun stack t => stack.feed t.2 t.1) stack tagged

def feedAndFinish (tagged : List (Place × Tag)) : Except (List Fault) (List Finding) × Stack :=
  andThen (Stack.feedAll [] tagged) finish

def balance (tagged : List (Place × Tag)) : List Finding :=
  (Stack.run [] tagged).1 ++ (Stack.run [] tagged).2.leftOpen

theorem feedAll_admits (stack : Stack) (tagged : List (Place × Tag)) :
    Admits (stack.feedAll tagged) (stack.run tagged) :=
  Admits.attempt (fun stack t => stack.feed_admits t.2 t.1) stack tagged

theorem feedAndFinish_admits (tagged : List (Place × Tag)) :
    Admits (feedAndFinish tagged) (balance tagged, []) :=
  (feedAll_admits [] tagged).andThen (finish_admits _)

end Stack

end MailMarkup
