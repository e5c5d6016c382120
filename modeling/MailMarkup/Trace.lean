namespace MailMarkup

variable {α β σ : Type}

def trace (step : σ → α → List β × σ) (s : σ) (as : List α) : List β × σ :=
  let r := as.foldl (fun acc a => let o := step acc.2 a; (o.1 :: acc.1, o.2)) ([], s)
  (r.1.reverse.flatten, r.2)

theorem foldl_collect (step : σ → α → List β × σ) (s : σ) (outs : List (List β)) (as : List α) :
    as.foldl (fun acc a => let o := step acc.2 a; (o.1 :: acc.1, o.2)) (outs, s) =
      ((as.foldl (fun acc a => let o := step acc.2 a; (o.1 :: acc.1, o.2)) ([], s)).1 ++ outs,
        (as.foldl (fun acc a => let o := step acc.2 a; (o.1 :: acc.1, o.2)) ([], s)).2) := by
  induction as generalizing s outs with
  | nil => simp
  | cons a as ih =>
    simp only [List.foldl_cons]
    rw [ih, ih (step s a).2 [(step s a).1]]
    simp

@[simp] theorem trace_nil (step : σ → α → List β × σ) (s : σ) : trace step s [] = ([], s) := rfl

theorem trace_cons (step : σ → α → List β × σ) (s : σ) (a : α) (as : List α) :
    trace step s (a :: as) =
      ((step s a).1 ++ (trace step (step s a).2 as).1, (trace step (step s a).2 as).2) := by
  simp only [trace, List.foldl_cons]
  rw [foldl_collect]
  simp

theorem trace_append (step : σ → α → List β × σ) (s : σ) (as bs : List α) :
    trace step s (as ++ bs) =
      ((trace step s as).1 ++ (trace step (trace step s as).2 bs).1,
        (trace step (trace step s as).2 bs).2) := by
  induction as generalizing s with
  | nil => simp
  | cons a as ih => simp [trace_cons, ih]

theorem exists_step_of_mem_trace {step : σ → α → List β × σ} {s : σ} {as : List α} {b : β}
    (h : b ∈ (trace step s as).1) : ∃ s' a, a ∈ as ∧ b ∈ (step s' a).1 := by
  induction as generalizing s with
  | nil => simp at h
  | cons a as ih =>
    rw [trace_cons, List.mem_append] at h
    rcases h with h | h
    · exact ⟨s, a, List.mem_cons_self, h⟩
    · obtain ⟨s', a', ha', hb⟩ := ih h
      exact ⟨s', a', List.mem_cons_of_mem a ha', hb⟩

theorem trace_invariant {step : σ → α → List β × σ} {keeps : σ → Prop} {yields : β → Prop}
    {as : List α}
    (hstep : ∀ s, keeps s → ∀ a ∈ as, (∀ b ∈ (step s a).1, yields b) ∧ keeps (step s a).2)
    {s : σ} (hs : keeps s) :
    (∀ b ∈ (trace step s as).1, yields b) ∧ keeps (trace step s as).2 := by
  induction as generalizing s with
  | nil => exact ⟨by simp, hs⟩
  | cons a as ih =>
    obtain ⟨hfirst, hkept⟩ := hstep s hs a List.mem_cons_self
    obtain ⟨hlater, hlast⟩ := ih (fun s hs a ha => hstep s hs a (List.mem_cons_of_mem _ ha)) hkept
    rw [trace_cons]
    exact ⟨List.forall_mem_append.mpr ⟨hfirst, hlater⟩, hlast⟩

/-- Two machines that agree on every step, up to renaming, agree on every run. -/
theorem trace_map {α' β' σ' : Type} {step : σ → α → List β × σ}
    {step' : σ' → α' → List β' × σ'} {f : σ → σ'} {g : α → α'} {h : β → β'} {as : List α}
    (hstep : ∀ s, ∀ a ∈ as, step' (f s) (g a) = ((step s a).1.map h, f (step s a).2)) (s : σ) :
    trace step' (f s) (as.map g) = ((trace step s as).1.map h, f (trace step s as).2) := by
  induction as generalizing s with
  | nil => rfl
  | cons a as ih =>
    have hrest := ih (fun s a ha => hstep s a (List.mem_cons_of_mem _ ha)) (step s a).2
    rw [List.map_cons, trace_cons, trace_cons, hstep s a List.mem_cons_self, hrest,
      List.map_append]

end MailMarkup
