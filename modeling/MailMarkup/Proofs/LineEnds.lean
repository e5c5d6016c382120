import Mathlib.Data.List.Basic
import MailMarkup.Line

namespace MailMarkup

theorem Text.pieces_append {p : Char → Bool} {c : Char} (hc : p c = true) (as bs : List Char) :
    pieces p (as ++ c :: bs) = pieces p as ++ pieces p bs := by
  induction as with
  | nil => simp [pieces_cons_of_pos hc]
  | cons a as ih =>
    cases ha : p a with
    | true =>
      rw [List.cons_append, pieces_cons_of_pos ha, pieces_cons_of_pos ha, ih, List.cons_append]
    | false =>
      obtain ⟨w, ws, hw⟩ := List.exists_cons_of_ne_nil (pieces_ne_nil p as)
      have hjoined : pieces p (as ++ c :: bs) = w :: (ws ++ pieces p bs) := by
        rw [ih, hw, List.cons_append]
      rw [List.cons_append, pieces_cons_of_neg ha hjoined, pieces_cons_of_neg ha hw,
        List.cons_append]

theorem Text.pieces_run {p : Char → Bool} {run cs w : List Char} {ws : List (List Char)}
    (h : ∀ c ∈ run, p c = false) (hw : pieces p cs = w :: ws) :
    pieces p (run ++ cs) = (run ++ w) :: ws := by
  induction run with
  | nil => exact hw
  | cons c run ih =>
    obtain ⟨hc, hrun⟩ := List.forall_mem_cons.mp h
    exact pieces_cons_of_neg hc (ih hrun)

theorem Text.pieces_of_free {p : Char → Bool} {cs : List Char} (h : ∀ c ∈ cs, p c = false) :
    pieces p cs = [cs] := by
  have hrun := pieces_run h (pieces_nil p)
  rwa [List.append_nil] at hrun

namespace Text

variable {old new : List Char}

theorem replaceFrom_eq (done : List Char) (skip : Nat) (cs : List Char) :
    replaceFrom old new done skip cs = done.reverse ++ replaceFrom old new [] skip cs := by
  induction cs generalizing done skip with
  | nil => simp [replaceFrom]
  | cons c cs ih =>
    cases skip with
    | succ skip => exact ih done skip
    | zero =>
      rw [replaceFrom, replaceFrom]
      split
      · rw [ih (new.reverse ++ done), ih (new.reverse ++ [])]
        simp
      · rw [ih (c :: done), ih [c]]
        simp

theorem replaceFrom_skip (done cs : List Char) (skip : Nat) :
    replaceFrom old new done skip cs = replaceFrom old new done 0 (cs.drop skip) := by
  induction cs generalizing skip with
  | nil => simp [replaceFrom]
  | cons c cs ih =>
    cases skip with
    | zero => rfl
    | succ skip => exact ih skip

theorem replaceAll_append (hold : old ≠ []) (cs : List Char) :
    replaceAll old new (old ++ cs) = new ++ replaceAll old new cs := by
  obtain ⟨c, rest, rfl⟩ := List.exists_cons_of_ne_nil hold
  have hstarts : (c :: rest).isPrefixOf (c :: (rest ++ cs)) = true := by
    rw [List.isPrefixOf_iff_prefix]
    exact List.prefix_append (c :: rest) cs
  rw [replaceAll, List.cons_append, replaceFrom, if_pos hstarts, replaceFrom_eq, replaceFrom_skip]
  simp [replaceAll]

theorem replaceAll_cons {c : Char} {cs : List Char} (h : ¬ old <+: c :: cs) :
    replaceAll old new (c :: cs) = c :: replaceAll old new cs := by
  rw [← List.isPrefixOf_iff_prefix] at h
  rw [replaceAll, replaceFrom, if_neg h, replaceFrom_eq]
  rfl

theorem replaceAll_singleton (a b : Char) (cs : List Char) :
    replaceAll [a] [b] cs = cs.map fun c => if c = a then b else c := by
  induction cs with
  | nil => rfl
  | cons c cs ih =>
    by_cases hc : c = a
    · have happend : replaceAll [a] [b] (a :: cs) = b :: replaceAll [a] [b] cs :=
        replaceAll_append (List.cons_ne_nil a []) cs
      rw [hc, happend, ih, List.map_cons, if_pos rfl]
    · rw [replaceAll_cons (by simpa [eq_comm] using hc), ih, List.map_cons, if_neg hc]

end Text

/-- Both replacements in one pass, behind a character. -/
def unifyAfter (before : Option Char) : List Char → List Char
  | [] => []
  | c :: cs =>
    if c = '\n' ∧ before = some '\r' then unifyAfter (some c) cs
    else (if c = '\r' then '\n' else c) :: unifyAfter (some c) cs

theorem unifyAfter_of_ne {before : Option Char} (h : before ≠ some '\r') (cs : List Char) :
    unifyAfter before cs = unifyAfter none cs := by
  cases cs with
  | nil => rfl
  | cons c cs => simp [unifyAfter, h]

theorem unifyLineEnds_eq_unifyAfter (cs : List Char) : unifyLineEnds cs = unifyAfter none cs := by
  rw [unifyLineEnds, Text.replaceAll_singleton]
  induction cs with
  | nil => rfl
  | cons c cs ih =>
    by_cases hpair : ['\r', '\n'] <+: c :: cs
    · -- a pair comes out like the line feed alone, and of that the hypothesis speaks
      obtain ⟨rest, hrest⟩ := hpair
      simp only [List.cons_append, List.nil_append, List.cons.injEq] at hrest
      obtain ⟨rfl, rfl⟩ := hrest
      have hboth : Text.replaceAll ['\r', '\n'] ['\n'] ('\r' :: '\n' :: rest) =
          '\n' :: Text.replaceAll ['\r', '\n'] ['\n'] rest :=
        Text.replaceAll_append (List.cons_ne_nil _ _) rest
      have hfeed : Text.replaceAll ['\r', '\n'] ['\n'] ('\n' :: rest) =
          '\n' :: Text.replaceAll ['\r', '\n'] ['\n'] rest :=
        Text.replaceAll_cons (by simp)
      rw [hboth, ← hfeed]
      exact ih
    · have hafter : unifyAfter (some c) cs = unifyAfter none cs := by
        by_cases hc : c = '\r'
        · cases cs with
          | nil => rfl
          | cons d cs =>
            have hd : d ≠ '\n' := by
              rintro rfl
              exact hpair ⟨cs, by rw [hc]; rfl⟩
            simp [unifyAfter, hd]
        · exact unifyAfter_of_ne (fun h => hc (Option.some.inj h)) cs
      have hfirst : ¬ (c = '\n' ∧ none = some '\r') := by simp
      rw [Text.replaceAll_cons hpair, List.map_cons, ih, unifyAfter, if_neg hfirst, hafter]

theorem unifyAfter_append (before : Option Char) (as bs : List Char) :
    unifyAfter before (as ++ bs) =
      unifyAfter before as ++ unifyAfter (as.getLast?.or before) bs := by
  induction as generalizing before with
  | nil => rfl
  | cons a as ih =>
    have hlast : (a :: as).getLast?.or before = as.getLast?.or (some a) := by
      rw [List.getLast?_cons]
      cases as.getLast? <;> rfl
    rw [List.cons_append, unifyAfter, unifyAfter, ih, hlast]
    split
    · rfl
    · rfl

theorem cr_not_mem_unifyAfter (before : Option Char) (cs : List Char) :
    '\r' ∉ unifyAfter before cs := by
  induction cs generalizing before with
  | nil => exact List.not_mem_nil
  | cons c cs ih =>
    rw [unifyAfter]
    split
    · exact ih _
    · apply List.not_mem_cons_of_ne_of_not_mem _ (ih _)
      split
      · decide
      · rename_i hcr
        exact fun h => hcr h.symm

theorem unifyAfter_of_not_mem {cs : List Char} (h : '\r' ∉ cs) {before : Option Char}
    (hbefore : before ≠ some '\r') : unifyAfter before cs = cs := by
  induction cs generalizing before with
  | nil => rfl
  | cons c cs ih =>
    obtain ⟨hc, hcs⟩ := List.ne_and_not_mem_of_not_mem_cons h
    have hnext : some c ≠ some '\r' := fun heq => hc (Option.some.inj heq).symm
    rw [unifyAfter, if_neg (fun hjoin => hbefore hjoin.2), if_neg hc.symm, ih hcs hnext]

theorem lines_unifyLineEnds (cs : List Char) :
    lines (String.ofList (unifyLineEnds cs)) = lines (String.ofList cs) := by
  have hidem : unifyLineEnds (unifyLineEnds cs) = unifyLineEnds cs := by
    simp only [unifyLineEnds_eq_unifyAfter]
    exact unifyAfter_of_not_mem (cr_not_mem_unifyAfter none cs) (by simp)
  simp only [lines, String.toList_ofList, hidem]

theorem unifyLineEnds_append {as : List Char} (h : as.getLast? ≠ some '\r') (bs : List Char) :
    unifyLineEnds (as ++ '\n' :: bs) = unifyLineEnds as ++ '\n' :: unifyLineEnds bs := by
  have hbreak : unifyAfter none ('\n' :: bs) = '\n' :: unifyAfter none bs := by
    rw [unifyAfter, unifyAfter_of_ne (by decide : some '\n' ≠ some '\r')]
    rfl
  simp only [unifyLineEnds_eq_unifyAfter]
  rw [unifyAfter_append, Option.or_none, unifyAfter_of_ne h, hbreak]

def Line.shift (k : Int) (line : Line) : Line := { line with number := line.number + k }

theorem lines_append {first : String} (h : first.toList.getLast? ≠ some '\r') (second : String) :
    lines (first ++ "\n" ++ second) =
      lines first ++ (lines second).map (Line.shift (lines first).length) := by
  have htext : (first ++ "\n" ++ second).toList = first.toList ++ '\n' :: second.toList := by simp
  rw [lines, htext, unifyLineEnds_append h, Text.pieces_append (by rfl), List.zipIdx_append,
    List.map_append, Nat.add_comm 1, ← List.map_snd_add_zipIdx_eq_zipIdx, List.map_map]
  simp only [lines, List.map_map, List.length_map, List.length_zipIdx]
  rfl

end MailMarkup
