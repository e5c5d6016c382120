import Mathlib.Data.List.DropRight
import MailMarkup.Proofs.Settle

namespace MailMarkup

theorem span_of_head {α : Type} {p : α → Bool} {as bs : List α} (has : ∀ a ∈ as, p a = true)
    (hbs : ∀ b ∈ bs.head?, p b = false) :
    (as ++ bs).takeWhile p = as ∧ (as ++ bs).dropWhile p = bs := by
  cases bs with
  | nil =>
    rw [List.append_nil]
    exact ⟨List.takeWhile_eq_self_iff.mpr has, List.dropWhile_eq_nil_iff.mpr has⟩
  | cons b bs => exact span_append_cons bs has (hbs b rfl)

theorem bne_of_not_mem {a : Char} {as : List Char} (h : a ∉ as) : ∀ b ∈ as, (b != a) = true := by
  intro b hb
  rw [bne_iff_ne]
  rintro rfl
  exact h hb

theorem span_at {a : Char} {as : List Char} (h : a ∉ as) (bs : List Char) :
    (as ++ a :: bs).takeWhile (· != a) = as ∧ (as ++ a :: bs).dropWhile (· != a) = a :: bs :=
  span_append_cons bs (bne_of_not_mem h) (bne_self_eq_false a)

theorem head_dropWhile {α : Type} {p : α → Bool} {as : List α} {a : α}
    (h : a ∈ (as.dropWhile p).head?) : p a = false := by
  have hhead := List.head?_dropWhile_not p as
  rwa [Option.mem_def.mp h] at hhead

theorem isAlphanum_of_foreign {c : Char} (h : 0x80 ≤ c.toNat) : c.isAlphanum = false := by
  change ((decide ('A'.val ≤ c.val ∧ c.val ≤ 'Z'.val) ||
    (decide ('a'.val ≤ c.val) && decide (c.val ≤ 'z'.val))) ||
      (decide ('0'.val ≤ c.val) && decide (c.val ≤ '9'.val))) = false
  simp only [Bool.or_eq_false_iff, Bool.and_eq_false_iff, decide_eq_false_iff_not,
    UInt32.le_iff_toNat_le]
  change 0x80 ≤ c.val.toNat at h
  have h90 : 'Z'.val.toNat = 90 := rfl
  have h122 : 'z'.val.toNat = 122 := rfl
  have h57 : '9'.val.toNat = 57 := rfl
  omega

theorem of_ascii {p : Char → Prop} (h : ∀ n : Fin 0x80, p (Char.ofNat n)) {c : Char}
    (hc : c.toNat < 0x80) : p c := by
  have hcode := h ⟨c.toNat, hc⟩
  rwa [Char.ofNat_toNat] at hcode

namespace Tag

/-- How a tag is written behind its `<`: a slash if it is a closing tag, its name in either case,
and the text from there to the `>`. -/
structure Source where
  closing : Bool
  name : List Char
  attributes : List Char
  name_ne_nil : name ≠ []
  isNameChar_of_mem : ∀ c ∈ name, isNameChar c = true
  isNameChar_of_head : ∀ c ∈ attributes.head?, isNameChar c = false
  not_mem_attributes : '>' ∉ attributes

namespace Source

def slash (source : Source) : List Char := if source.closing then ['/'] else []

def inside (source : Source) : List Char := source.slash ++ (source.name ++ source.attributes)

def tag (source : Source) : Tag :=
  ⟨String.ofList (source.name.map Char.toLower), source.closing, String.ofList source.attributes⟩

theorem not_mem_inside (source : Source) : '>' ∉ source.inside := by
  have hname : '>' ∉ source.name := by
    intro h
    exact absurd (source.isNameChar_of_mem _ h) (by decide)
  have hslash : '>' ∉ source.slash := by
    unfold slash
    split <;> decide
  simp [inside, hslash, hname, source.not_mem_attributes]

end Source

theorem read?_of_parts {cs body attributes rest : List Char} {closing : Bool}
    (hclosing : (cs.head? == some '/') = closing)
    (hbody : (if closing = true then cs.tail else cs) = body)
    (hname : body.takeWhile isNameChar ≠ [])
    (hattributes : (body.dropWhile isNameChar).takeWhile (· != '>') = attributes)
    (hrest : (body.dropWhile isNameChar).dropWhile (· != '>') = '>' :: rest) :
    read? cs = some (⟨String.ofList ((body.takeWhile isNameChar).map Char.toLower), closing,
      String.ofList attributes⟩, rest) := by
  subst hclosing hbody hattributes
  simp only [read?, hrest]
  split
  · rename_i hnil
    exact absurd hnil hname
  · rename_i hnil
    exact absurd hnil (List.cons_ne_nil _ _)
  · rename_i hcons
    obtain ⟨-, rfl⟩ := List.cons.inj hcons
    rfl

theorem read?_source (source : Source) (rest : List Char) :
    read? (source.inside ++ '>' :: rest) = some (source.tag, rest) := by
  have hstop : ∀ c ∈ (source.attributes ++ '>' :: rest).head?, isNameChar c = false := by
    have hhead := source.isNameChar_of_head
    cases hattributes : source.attributes with
    | nil => simp [isNameChar]
    | cons a as => simpa [hattributes] using hhead
  obtain ⟨htake, hdrop⟩ := span_of_head source.isNameChar_of_mem hstop
  obtain ⟨htake', hdrop'⟩ := span_at source.not_mem_attributes rest
  have hclosing : ((source.inside ++ '>' :: rest).head? == some '/') = source.closing := by
    obtain ⟨c, cs, hname⟩ := List.exists_cons_of_ne_nil source.name_ne_nil
    have hc : c ≠ '/' := by
      rintro rfl
      exact absurd (source.isNameChar_of_mem '/' (by simp [hname])) (by decide)
    cases h : source.closing <;> simp [Source.inside, Source.slash, h, hname, hc]
  have hbody : (if source.closing = true then (source.inside ++ '>' :: rest).tail
      else source.inside ++ '>' :: rest) = source.name ++ (source.attributes ++ '>' :: rest) := by
    cases h : source.closing <;> simp [Source.inside, Source.slash, h]
  rw [read?_of_parts hclosing hbody, htake]
  · rfl
  · rw [htake]
    exact source.name_ne_nil
  · rw [hdrop, htake']
  · rw [hdrop, hdrop']

theorem source_of_read? {cs rest : List Char} {tag : Tag} (h : read? cs = some (tag, rest)) :
    ∃ source : Source, source.tag = tag ∧ cs = source.inside ++ '>' :: rest := by
  have hcs : cs = (if (cs.head? == some '/') = true then ['/'] else []) ++
      (if (cs.head? == some '/') = true then cs.tail else cs) := by
    split
    · rename_i hslash
      obtain ⟨body, rfl⟩ := List.head?_eq_some_iff.mp (beq_iff_eq.mp hslash)
      rfl
    · rfl
  -- from here on only `hcs` knows what `body` and `closing` have to do with `cs`
  simp only [read?] at h
  generalize (if (cs.head? == some '/') = true then cs.tail else cs) = body at h hcs
  generalize (cs.head? == some '/') = closing at h hcs
  split at h
  · cases h
  · cases h
  · rename_i c name d after hname hafter
    simp only [Option.some.injEq, Prod.mk.injEq] at h
    obtain ⟨rfl, rfl⟩ := h
    have hd : d = '>' := by
      have hhead : d ∈ ((body.dropWhile isNameChar).dropWhile (· != '>')).head? := by
        rw [hafter]
        rfl
      simpa using head_dropWhile hhead
    rw [hd] at hafter
    have hbody : body = body.takeWhile isNameChar ++
        ((body.dropWhile isNameChar).takeWhile (· != '>') ++ '>' :: after) := by
      rw [← hafter, List.takeWhile_append_dropWhile, List.takeWhile_append_dropWhile]
    have hhead : ∀ c ∈ ((body.dropWhile isNameChar).takeWhile (· != '>')).head?,
        isNameChar c = false := by
      intro c hc
      rw [List.head?_takeWhile, Option.mem_def, Option.filter_eq_some_iff] at hc
      exact head_dropWhile hc.1
    have hfree : '>' ∉ (body.dropWhile isNameChar).takeWhile (· != '>') := by
      intro hmem
      exact absurd (List.mem_takeWhile_imp hmem) (by decide)
    refine ⟨⟨closing, body.takeWhile isNameChar, (body.dropWhile isNameChar).takeWhile (· != '>'),
      by simp [hname], fun c hc => List.mem_takeWhile_imp hc, hhead, hfree⟩, rfl, ?_⟩
    rw [hcs]
    nth_rewrite 1 [hbody]
    simp [Source.inside, Source.slash]

theorem read?_append {cs rest : List Char} {tag : Tag} (h : read? cs = some (tag, rest))
    (more : List Char) : read? (cs ++ more) = some (tag, rest ++ more) := by
  obtain ⟨source, rfl, rfl⟩ := source_of_read? h
  rw [List.append_assoc, List.cons_append, read?_source]

theorem read?_append_of_none {cs : List Char} (h : read? cs = none) (hgt : '>' ∈ cs)
    (more : List Char) : read? (cs ++ more) = none := by
  cases hread : read? (cs ++ more) with
  | none => rfl
  | some read =>
    obtain ⟨tag, rest⟩ := read
    obtain ⟨source, -, hsource⟩ := source_of_read? hread
    obtain ⟨front, back, rfl, hfront⟩ := List.eq_append_cons_of_mem hgt
    have hinside : front = source.inside := by
      have htake := congrArg (List.takeWhile (· != '>')) hsource
      rwa [List.append_assoc, List.cons_append, (span_at hfront _).1,
        (span_at source.not_mem_inside rest).1] at htake
    rw [hinside, read?_source] at h
    exact absurd h (Option.some_ne_none _)

theorem scanFrom_of_ne {c : Char} (h : c ≠ '<') (found : List Tag) (cs : List Char) :
    scanFrom found (c :: cs) = scanFrom found cs := by
  rw [scanFrom, if_neg h]

theorem scanFrom_run {run : List Char} (h : '<' ∉ run) (found : List Tag) (cs : List Char) :
    scanFrom found (run ++ cs) = scanFrom found cs := by
  induction run with
  | nil => rfl
  | cons c run ih =>
    obtain ⟨hc, hrun⟩ := List.ne_and_not_mem_of_not_mem_cons h
    rw [List.cons_append, scanFrom_of_ne hc.symm, ih hrun]

theorem scanFrom_of_read {cs rest : List Char} {tag : Tag} (h : read? cs = some (tag, rest))
    (found : List Tag) : scanFrom found ('<' :: cs) = scanFrom (tag :: found) rest := by
  rw [scanFrom, if_pos rfl]
  split
  · rename_i hread
    rw [h] at hread
    cases hread
    rfl
  · rename_i hread
    rw [h] at hread
    cases hread

theorem scanFrom_of_none {cs : List Char} (h : read? cs = none) (found : List Tag) :
    scanFrom found ('<' :: cs) = scanFrom found cs := by
  rw [scanFrom, if_pos rfl]
  split
  · rename_i hread
    rw [h] at hread
    cases hread
  · rfl

theorem scanFrom_behind (found older : List Tag) (cs : List Char) :
    scanFrom (found ++ older) cs = older.reverse ++ scanFrom found cs := by
  fun_induction scanFrom found cs with
  | case1 found => rw [scanFrom, List.reverse_append]
  | case2 found cs tag rest hread ih => rw [scanFrom_of_read hread, ← ih, List.cons_append]
  | case3 found cs hread ih => rw [scanFrom_of_none hread, ih]
  | case4 found c cs hc ih => rw [scanFrom_of_ne hc, ih]

theorem scanFrom_append {cs : List Char} (found : List Tag)
    (h : ∀ front back, cs = front ++ '<' :: back → '>' ∈ back) (more : List Char) :
    scanFrom found (cs ++ more) = scanFrom (scanFrom found cs).reverse more := by
  fun_induction scanFrom found cs with
  | case1 found => simp
  | case2 found cs tag rest hread ih =>
    rw [List.cons_append, scanFrom_of_read (read?_append hread more)]
    apply ih
    rintro front back rfl
    obtain ⟨source, -, rfl⟩ := source_of_read? hread
    exact h ('<' :: source.inside ++ '>' :: front) back (by simp)
  | case3 found cs hread ih =>
    -- no tag begins here, and what is appended cannot change that: the `>` stands before it
    have hgt : '>' ∈ cs := h [] cs rfl
    rw [List.cons_append, scanFrom_of_none (read?_append_of_none hread hgt more)]
    apply ih
    rintro front back rfl
    exact h ('<' :: front) back rfl
  | case4 found c cs hc ih =>
    rw [List.cons_append, scanFrom_of_ne hc]
    apply ih
    rintro front back rfl
    exact h (c :: front) back rfl

theorem gt_behind {cs front back : List Char} (h : '<' ∉ cs.rtakeWhile (· != '>'))
    (hcs : cs = front ++ '<' :: back) : '>' ∈ back := by
  by_contra hback
  apply h
  have hfree : '>' ∉ back.reverse ++ ['<'] := by simpa using hback
  rw [hcs, List.rtakeWhile, List.reverse_append, List.reverse_cons,
    List.takeWhile_append_of_pos (bne_of_not_mem hfree)]
  simp

/-- A line may be cut wherever no tag can be under way: behind its last `>` there is no `<`. -/
theorem scan_append {a : String} (h : '<' ∉ a.toList.rtakeWhile (· != '>')) (b : String) :
    scan (a ++ b) = scan a ++ scan b := by
  have hb : scanFrom (scan a).reverse b.toList = scan a ++ scan b := by
    have hbehind := scanFrom_behind [] (scan a).reverse b.toList
    rwa [List.nil_append, List.reverse_reverse] at hbehind
  rw [← hb, scan, String.toList_append]
  exact scanFrom_append [] (fun _ _ => gt_behind h) b.toList

end Tag

end MailMarkup
