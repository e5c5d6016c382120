import MailMarkup.Command.Run
import MailMarkup.Proofs.Decoding
import MailMarkup.Proofs.Scan
import MailMarkup.Proofs.Written

namespace MailMarkup

structure Foreign (cs : List Char) : Prop where
  ne_nil : cs ≠ []
  beyond : ∀ c ∈ cs, 0x80 ≤ c.toNat

theorem Foreign.not_mem {cs : List Char} (h : Foreign cs) {c : Char} (hc : c.toNat < 0x80) :
    c ∉ cs := by
  intro hmem
  have := h.beyond c hmem
  omega

/-- The texts have the same ASCII characters in the same order, and other characters stand between
the same ones of them, however many. -/
inductive SameAscii : List Char → List Char → Prop
  | nil : SameAscii [] []
  | ascii {cs cs' : List Char} (c : Char) (hc : c.toNat < 0x80) (h : SameAscii cs cs') :
      SameAscii (c :: cs) (c :: cs')
  | foreign {run run' cs cs' : List Char} (hrun : Foreign run) (hrun' : Foreign run')
      (h : SameAscii cs cs') : SameAscii (run ++ cs) (run' ++ cs')

theorem Foreign.unifyAfter {run : List Char} (h : Foreign run) (before : Option Char) :
    unifyAfter before run = run := by
  have hline : OnOneLine (String.ofList run) := by
    simpa [OnOneLine] using ⟨h.not_mem (by decide : '\n'.toNat < 0x80), h.not_mem (by decide)⟩
  simpa using unifyAfter_onOneLine hline before

theorem Foreign.getLast?_ne {run : List Char} (h : Foreign run) (before : Option Char) :
    run.getLast?.or before ≠ some '\r' := by
  rw [List.getLast?_eq_some_getLast h.ne_nil, Option.some_or]
  intro hcr
  exact h.not_mem (by decide) (Option.some.inj hcr ▸ List.getLast_mem h.ne_nil)

namespace SameAscii

variable {cs cs' : List Char}

theorem unifyAfter (h : SameAscii cs cs') {before before' : Option Char}
    (hbefore : before = some '\r' ↔ before' = some '\r') :
    SameAscii (unifyAfter before cs) (unifyAfter before' cs') := by
  induction h generalizing before before' with
  | nil => exact .nil
  | ascii c hc h ih =>
    have hrest := ih (Iff.refl (some c = some '\r'))
    simp only [MailMarkup.unifyAfter, hbefore]
    split
    · exact hrest
    · refine .ascii _ ?_ hrest
      split
      · decide
      · exact hc
  | foreign hrun hrun' h ih =>
    rw [unifyAfter_append, unifyAfter_append, hrun.unifyAfter, hrun'.unifyAfter]
    apply SameAscii.foreign hrun hrun'
    apply ih
    exact iff_of_false (hrun.getLast?_ne _) (hrun'.getLast?_ne _)

theorem pieces {p : Char → Bool} (hp : ∀ c, 0x80 ≤ c.toNat → p c = false) (h : SameAscii cs cs') :
    List.Forall₂ SameAscii (Text.pieces p cs) (Text.pieces p cs') := by
  induction h with
  | nil => exact .cons .nil .nil
  | @ascii cs cs' c hc h ih =>
    cases hcut : p c with
    | true =>
      rw [Text.pieces_cons_of_pos hcut, Text.pieces_cons_of_pos hcut]
      exact .cons .nil ih
    | false =>
      obtain ⟨w, ws, hw⟩ := List.exists_cons_of_ne_nil (Text.pieces_ne_nil p cs)
      obtain ⟨w', ws', hw'⟩ := List.exists_cons_of_ne_nil (Text.pieces_ne_nil p cs')
      rw [hw, hw', List.forall₂_cons] at ih
      rw [Text.pieces_cons_of_neg hcut hw, Text.pieces_cons_of_neg hcut hw']
      exact .cons (.ascii c hc ih.1) ih.2
  | @foreign run run' cs cs' hrun hrun' h ih =>
    have hkept {run : List Char} (hrun : Foreign run) : ∀ c ∈ run, p c = false :=
      fun c hc => hp c (hrun.beyond c hc)
    obtain ⟨w, ws, hw⟩ := List.exists_cons_of_ne_nil (Text.pieces_ne_nil p cs)
    obtain ⟨w', ws', hw'⟩ := List.exists_cons_of_ne_nil (Text.pieces_ne_nil p cs')
    rw [hw, hw', List.forall₂_cons] at ih
    rw [Text.pieces_run (hkept hrun) hw, Text.pieces_run (hkept hrun') hw']
    exact .cons (.foreign hrun hrun' ih.1) ih.2

theorem span {p : Char → Bool} (hp : ∀ c, 0x80 ≤ c.toNat → p c = false) (h : SameAscii cs cs') :
    cs.takeWhile p = cs'.takeWhile p ∧ SameAscii (cs.dropWhile p) (cs'.dropWhile p) := by
  induction h with
  | nil => exact ⟨rfl, .nil⟩
  | ascii c hc h ih =>
    cases hcase : p c with
    | true =>
      rw [List.takeWhile_cons_of_pos hcase, List.takeWhile_cons_of_pos hcase,
        List.dropWhile_cons_of_pos hcase, List.dropWhile_cons_of_pos hcase, ih.1]
      exact ⟨rfl, ih.2⟩
    | false =>
      have hstop : ¬p c = true := by simp [hcase]
      rw [List.takeWhile_cons_of_neg hstop, List.takeWhile_cons_of_neg hstop,
        List.dropWhile_cons_of_neg hstop, List.dropWhile_cons_of_neg hstop]
      exact ⟨rfl, .ascii c hc h⟩
  | foreign hrun hrun' h ih =>
    have hstop {run : List Char} (hrun : Foreign run) (cs : List Char) :
        (run ++ cs).takeWhile p = [] ∧ (run ++ cs).dropWhile p = run ++ cs := by
      obtain ⟨c, run, rfl⟩ := List.exists_cons_of_ne_nil hrun.ne_nil
      have hc := hp c (hrun.beyond c List.mem_cons_self)
      simp [hc]
    rw [(hstop hrun _).1, (hstop hrun _).2, (hstop hrun' _).1, (hstop hrun' _).2]
    exact ⟨rfl, .foreign hrun hrun' h⟩

theorem dropWhile_end (h : SameAscii cs cs') :
    (cs.dropWhile (· != '>') = [] ∧ cs'.dropWhile (· != '>') = []) ∨
      ∃ rest rest', cs.dropWhile (· != '>') = '>' :: rest ∧
        cs'.dropWhile (· != '>') = '>' :: rest' ∧ SameAscii rest rest' := by
  induction h with
  | nil => exact Or.inl ⟨rfl, rfl⟩
  | ascii c hc h ih =>
    by_cases hend : c = '>'
    · subst hend
      exact Or.inr ⟨_, _, rfl, rfl, h⟩
    · simpa [List.dropWhile_cons, hend] using ih
  | foreign hrun hrun' h ih =>
    rw [List.dropWhile_append_of_pos (bne_of_not_mem (hrun.not_mem (by decide))),
      List.dropWhile_append_of_pos (bne_of_not_mem (hrun'.not_mem (by decide)))]
    exact ih

theorem slash (h : SameAscii cs cs') :
    (cs.head? == some '/') = (cs'.head? == some '/') ∧
      SameAscii (if (cs.head? == some '/') = true then cs.tail else cs)
        (if (cs'.head? == some '/') = true then cs'.tail else cs') := by
  cases h with
  | nil => exact ⟨rfl, .nil⟩
  | ascii c hc h =>
    refine ⟨rfl, ?_⟩
    by_cases hslash : c = '/'
    · simpa [hslash] using h
    · simpa [hslash] using SameAscii.ascii c hc h
  | foreign hrun hrun' h =>
    have hslash {run : List Char} (hrun : Foreign run) (cs : List Char) :
        ((run ++ cs).head? == some '/') = false := by
      obtain ⟨c, run, rfl⟩ := List.exists_cons_of_ne_nil hrun.ne_nil
      have hne := hrun.not_mem (by decide : '/'.toNat < 0x80)
      simpa using (List.ne_and_not_mem_of_not_mem_cons hne).1.symm
    rw [hslash hrun, hslash hrun']
    exact ⟨rfl, .foreign hrun hrun' h⟩

end SameAscii

namespace Tag

def head (tag : Tag) : String × Bool := (tag.name, tag.closing)

theorem isNameChar_of_foreign (c : Char) (h : 0x80 ≤ c.toNat) : isNameChar c = false := by
  have hcolon : c ≠ ':' := by
    rintro rfl
    exact absurd h (by decide)
  simp [isNameChar, isAlphanum_of_foreign h, hcolon]

theorem read?_sameAscii {cs cs' : List Char} (h : SameAscii cs cs') :
    (read? cs = none ∧ read? cs' = none) ∨
      ∃ tag rest tag' rest', read? cs = some (tag, rest) ∧ read? cs' = some (tag', rest') ∧
        tag.head = tag'.head ∧ SameAscii rest rest' := by
  obtain ⟨hslash, hbody⟩ := h.slash
  obtain ⟨hname, hinside⟩ := hbody.span isNameChar_of_foreign
  simp only [read?, hslash] at hname hinside ⊢
  rw [hname]
  cases (if (cs'.head? == some '/') = true then cs'.tail else cs').takeWhile isNameChar with
  | nil => exact Or.inl ⟨rfl, rfl⟩
  | cons c name =>
    rcases hinside.dropWhile_end with ⟨hnone, hnone'⟩ | ⟨rest, rest', hrest, hrest', hsame⟩
    · left
      simp only [hnone, hnone', and_self]
    · right
      simp only [hrest, hrest']
      exact ⟨_, _, _, _, rfl, rfl, rfl, hsame⟩

theorem scanFrom_sameAscii {cs cs' : List Char} (h : SameAscii cs cs') {found found' : List Tag}
    (hfound : found.map head = found'.map head) :
    (scanFrom found cs).map head = (scanFrom found' cs').map head := by
  -- what follows a tag is no part of the derivation of `h`: the induction is on the length
  induction hn : cs.length using Nat.strongRecOn generalizing cs cs' found found' with
  | ind n ih =>
    cases h with
    | nil => simp only [scanFrom, List.map_reverse, hfound]
    | ascii c hc h =>
      rw [List.length_cons] at hn
      by_cases hopen : c = '<'
      · subst hopen
        rcases read?_sameAscii h with ⟨hnone, hnone'⟩ |
          ⟨tag, rest, tag', rest', hread, hread', htag, hrest⟩
        · rw [scanFrom_of_none hnone, scanFrom_of_none hnone']
          exact ih _ (by omega) h hfound rfl
        · have hlt := length_lt_of_read? hread
          rw [scanFrom_of_read hread, scanFrom_of_read hread']
          apply ih _ (by omega) hrest _ rfl
          rw [List.map_cons, List.map_cons, htag, hfound]
      · rw [scanFrom_of_ne hopen, scanFrom_of_ne hopen]
        exact ih _ (by omega) h hfound rfl
    | foreign hrun hrun' h =>
      have hpos := List.length_pos_of_ne_nil hrun.ne_nil
      rw [List.length_append] at hn
      rw [scanFrom_run (hrun.not_mem (by decide)), scanFrom_run (hrun'.not_mem (by decide))]
      exact ih _ (by omega) h hfound rfl

end Tag

def Line.heads (line : Line) : Int × List (String × Bool) :=
  (line.number, (Tag.scan line.text).map Tag.head)

theorem heads_sameAscii {cs cs' : List Char} (h : SameAscii cs cs') :
    (lines (String.ofList cs)).map Line.heads = (lines (String.ofList cs')).map Line.heads := by
  have hlines (cs : List Char) : (lines (String.ofList cs)).map Line.heads =
      (((Text.pieces (· == '\n') (unifyLineEnds cs)).map fun text =>
        (Tag.scan (String.ofList text)).map Tag.head).zipIdx 1).map fun p => ((p.2 : Int), p.1) := by
    simp [lines, List.zipIdx_map, Line.heads, Function.comp_def]
  have hbreak (c : Char) (hc : 0x80 ≤ c.toNat) : (c == '\n') = false := by
    rw [beq_eq_false_iff_ne]
    rintro rfl
    exact absurd hc (by decide)
  have hpieces := (h.unifyAfter (Iff.refl (none = some '\r'))).pieces hbreak
  have hscan : ∀ text text', SameAscii text text' →
      (Tag.scan (String.ofList text)).map Tag.head =
        (Tag.scan (String.ofList text')).map Tag.head := by
    intro text text' hsame
    simp only [Tag.scan, String.toList_ofList]
    exact Tag.scanFrom_sameAscii hsame rfl
  rw [hlines, hlines, unifyLineEnds_eq_unifyAfter, unifyLineEnds_eq_unifyAfter]
  congr 2
  rw [← List.forall₂_eq_eq_eq, List.forall₂_map_left_iff, List.forall₂_map_right_iff]
  exact hpieces.imp hscan

def Text.latin1 (bytes : List UInt8) : List Char := bytes.map fun b => Char.ofNat b.toNat

theorem toNat_latin1 (b : UInt8) : (Char.ofNat b.toNat).toNat = b.toNat := by
  have hlt := b.toNat_lt
  have hvalid : b.toNat.isValidChar := Or.inl (by omega)
  exact congrArg Char.toNat (dif_pos hvalid)

theorem foreign_singleton {c : Char} (h : 0x80 ≤ c.toNat) : Foreign [c] :=
  ⟨List.cons_ne_nil _ _, List.forall_mem_singleton.mpr h⟩

theorem Foreign.push {run : List Char} {c : Char} (hrun : Foreign run) (hc : 0x80 ≤ c.toNat) :
    Foreign (run ++ [c]) where
  ne_nil := List.append_ne_nil_of_left_ne_nil hrun.ne_nil _
  beyond := List.forall_mem_append.mpr ⟨hrun.beyond, List.forall_mem_singleton.mpr hc⟩

namespace Text.Utf8

def shown (units : List (Option Char)) : List Char := units.map (·.getD replacement)

theorem shown_some (c : Char) (units : List (Option Char)) :
    shown (some c :: units) = c :: shown units := rfl

theorem shown_none (units : List (Option Char)) :
    shown (none :: units) = replacement :: shown units := rfl

theorem sameAscii_chunk {run cs cs' : List Char} {c : Char} (hrun : Foreign run)
    (hc : 0x80 ≤ c.toNat) (h : SameAscii cs cs') : SameAscii (c :: cs) (run ++ cs') :=
  .foreign (foreign_singleton hc) hrun h

theorem sameAscii_unitsAfter (bytes : List UInt8) :
    SameAscii (shown (unitsAfter none bytes)) (latin1 bytes) ∧
      ∀ p run, Pending.Sound p → Foreign run →
        SameAscii (shown (unitsAfter (some p) bytes)) (run ++ latin1 bytes) := by
  have hreplacement : 0x80 ≤ replacement.toNat := by decide
  induction bytes with
  | nil => exact ⟨.nil, fun p run _ hrun => sameAscii_chunk hrun hreplacement .nil⟩
  | cons b bytes ih =>
    obtain ⟨ihnone, ihsome⟩ := ih
    have hbyte : latin1 (b :: bytes) = Char.ofNat b.toNat :: latin1 bytes := rfl
    rw [hbyte]
    have hfresh : SameAscii (shown (unitsAfter none (b :: bytes)))
        (Char.ofNat b.toNat :: latin1 bytes) := by
      rcases lead_cases b with ⟨hb, hlead⟩ | ⟨hb, ⟨p, hp, hlead⟩ | hlead⟩
      · rw [unitsAfter_char _ hlead, shown_some]
        exact .ascii _ (by rwa [toNat_latin1]) ihnone
      · rw [unitsAfter_start _ hlead]
        exact ihsome p [_] hp (foreign_singleton (by rwa [toNat_latin1]))
      · rw [unitsAfter_invalid _ hlead, shown_none]
        exact sameAscii_chunk (foreign_singleton (by rwa [toNat_latin1])) hreplacement ihnone
    refine ⟨hfresh, ?_⟩
    intro p run hp hrun
    by_cases hb : p.low ≤ b ∧ b ≤ p.high
    · have hpush : Foreign (run ++ [Char.ofNat b.toNat]) := by
        apply hrun.push
        rw [toNat_latin1]
        exact hp.continued.trans (UInt8.le_iff_toNat_le.mp hb.1)
      rw [List.append_cons]
      by_cases hlast : p.missing ≤ 1
      · rw [unitsAfter_last _ hb hlast, shown_some]
        exact sameAscii_chunk hpush (hp.last hb hlast) ihnone
      · rw [unitsAfter_more _ hb hlast]
        exact ihsome _ _ (hp.more hb hlast) hpush
    · rw [unitsAfter_interrupted _ hb, shown_none]
      exact sameAscii_chunk hrun hreplacement hfresh

theorem sameAscii_decodeLossy (bytes : List UInt8) :
    SameAscii (decodeLossy bytes) (latin1 bytes) := by
  rw [decodeLossy, units_eq_unitsAfter]
  exact (sameAscii_unitsAfter bytes).1

end Text.Utf8

/-- Bytes that are no text neither move a line nor make, hide or rename a tag: a file's lines and
tags are those of its bytes taken one by one. -/
theorem undecodable_bytes_keep_lines_and_tags (bytes : List UInt8) :
    let decoded := lines (String.ofList (Text.Utf8.decodeLossy bytes))
    let bytewise := lines (String.ofList (Text.latin1 bytes))
    lines (Command.fileText bytes) = decoded ∧ decoded.length = bytewise.length ∧
      ∀ i : Nat, decoded[i]?.map Line.heads = bytewise[i]?.map Line.heads := by
  intro decoded bytewise
  have hheads : decoded.map Line.heads = bytewise.map Line.heads :=
    heads_sameAscii (Text.Utf8.sameAscii_decodeLossy bytes)
  refine ⟨lines_unifyLineEnds _, ?_, ?_⟩
  · simpa using congrArg List.length hheads
  · intro i
    rw [← List.getElem?_map, ← List.getElem?_map, hheads]

end MailMarkup
