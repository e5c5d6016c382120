import Mathlib.Data.List.Forall2
import MailMarkup.Proofs.Feed

namespace MailMarkup

structure SameSkeleton (t t' : Place × Tag) : Prop where
  number : t.1.number = t'.1.number
  name : t.2.name = t'.2.name
  closing : t.2.closing = t'.2.closing
  selfClosing : t.2.closing = false → t.2.selfClosing = t'.2.selfClosing

def Finding.gist (f : Finding) : Int × Code × String × String :=
  (f.lineNumber, f.code, f.errorTag, f.message)

def Frame.key (frame : Frame) : String × Int := (frame.name, frame.place.number)

namespace SameSkeleton

variable {t t' : Place × Tag}

theorem isVoid_eq (h : SameSkeleton t t') : t.2.isVoid = t'.2.isVoid := by
  rw [Tag.isVoid, h.name, Tag.isVoid]

theorem opens_eq (h : SameSkeleton t t') : t.2.opens = t'.2.opens := by
  cases hc : t.2.closing with
  | true => simp [Tag.opens, hc, ← h.closing]
  | false => rw [Tag.opens, h.isVoid_eq, h.closing, h.selfClosing hc, Tag.opens]

theorem closes_eq (h : SameSkeleton t t') : t.2.closes = t'.2.closes := by
  rw [Tag.closes, h.isVoid_eq, h.closing, Tag.closes]

theorem isNeutral_eq (h : SameSkeleton t t') : t.2.isNeutral = t'.2.isNeutral := by
  cases hc : t.2.closing with
  | true => simp [Tag.isNeutral, hc, ← h.closing, h.isVoid_eq]
  | false => rw [Tag.isNeutral, h.isVoid_eq, h.closing, h.selfClosing hc, Tag.isNeutral]

end SameSkeleton

theorem map_eq_of_key {α κ γ : Type} {key : α → κ} {g : α → γ}
    (hg : ∀ a b, key a = key b → g a = g b) {as bs : List α} (h : as.map key = bs.map key) :
    as.map g = bs.map g := by
  induction as generalizing bs with
  | nil => simp_all
  | cons a as ih =>
    obtain ⟨b, bs, rfl, hb, hbs⟩ := List.map_eq_cons_iff.mp h.symm
    rw [List.map_cons, List.map_cons, hg a b hb.symm, ih hbs.symm]

theorem Frame.gist_unclosedBefore {frame frame' : Frame} (h : frame.key = frame'.key)
    (name : String) : (frame.unclosedBefore name).gist = (frame'.unclosedBefore name).gist := by
  obtain ⟨hname, hnumber⟩ := Prod.mk.inj h
  simp only [Frame.unclosedBefore, Frame.errorTag, Place.finding, Finding.gist, hname, hnumber]

theorem Frame.gist_neverClosed {frame frame' : Frame} (h : frame.key = frame'.key) :
    frame.neverClosed.gist = frame'.neverClosed.gist := by
  obtain ⟨hname, hnumber⟩ := Prod.mk.inj h
  simp only [Frame.neverClosed, Frame.errorTag, Place.finding, Finding.gist, hname, hnumber]

namespace Stack

variable {stack stack' : Stack}

theorem name_ne_of_key (h : stack.map Frame.key = stack'.map Frame.key) {name : String}
    (hne : ∀ frame ∈ stack, frame.name ≠ name) : ∀ frame ∈ stack', frame.name ≠ name := by
  have hnames : stack.map Frame.name = stack'.map Frame.name :=
    map_eq_of_key (fun _ _ hk => (Prod.mk.inj hk).1) h
  intro frame hf hn
  have hmem : name ∈ stack.map Frame.name := hnames ▸ List.mem_map.mpr ⟨frame, hf, hn⟩
  obtain ⟨other, hother, hn'⟩ := List.mem_map.mp hmem
  exact hne other hother hn'

theorem close_alike (h : stack.map Frame.key = stack'.map Frame.key) {place place' : Place}
    (hnumber : place.number = place'.number) (name : String) :
    (stack.close name place).1.map Finding.gist = (stack'.close name place').1.map Finding.gist ∧
      (stack.close name place).2.map Frame.key = (stack'.close name place').2.map Frame.key := by
  rcases stack.split_at_name name with hne | ⟨above, frame, below, rfl, hname, hne⟩
  · have hne' := name_ne_of_key h hne
    cases stack with
    | nil =>
      obtain rfl : stack' = [] := by simpa using h.symm
      simp [close_nil, Place.unexpectedClosing, Place.finding, Finding.gist, hnumber]
    | cons top rest =>
      obtain ⟨top', rest', rfl, htop, hrest⟩ := List.map_eq_cons_iff.mp h.symm
      rw [close_of_ne hne, close_of_ne hne']
      refine ⟨?_, h⟩
      simp [Place.mismatchedClosing, Place.finding, Finding.gist, hnumber,
        (Prod.mk.inj htop).1]
  · rw [List.map_append, List.map_cons] at h
    obtain ⟨above', tail', rfl, habove, htail⟩ := List.map_eq_append_iff.mp h.symm
    obtain ⟨frame', below', rfl, hframe, hbelow⟩ := List.map_eq_cons_iff.mp htail
    have hname' : frame'.name = name := (Prod.mk.inj hframe).1.trans hname
    rw [close_append hne hname, close_append (name_ne_of_key habove.symm hne) hname']
    refine ⟨?_, hbelow.symm⟩
    rw [List.map_map, List.map_map]
    exact map_eq_of_key (fun _ _ hk => Frame.gist_unclosedBefore hk name) habove.symm

theorem settle_alike (h : stack.map Frame.key = stack'.map Frame.key) {t t' : Place × Tag}
    (ht : SameSkeleton t t') :
    (stack.settle t.2 t.1).1.map Finding.gist = (stack'.settle t'.2 t'.1).1.map Finding.gist ∧
      (stack.settle t.2 t.1).2.map Frame.key = (stack'.settle t'.2 t'.1).2.map Frame.key := by
  rcases t.2.kind_cases with ⟨hn, -, -⟩ | ⟨-, ho, -⟩ | ⟨-, -, hc⟩
  · rw [settle_of_neutral hn, settle_of_neutral (ht.isNeutral_eq ▸ hn)]
    exact ⟨rfl, h⟩
  · rw [settle_of_opens ho, settle_of_opens (ht.opens_eq ▸ ho)]
    refine ⟨rfl, ?_⟩
    simp only [List.map_cons, Frame.key, ht.name, ht.number] at h ⊢
    rw [h]
  · rw [settle_of_closes hc, settle_of_closes (ht.closes_eq ▸ hc), ht.name]
    exact close_alike h ht.number _

theorem run_alike {tagged tagged' : List (Place × Tag)}
    (ht : List.Forall₂ SameSkeleton tagged tagged')
    (h : stack.map Frame.key = stack'.map Frame.key) :
    (stack.run tagged).1.map Finding.gist = (stack'.run tagged').1.map Finding.gist ∧
      (stack.run tagged).2.map Frame.key = (stack'.run tagged').2.map Frame.key := by
  induction ht generalizing stack stack' with
  | nil => exact ⟨rfl, h⟩
  | cons hd _ ih =>
    obtain ⟨hfound, hleft⟩ := settle_alike h hd
    obtain ⟨hlater, hlast⟩ := ih hleft
    simp only [run, trace_cons, List.map_append] at hlater hlast ⊢
    exact ⟨by rw [hfound, hlater], hlast⟩

theorem balance_alike {tagged tagged' : List (Place × Tag)}
    (ht : List.Forall₂ SameSkeleton tagged tagged') :
    (balance tagged).map Finding.gist = (balance tagged').map Finding.gist := by
  obtain ⟨hfound, hleft⟩ := @run_alike [] [] _ _ ht rfl
  have hopen := map_eq_of_key (fun _ _ hk => Frame.gist_neverClosed hk) hleft
  simp only [balance, leftOpen, List.map_append, List.map_map, List.map_reverse, hfound]
  exact congrArg _ (congrArg List.reverse hopen)

end Stack

theorem admitAll_gist {found found' : List Finding}
    (h : found.map Finding.gist = found'.map Finding.gist) :
    (admitAll found).map (List.map Finding.gist) =
      (admitAll found').map (List.map Finding.gist) := by
  have hall (fs : List Finding) :
      fs.all Finding.isPlaced = (fs.map Finding.gist).all (fun g => decide (1 ≤ g.1)) := by
    rw [List.all_map]
    rfl
  unfold admitAll
  rw [hall found, hall found', h]
  split
  · simp only [Except.map, h]
  · rfl

end MailMarkup
