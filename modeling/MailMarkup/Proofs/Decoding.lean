import Mathlib.Tactic.SplitIfs
import MailMarkup.Text.Utf8

namespace MailMarkup.Text.Utf8

def unitsAfter (pending : Option Pending) : List UInt8 → List (Option Char)
  | [] => if pending.isSome then [none] else []
  | b :: bytes => (step pending b).1 ++ unitsAfter (step pending b).2 bytes

theorem units_eq_unitsAfter (bytes : List UInt8) : units bytes = unitsAfter none bytes := by
  have hafter (done : List (Option Char)) (pending : Option Pending) :
      let r := bytes.foldl (fun r b => ((step r.2 b).1.reverse ++ r.1, (step r.2 b).2))
        (done, pending)
      (if r.2.isSome then none :: r.1 else r.1).reverse =
        done.reverse ++ unitsAfter pending bytes := by
    induction bytes generalizing done pending with
    | nil => cases pending <;> simp [unitsAfter]
    | cons b bytes ih =>
      apply (ih ((step pending b).1.reverse ++ done) (step pending b).2).trans
      simp [unitsAfter]
  exact hafter [] none

section Step

variable {b : UInt8} {p : Pending} (bytes : List UInt8)

theorem unitsAfter_char {c : Char} (h : lead b = .char c) :
    unitsAfter none (b :: bytes) = some c :: unitsAfter none bytes := by
  simp [unitsAfter, step, h]

theorem unitsAfter_start (h : lead b = .start p) :
    unitsAfter none (b :: bytes) = unitsAfter (some p) bytes := by
  simp [unitsAfter, step, h]

theorem unitsAfter_invalid (h : lead b = .invalid) :
    unitsAfter none (b :: bytes) = none :: unitsAfter none bytes := by
  simp [unitsAfter, step, h]

theorem unitsAfter_last (h : p.low ≤ b ∧ b ≤ p.high) (hlast : p.missing ≤ 1) :
    unitsAfter (some p) (b :: bytes) =
      some (Char.ofNat (p.bits * 64 + (b.toNat - 0x80))) :: unitsAfter none bytes := by
  simp [unitsAfter, step, h, hlast]

theorem unitsAfter_more (h : p.low ≤ b ∧ b ≤ p.high) (hmore : ¬p.missing ≤ 1) :
    unitsAfter (some p) (b :: bytes) =
      unitsAfter (some ⟨p.missing - 1, 0x80, 0xBF, p.bits * 64 + (b.toNat - 0x80)⟩) bytes := by
  simp [unitsAfter, step, h, hmore]

theorem unitsAfter_interrupted (h : ¬(p.low ≤ b ∧ b ≤ p.high)) :
    unitsAfter (some p) (b :: bytes) = none :: unitsAfter none (b :: bytes) := by
  simp [unitsAfter, step, h]

end Step

def Pending.least (p : Pending) : Nat :=
  (p.bits * 64 + (p.low.toNat - 0x80)) * Nat.pow 64 (p.missing - 1)

def Pending.bound (p : Pending) : Nat :=
  (p.bits * 64 + (p.high.toNat - 0x80) + 1) * Nat.pow 64 (p.missing - 1)

/-- Whatever finishes the character, it is one, and it is not ASCII. -/
structure Pending.Sound (p : Pending) : Prop where
  continued : 0x80 ≤ p.low.toNat
  beyond : 0x80 ≤ p.least
  valid : p.bound ≤ 0xD800 ∨ 0xE000 ≤ p.least ∧ p.bound ≤ 0x110000

theorem sound_of_lead {b : UInt8} {p : Pending} (h : lead b = .start p) : p.Sound := by
  simp only [lead, UInt8.lt_iff_toNat_lt, ← UInt8.toNat_inj, UInt8.reduceToNat] at h
  split at h
  · cases h
  split at h
  · cases h
  split at h
  · cases h
    constructor <;> simp [Pending.least, Pending.bound] <;> omega
  split at h
  · cases h
    constructor <;> simp [Pending.least, Pending.bound, apply_ite UInt8.toNat] <;>
      split_ifs <;> omega
  split at h
  · cases h
    constructor <;> simp [Pending.least, Pending.bound, apply_ite UInt8.toNat] <;>
      split_ifs <;> omega
  · cases h

theorem lead_cases (b : UInt8) :
    (b.toNat < 0x80 ∧ lead b = .char (Char.ofNat b.toNat)) ∨
      (0x80 ≤ b.toNat ∧ ((∃ p, Pending.Sound p ∧ lead b = .start p) ∨ lead b = .invalid)) := by
  by_cases hb : b < 0x80
  · exact Or.inl ⟨UInt8.lt_iff_toNat_lt.mp hb, if_pos hb⟩
  · refine Or.inr ⟨Nat.le_of_not_lt fun hlt => hb (UInt8.lt_iff_toNat_lt.mpr hlt), ?_⟩
    cases hlead : lead b with
    | char c =>
      simp only [lead, hb, if_false] at hlead
      split_ifs at hlead
    | start p => exact Or.inl ⟨p, sound_of_lead hlead, rfl⟩
    | invalid => exact Or.inr rfl

theorem char_of_sound {p : Pending} (h : p.Sound) {n : Nat} (hleast : p.least ≤ n)
    (hbound : n < p.bound) : 0x80 ≤ (Char.ofNat n).toNat := by
  have hvalid : n.isValidChar := by
    rcases h.valid with hv | ⟨hv, hv'⟩
    · left
      omega
    · right
      omega
  have hn : (Char.ofNat n).toNat = n := congrArg Char.toNat (dif_pos hvalid)
  have hbeyond := h.beyond
  omega

section Continue

variable {p : Pending} {b : UInt8} (hb : p.low ≤ b ∧ b ≤ p.high)

include hb

theorem Pending.Sound.last (h : p.Sound) (hlast : p.missing ≤ 1) :
    0x80 ≤ (Char.ofNat (p.bits * 64 + (b.toNat - 0x80))).toNat := by
  have hone : p.missing - 1 = 0 := by omega
  have hlow := UInt8.le_iff_toNat_le.mp hb.1
  have hhigh := UInt8.le_iff_toNat_le.mp hb.2
  apply char_of_sound h
  · simp only [Pending.least, hone, Nat.pow]
    omega
  · simp only [Pending.bound, hone, Nat.pow]
    omega

theorem Pending.Sound.more (h : p.Sound) (hmore : ¬p.missing ≤ 1) :
    Pending.Sound ⟨p.missing - 1, 0x80, 0xBF, p.bits * 64 + (b.toNat - 0x80)⟩ := by
  have hlow := UInt8.le_iff_toNat_le.mp hb.1
  have hhigh := UInt8.le_iff_toNat_le.mp hb.2
  have hpow : Nat.pow 64 (p.missing - 1) = 64 * Nat.pow 64 (p.missing - 1 - 1) := by
    obtain ⟨k, hk⟩ : ∃ k, p.missing - 1 = k + 1 := ⟨p.missing - 2, by omega⟩
    rw [hk, Nat.pow, Nat.mul_comm]
    rfl
  -- one more byte leaves a part of the values that were possible
  have hleast : p.least ≤
      Pending.least ⟨p.missing - 1, 0x80, 0xBF, p.bits * 64 + (b.toNat - 0x80)⟩ := by
    simp only [Pending.least, hpow, UInt8.reduceToNat, Nat.sub_self, Nat.add_zero, Nat.mul_assoc]
    rw [← Nat.mul_assoc, ← Nat.mul_assoc]
    apply Nat.mul_le_mul_right
    omega
  have hbound : Pending.bound ⟨p.missing - 1, 0x80, 0xBF, p.bits * 64 + (b.toNat - 0x80)⟩ ≤
      p.bound := by
    simp only [Pending.bound, hpow, UInt8.reduceToNat]
    rw [← Nat.mul_assoc]
    apply Nat.mul_le_mul_right
    omega
  have hbeyond := h.beyond
  have hvalid := h.valid
  exact ⟨by simp, by omega, by omega⟩

end Continue

theorem toNat_byte {n : Nat} (h : n < 256) : (UInt8.ofNat n).toNat = n := by
  rw [UInt8.toNat_ofNat', Nat.mod_eq_of_lt h]

section Lead

variable {n : Nat}

theorem lead_one (h : n < 0x80) : lead (UInt8.ofNat n) = .char (Char.ofNat n) := by
  have hn := toNat_byte (n := n) (by omega)
  simp [lead, UInt8.lt_iff_toNat_lt, hn, h]

theorem lead_two (hle : 2 ≤ n) (hlt : n < 0x20) :
    lead (UInt8.ofNat (n + 0xC0)) = .start ⟨1, 0x80, 0xBF, n⟩ := by
  have hn := toNat_byte (n := n + 0xC0) (by omega)
  simp only [lead, UInt8.lt_iff_toNat_lt, UInt8.reduceToNat, hn]
  rw [if_neg (by omega), if_neg (by omega), if_pos (by omega), Nat.add_sub_cancel]

theorem lead_three (h : n < 0x10) :
    lead (UInt8.ofNat (n + 0xE0)) =
      .start ⟨2, if n = 0 then 0xA0 else 0x80, if n = 0xD then 0x9F else 0xBF, n⟩ := by
  have hn := toNat_byte (n := n + 0xE0) (by omega)
  have hfirst : n + 0xE0 = 0xE0 ↔ n = 0 := by omega
  have hlast : n + 0xE0 = 0xED ↔ n = 0xD := by omega
  simp only [lead, UInt8.lt_iff_toNat_lt, ← UInt8.toNat_inj, UInt8.reduceToNat, hn, hfirst, hlast]
  rw [if_neg (by omega), if_neg (by omega), if_neg (by omega), if_pos (by omega),
    Nat.add_sub_cancel]

theorem lead_four (h : n < 5) :
    lead (UInt8.ofNat (n + 0xF0)) =
      .start ⟨3, if n = 0 then 0x90 else 0x80, if n = 4 then 0x8F else 0xBF, n⟩ := by
  have hn := toNat_byte (n := n + 0xF0) (by omega)
  have hfirst : n + 0xF0 = 0xF0 ↔ n = 0 := by omega
  have hlast : n + 0xF0 = 0xF4 ↔ n = 4 := by omega
  simp only [lead, UInt8.lt_iff_toNat_lt, ← UInt8.toNat_inj, UInt8.reduceToNat, hn, hfirst, hlast]
  rw [if_neg (by omega), if_neg (by omega), if_neg (by omega), if_neg (by omega),
    if_pos (by omega), Nat.add_sub_cancel]

end Lead

section Encoded

variable {n : Nat} (bytes : List UInt8)

theorem unitsAfter_more_of_bits {p : Pending} (hmore : ¬p.missing ≤ 1)
    (hlow : p.low.toNat ≤ n + 0x80) (hhigh : n + 0x80 ≤ p.high.toNat) :
    unitsAfter (some p) (UInt8.ofNat (n + 0x80) :: bytes) =
      unitsAfter (some ⟨p.missing - 1, 0x80, 0xBF, p.bits * 64 + n⟩) bytes := by
  have hlt := p.high.toNat_lt
  have hn := toNat_byte (n := n + 0x80) (by omega)
  have hbetween : p.low ≤ UInt8.ofNat (n + 0x80) ∧ UInt8.ofNat (n + 0x80) ≤ p.high := by
    rw [UInt8.le_iff_toNat_le, UInt8.le_iff_toNat_le, hn]
    exact ⟨hlow, hhigh⟩
  rw [unitsAfter_more _ hbetween hmore, hn, Nat.add_sub_cancel]

theorem unitsAfter_last_of_bits (bits : Nat) (h : n < 0x40) :
    unitsAfter (some ⟨1, 0x80, 0xBF, bits⟩) (UInt8.ofNat (n + 0x80) :: bytes) =
      some (Char.ofNat (bits * 64 + n)) :: unitsAfter none bytes := by
  have hn := toNat_byte (n := n + 0x80) (by omega)
  have hbetween : 0x80 ≤ UInt8.ofNat (n + 0x80) ∧ UInt8.ofNat (n + 0x80) ≤ 0xBF := by
    simp only [UInt8.le_iff_toNat_le, hn, UInt8.reduceToNat]
    omega
  rw [unitsAfter_last _ hbetween (Nat.le_refl 1), hn, Nat.add_sub_cancel]

theorem unitsAfter_two (hle : 0x80 ≤ n) (hlt : n < 0x800) :
    unitsAfter none (UInt8.ofNat (n / 64 % 0x20 + 0xC0) :: UInt8.ofNat (n % 0x40 + 0x80) :: bytes) =
      some (Char.ofNat n) :: unitsAfter none bytes := by
  have hbits : n / 64 % 0x20 * 64 + n % 0x40 = n := by omega
  rw [unitsAfter_start _ (lead_two (by omega) (by omega)), unitsAfter_last_of_bits _ _ (by omega),
    hbits]

theorem unitsAfter_three (hle : 0x800 ≤ n) (hlt : n < 0x10000) (hvalid : n < 0xD800 ∨ 0xDFFF < n) :
    unitsAfter none (UInt8.ofNat (n / 4096 % 0x10 + 0xE0) ::
        UInt8.ofNat (n / 64 % 0x40 + 0x80) :: UInt8.ofNat (n % 0x40 + 0x80) :: bytes) =
      some (Char.ofNat n) :: unitsAfter none bytes := by
  have hbits : (n / 4096 % 0x10 * 64 + n / 64 % 0x40) * 64 + n % 0x40 = n := by omega
  rw [unitsAfter_start _ (lead_three (by omega)), unitsAfter_more_of_bits _ (by decide : ¬2 ≤ 1)]
  · exact (unitsAfter_last_of_bits _ _ (by omega)).trans (by rw [hbits])
  · -- an overlong form would begin with E0 and a byte below A0
    dsimp only
    split
    · change 0xA0 ≤ _
      omega
    · exact Nat.le_add_left _ _
  · -- a surrogate would begin with ED and a byte above 9F
    dsimp only
    split
    · change _ ≤ 0x9F
      omega
    · change _ ≤ 0xBF
      omega

theorem unitsAfter_four (hle : 0x10000 ≤ n) (hlt : n < 0x110000) :
    unitsAfter none (UInt8.ofNat (n / 262144 % 0x08 + 0xF0) ::
        UInt8.ofNat (n / 4096 % 0x40 + 0x80) :: UInt8.ofNat (n / 64 % 0x40 + 0x80) ::
        UInt8.ofNat (n % 0x40 + 0x80) :: bytes) =
      some (Char.ofNat n) :: unitsAfter none bytes := by
  have hbits : ((n / 262144 % 0x08 * 64 + n / 4096 % 0x40) * 64 + n / 64 % 0x40) * 64 +
      n % 0x40 = n := by omega
  rw [unitsAfter_start _ (lead_four (by omega)), unitsAfter_more_of_bits _ (by decide : ¬3 ≤ 1),
    unitsAfter_more_of_bits _ (by decide : ¬3 - 1 ≤ 1)]
  · exact (unitsAfter_last_of_bits _ _ (by omega)).trans (by rw [hbits])
  · exact Nat.le_add_left _ _
  · change _ ≤ 0xBF
    omega
  · dsimp only
    split
    · change 0x90 ≤ _
      omega
    · exact Nat.le_add_left _ _
  · dsimp only
    split
    · change _ ≤ 0x8F
      omega
    · change _ ≤ 0xBF
      omega

end Encoded

theorem unitsAfter_encodeChar (c : Char) (bytes : List UInt8) :
    unitsAfter none (String.utf8EncodeChar c ++ bytes) = some c :: unitsAfter none bytes := by
  have hvalid : c.toNat < 0xD800 ∨ 0xDFFF < c.toNat ∧ c.toNat < 0x110000 := c.valid
  have hencode : String.utf8EncodeChar c =
      if c.toNat ≤ 0x7F then [UInt8.ofNat c.toNat]
      else if c.toNat ≤ 0x7FF then
        [UInt8.ofNat (c.toNat / 64 % 0x20 + 0xC0), UInt8.ofNat (c.toNat % 0x40 + 0x80)]
      else if c.toNat ≤ 0xFFFF then
        [UInt8.ofNat (c.toNat / 4096 % 0x10 + 0xE0), UInt8.ofNat (c.toNat / 64 % 0x40 + 0x80),
          UInt8.ofNat (c.toNat % 0x40 + 0x80)]
      else
        [UInt8.ofNat (c.toNat / 262144 % 0x08 + 0xF0), UInt8.ofNat (c.toNat / 4096 % 0x40 + 0x80),
          UInt8.ofNat (c.toNat / 64 % 0x40 + 0x80), UInt8.ofNat (c.toNat % 0x40 + 0x80)] := rfl
  have hchar : some c :: unitsAfter none bytes =
      some (Char.ofNat c.toNat) :: unitsAfter none bytes := by
    rw [Char.ofNat_toNat]
  rw [hencode, hchar]
  split
  · exact unitsAfter_char _ (lead_one (by omega))
  split
  · exact unitsAfter_two _ (by omega) (by omega)
  split
  · exact unitsAfter_three _ (by omega) (by omega) (by omega)
  · exact unitsAfter_four _ (by omega) (by omega)

theorem unitsAfter_encode (cs : List Char) :
    unitsAfter none (cs.flatMap String.utf8EncodeChar) = cs.map some := by
  induction cs with
  | nil => rfl
  | cons c cs ih => rw [List.flatMap_cons, unitsAfter_encodeChar, ih, List.map_cons]

theorem toList_toUTF8 (text : String) :
    text.toUTF8.data.toList = text.toList.flatMap String.utf8EncodeChar := by
  rw [String.toUTF8_eq_toByteArray, ← String.utf8Encode_toList, List.utf8Encode,
    List.toList_data_toByteArray]

theorem decodeLossy_toUTF8 (text : String) :
    decodeLossy text.toUTF8.data.toList = text.toList := by
  rw [decodeLossy, units_eq_unitsAfter, toList_toUTF8, unitsAfter_encode, List.map_map]
  exact List.map_id _

end MailMarkup.Text.Utf8
