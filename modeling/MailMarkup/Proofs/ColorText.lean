import MailMarkup.Proofs.ColorGrammar
import MailMarkup.Proofs.LetterCase

namespace MailMarkup.Rgb

def HasByteChannels (c : Rgb) : Prop := ∀ n ∈ c.toList, 0 ≤ n ∧ n ≤ 255

theorem hasByteChannels_iff {c : Rgb} :
    c.HasByteChannels ↔ (0 ≤ c.red ∧ c.red ≤ 255) ∧ (0 ≤ c.green ∧ c.green ≤ 255) ∧
      0 ≤ c.blue ∧ c.blue ≤ 255 := by
  simp [HasByteChannels, toList]

theorem HexDigits.hasByteChannels {digits : List Char} {c : Rgb} (h : HexDigits digits c) :
    c.HasByteChannels := by
  induction h with
  | six hr hr' hg hg' hb hb' =>
    simp only [IsHexDigit] at hr hr' hg hg' hb hb'
    rw [hasByteChannels_iff]
    dsimp only
    omega
  | three _ ih => exact ih

theorem hasByteChannels_of_read? {cs : List Char} {c : Rgb} (h : read? cs = some c) :
    c.HasByteChannels := by
  rcases read?_eq_some_iff.mp h with (h | ⟨digits, -, h⟩) | ⟨args, -, ⟨hred, hgreen, hblue⟩, rfl⟩
  · exact h.hasByteChannels
  · exact h.hasByteChannels
  · rw [hasByteChannels_iff]
    simp only [Arguments.color]
    omega

theorem HasByteChannels.invert {c : Rgb} (h : c.HasByteChannels) : c.invert.HasByteChannels := by
  rw [hasByteChannels_iff] at *
  simp only [Rgb.invert]
  omega

def pair (n : Int) : List Char := [Nat.digitChar (n.toNat / 16), Nat.digitChar (n.toNat % 16)]

theorem hexChannel_eq_pair {n : Int} (h : 0 ≤ n ∧ n ≤ 255) : hexChannel n = pair n := by
  obtain ⟨k, rfl⟩ := Int.eq_ofNat_of_zero_le h.1
  have hk : k ≤ 255 := by omega
  simp only [hexChannel, pair, Int.natAbs_natCast, Int.toNat_natCast]
  rw [if_neg (by omega)]
  by_cases hsmall : k < 16
  · rw [Nat.toDigits_of_lt_base hsmall, Nat.div_eq_of_lt hsmall, Nat.mod_eq_of_lt hsmall]
    rfl
  · rw [Nat.toDigits_of_base_le (by decide) (by omega), Nat.toDigits_of_lt_base (by omega)]
    rfl

def digits (c : Rgb) : List Char := c.toList.flatMap pair

theorem toHex_eq {c : Rgb} (h : c.HasByteChannels) : c.toHex = String.ofList ('#' :: c.digits) := by
  have hchannels : c.toList.flatMap hexChannel = c.digits :=
    List.flatMap_congr fun n hn => hexChannel_eq_pair (h n hn)
  rw [toHex, hchannels]

theorem isHexDigit_digitChar {n : Nat} (h : n < 16) : IsHexDigit (Nat.digitChar n) n := by
  have hlower : ∀ m : Fin 16, (Nat.digitChar m).toLower = Nat.digitChar m := by decide
  exact ⟨h, hlower ⟨n, h⟩⟩

theorem hexDigits_digits {c : Rgb} (h : c.HasByteChannels) : HexDigits c.digits c := by
  obtain ⟨r, g, b⟩ := c
  obtain ⟨⟨hr, hr'⟩, ⟨hg, hg'⟩, hb, hb'⟩ := hasByteChannels_iff.mp h
  dsimp only at hr hr' hg hg' hb hb'
  have hhigh {n : Int} (hn : n ≤ 255) : IsHexDigit (Nat.digitChar (n.toNat / 16)) (n.toNat / 16) :=
    isHexDigit_digitChar (by omega)
  have hlow (n : Int) : IsHexDigit (Nat.digitChar (n.toNat % 16)) (n.toNat % 16) :=
    isHexDigit_digitChar (Nat.mod_lt _ (by decide))
  have hsum {n : Int} (hn : 0 ≤ n) : 16 * (n.toNat / 16 : Nat) + (n.toNat % 16 : Nat) = n := by
    omega
  have hsix := HexDigits.six (hhigh hr') (hlow r) (hhigh hg') (hlow g) (hhigh hb') (hlow b)
  rw [hsum hr, hsum hg, hsum hb] at hsix
  exact hsix

theorem IsHexDigit.isBlank_eq_false {d : Char} {n : Nat} (h : IsHexDigit d n) :
    Text.isBlank d = false := by
  have hdigit : ∀ m : Fin 16, Text.isBlank (Nat.digitChar m) = false := by decide
  rw [← of_toLower Text.isBlank (by decide) d, h.2]
  exact hdigit ⟨n, h.1⟩

theorem HexDigits.isBlank_eq_false {digits : List Char} {c : Rgb} (h : HexDigits digits c) :
    ∀ d ∈ digits, Text.isBlank d = false := by
  induction h with
  | six hr hr' hg hg' hb hb' =>
    simp [hr.isBlank_eq_false, hr'.isBlank_eq_false, hg.isBlank_eq_false, hg'.isBlank_eq_false,
      hb.isBlank_eq_false, hb'.isBlank_eq_false]
  | three _ ih => simpa using ih

theorem parse_hash {digits : List Char} {c : Rgb} (h : HexDigits digits c) :
    parse (String.ofList ('#' :: digits)) = .ok c := by
  have hvisible : ∀ d ∈ '#' :: digits, Text.isBlank d = false :=
    List.forall_mem_cons.mpr ⟨by decide, h.isBlank_eq_false⟩
  have htrim : Text.trim ('#' :: digits) = '#' :: digits :=
    Text.trim_eq_self (fun d hd => hvisible d (List.mem_of_mem_head? hd))
      (fun d hd => hvisible d (List.mem_of_getLast? hd))
  rw [parse_eq_ok_iff, String.toList_ofList, htrim, read?_eq_some_iff]
  exact Or.inl (Or.inr ⟨digits, rfl, h⟩)

theorem parse_toHex {c : Rgb} (h : c.HasByteChannels) : parse c.toHex = .ok c := by
  rw [toHex_eq h]
  exact parse_hash (hexDigits_digits h)

theorem invertHex_of_parse {text : String} {c : Rgb} (h : parse text = .ok c) :
    invertHex text = .ok c.invert.toHex := by
  rw [invertHex, h]
  rfl

theorem ofHex?_toLower (cs : List Char) : ofHex? (cs.map Char.toLower) = ofHex? cs := by
  have hvalue : hexValue? ∘ Char.toLower = hexValue? := funext (of_toLower hexValue? (by decide))
  have hhash : ((cs.map Char.toLower).head? == some '#') = (cs.head? == some '#') := by
    have hmark := toLower_eq_iff (d := '#') (by decide)
    cases cs <;> simp [hmark]
  have hdigits : (if (cs.head? == some '#') = true then (cs.map Char.toLower).tail
      else cs.map Char.toLower) =
      (if (cs.head? == some '#') = true then cs.tail else cs).map Char.toLower := by
    split <;> simp
  simp only [ofHex?, hhash, hdigits, List.mapM_map, hvalue]

theorem read?_toLower (cs : List Char) : read? (cs.map Char.toLower) = read? cs := by
  rw [read?, ofHex?_toLower, Text.lower_toLower, read?]

theorem parse_variant {text text' : String} {c : Rgb} (h : parse text = .ok c)
    (hcase : SameButCase text' text) {front back : String}
    (hfront : ∀ d ∈ front.toList, Text.isBlank d = true)
    (hback : ∀ d ∈ back.toList, Text.isBlank d = true) :
    parse (front ++ text' ++ back) = .ok c := by
  have htrim : Text.trim (front ++ text' ++ back).toList = Text.trim text'.toList := by
    rw [String.toList_append, String.toList_append, List.append_assoc,
      Text.trim_padded hfront hback]
  rw [parse_eq_ok_iff] at h ⊢
  rw [htrim, ← read?_toLower, ← Text.trim_toLower, hcase, Text.trim_toLower, read?_toLower, h]

def hexDigits : List Char := "0123456789abcdef".toList

theorem mem_hexDigits_iff {d : Char} : d ∈ hexDigits ↔ ∃ n < 16, Nat.digitChar n = d := by
  have hlist : hexDigits = (List.range 16).map Nat.digitChar := by decide
  simp only [hlist, List.mem_map, List.mem_range]

theorem mem_hexDigits_of_mem_digits {c : Rgb} (h : c.HasByteChannels) :
    ∀ d ∈ c.digits, d ∈ hexDigits := by
  intro d hd
  obtain ⟨n, hn, hpair⟩ := List.mem_flatMap.mp hd
  have hle := (h n hn).2
  rw [mem_hexDigits_iff]
  simp only [pair, List.mem_cons, List.not_mem_nil, or_false] at hpair
  rcases hpair with rfl | rfl
  · exact ⟨_, by omega, rfl⟩
  · exact ⟨_, Nat.mod_lt _ (by decide), rfl⟩

theorem pair_of_digits {m n : Nat} (hn : n < 16) :
    pair (16 * m + n) = [Nat.digitChar m, Nat.digitChar n] := by
  have hvalue : (16 * m + n : Int).toNat = 16 * m + n := by omega
  rw [pair, hvalue, Nat.mul_add_div (by decide), Nat.div_eq_of_lt hn, Nat.mul_add_mod,
    Nat.mod_eq_of_lt hn, Nat.add_zero]

theorem exists_of_hexDigits {ds : List Char} (hlength : ds.length = 6)
    (hds : ∀ d ∈ ds, d ∈ hexDigits) : ∃ c : Rgb, c.HasByteChannels ∧ c.digits = ds := by
  rcases ds with _ | ⟨r, _ | ⟨r', _ | ⟨g, _ | ⟨g', _ | ⟨b, _ | ⟨b', _ | ⟨d, ds⟩⟩⟩⟩⟩⟩⟩ <;>
    simp at hlength
  simp only [List.forall_mem_cons, mem_hexDigits_iff] at hds
  obtain ⟨⟨m, hm, rfl⟩, ⟨m', hm', rfl⟩, ⟨n, hn, rfl⟩, ⟨n', hn', rfl⟩, ⟨k, hk, rfl⟩,
    ⟨k', hk', rfl⟩, -⟩ := hds
  refine ⟨⟨16 * m + m', 16 * n + n', 16 * k + k'⟩, ?_, ?_⟩
  · rw [hasByteChannels_iff]
    dsimp only
    omega
  · simp [digits, toList, pair_of_digits hm', pair_of_digits hn', pair_of_digits hk']

/-- Writing a color and reading it are inverse to one another, and so is inverting it twice;
however a color was written, it is read the same with blanks around it and in any case. -/
theorem written_color_is_read_back :
    (∀ text c, parse text = .ok c →
      (∀ n ∈ c.toList, 0 ≤ n ∧ n ≤ 255) ∧
      parse c.toHex = .ok c ∧
      (∃ ds, c.toHex = String.ofList ('#' :: ds) ∧ ds.length = 6 ∧ ∀ d ∈ ds, d ∈ hexDigits) ∧
      (∃ inverse, invertHex text = .ok inverse ∧ parse inverse = .ok c.invert ∧
        invertHex inverse = .ok c.toHex) ∧
      ∀ text' front back, SameButCase text' text →
        (∀ d ∈ front.toList, Text.isBlank d = true) →
        (∀ d ∈ back.toList, Text.isBlank d = true) → parse (front ++ text' ++ back) = .ok c) ∧
    ∀ ds, ds.length = 6 → (∀ d ∈ ds, d ∈ hexDigits) →
      ∃ c, parse (String.ofList ('#' :: ds)) = .ok c ∧ c.toHex = String.ofList ('#' :: ds) := by
  constructor
  · intro text c h
    have hbyte : c.HasByteChannels := hasByteChannels_of_read? (parse_eq_ok_iff.mp h)
    refine ⟨hbyte, parse_toHex hbyte, ?_, ?_, ?_⟩
    · exact ⟨c.digits, toHex_eq hbyte, rfl, mem_hexDigits_of_mem_digits hbyte⟩
    · have hinverse : parse c.invert.toHex = .ok c.invert := parse_toHex hbyte.invert
      refine ⟨c.invert.toHex, invertHex_of_parse h, hinverse, ?_⟩
      rw [invertHex_of_parse hinverse, invert_invert]
    · intro text' front back hcase hfront hback
      exact parse_variant h hcase hfront hback
  · intro ds hlength hds
    obtain ⟨c, hbyte, rfl⟩ := exists_of_hexDigits hlength hds
    exact ⟨c, parse_hash (hexDigits_digits hbyte), toHex_eq hbyte⟩

theorem shouted_call_is_read_back :
    parse "\u3000RGBA(١,010  16,Alpha)\n" = .ok ⟨1, 10, 16⟩ ∧
      parse (Rgb.mk 1 10 16).toHex = .ok ⟨1, 10, 16⟩ ∧ (Rgb.mk 1 10 16).toHex = "#010a10" ∧
      ∃ c, parse "#0a0b0c" = .ok c ∧ c.toHex = "#0a0b0c" := by
  have hread : parse "rgba(١,010  16,alpha)" = .ok ⟨1, 10, 16⟩ := by decide +kernel
  obtain ⟨-, hback, -, -, hvariant⟩ := written_color_is_read_back.1 _ _ hread
  refine ⟨?_, hback, by decide +kernel, ?_⟩
  · exact hvariant "RGBA(١,010  16,Alpha)" "\u3000" "\n" (by decide +kernel)
      (List.all_eq_true.mp rfl) (List.all_eq_true.mp rfl)
  · have hdigits : "0a0b0c".toList.all hexDigits.contains = true := by decide
    apply written_color_is_read_back.2 "0a0b0c".toList rfl
    intro d hd
    exact List.contains_iff_mem.mp (List.all_eq_true.mp hdigits d hd)

end MailMarkup.Rgb
