namespace MailMarkup.Text

/-- Whether `c` is a form of the lower-case ASCII character `k` when case is ignored. Beside the two
ASCII cases these are the long s, the Kelvin sign and the Turkish dotted and dotless i. -/
def sameLetter (k c : Char) : Bool :=
  c == k || c.toLower == k ||
    (k == 's' && c == '\u017F') || (k == 'k' && c == '\u212A') ||
    (k == 'i' && (c == '\u0130' || c == '\u0131'))

def keyword? : List Char → List Char → Option (List Char × List Char)
  | [], cs => some ([], cs)
  | _ :: _, [] => none
  | k :: ks, c :: cs =>
    if sameLetter k c then (keyword? ks cs).map fun (written, rest) => (c :: written, rest) else none

def startsWithKeyword (word : String) (cs : List Char) : Bool := (keyword? word.toList cs).isSome

def occursIn (word : List Char) : List Char → Bool
  | [] => word.isEmpty
  | c :: cs => word.isPrefixOf (c :: cs) || occursIn word cs

theorem occursIn_iff {word cs : List Char} : occursIn word cs = true ↔ word <:+: cs := by
  induction cs with
  | nil => simp [occursIn]
  | cons c cs ih =>
    rw [occursIn, Bool.or_eq_true, List.isPrefixOf_iff_prefix, ih, List.infix_cons_iff]

theorem append_of_keyword? {ks cs written rest : List Char}
    (h : keyword? ks cs = some (written, rest)) : written ++ rest = cs := by
  fun_induction keyword? ks cs generalizing written with
  | case1 cs => simp_all
  | case2 => cases h
  | case3 k ks c cs _ ih =>
    obtain ⟨⟨w, r⟩, hw, he⟩ := Option.map_eq_some_iff.1 h
    simp only [Prod.mk.injEq] at he
    obtain ⟨rfl, rfl⟩ := he
    simp [ih hw]
  | case4 => cases h

end MailMarkup.Text
