namespace MailMarkup.Text

/-- White space of every script, and the four information separators. -/
def isBlank (c : Char) : Bool :=
  let n := c.toNat
  decide (9 ≤ n ∧ n ≤ 13) || decide (28 ≤ n ∧ n ≤ 32) || n == 0x85 || n == 0xA0 || n == 0x1680 ||
    decide (0x2000 ≤ n ∧ n ≤ 0x200A) || n == 0x2028 || n == 0x2029 || n == 0x202F ||
    n == 0x205F || n == 0x3000

def isInlineBlank (c : Char) : Bool := isBlank c && c != '\n' && c != '\r'

def trimLeft (cs : List Char) : List Char := cs.dropWhile isBlank

def trimRight (cs : List Char) : List Char := (cs.reverse.dropWhile isBlank).reverse

def trim (cs : List Char) : List Char := trimRight (trimLeft cs)

def pieces (p : Char → Bool) (cs : List Char) : List (List Char) :=
  cs.foldr (fun c ws =>
    if p c then [] :: ws
    else match ws with
      | [] => [[c]]
      | w :: ws => (c :: w) :: ws) [[]]

def words (cs : List Char) : List (List Char) := (pieces isBlank cs).filter (!·.isEmpty)

theorem pieces_ne_nil (p : Char → Bool) (cs : List Char) : pieces p cs ≠ [] := by
  cases cs with
  | nil => simp [pieces]
  | cons c cs =>
    simp only [pieces, List.foldr_cons]
    split
    · simp
    · split <;> simp

@[simp] theorem pieces_nil (p : Char → Bool) : pieces p [] = [[]] := rfl

theorem pieces_cons_of_pos {p : Char → Bool} {c : Char} (h : p c = true) (cs : List Char) :
    pieces p (c :: cs) = [] :: pieces p cs := by
  simp [pieces, h]

theorem pieces_cons_of_neg {p : Char → Bool} {c : Char} (h : p c = false) {cs w : List Char}
    {ws : List (List Char)} (hw : pieces p cs = w :: ws) :
    pieces p (c :: cs) = (c :: w) :: ws := by
  have hf : pieces p (c :: cs) = match pieces p cs with
      | [] => [[c]]
      | w :: ws => (c :: w) :: ws := by
    simp [pieces, h]
  rw [hf, hw]

end MailMarkup.Text
