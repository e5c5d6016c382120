namespace MailMarkup.Text

def replacement : Char := '\uFFFD'

/-- A text that may hold halves of surrogate pairs. A half is no character: the replacement is shown
for it, and its place, counted from 0, is kept with its value. -/
structure Wide where
  shown : String
  halves : List (Nat × Nat)
  deriving DecidableEq, Repr

instance : Coe String Wide := ⟨fun s => ⟨s, []⟩⟩

namespace Wide

def hasHalves (t : Wide) : Bool := !t.halves.isEmpty

/-- A text that is being read, the latest character first. -/
structure Draft where
  chars : List Char
  size : Nat
  halves : List (Nat × Nat)

namespace Draft

def empty : Draft := ⟨[], 0, []⟩

def push (d : Draft) (c : Char) : Draft := ⟨c :: d.chars, d.size + 1, d.halves⟩

def pushPoint (d : Draft) (n : Nat) : Draft :=
  if n.isValidChar then d.push (Char.ofNat n)
  else ⟨replacement :: d.chars, d.size + 1, (d.size, n) :: d.halves⟩

def text (d : Draft) : Wide := ⟨String.ofList d.chars.reverse, d.halves.reverse⟩

end Draft

def ofCodePoints (points : List Nat) : Wide := (points.foldl Draft.pushPoint .empty).text

end Wide

end MailMarkup.Text
