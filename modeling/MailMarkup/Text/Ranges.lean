namespace MailMarkup.Text

/-- A set of numbers given by the points at which membership changes, in increasing order, the
first of them the least member. -/
abbrev Ranges := List Nat

def Ranges.memberFrom (n : Nat) : Bool → Ranges → Bool
  | inside, [] => inside
  | inside, b :: bs => if n < b then inside else Ranges.memberFrom n (!inside) bs

def Ranges.member (r : Ranges) (n : Nat) : Bool := Ranges.memberFrom n false r

end MailMarkup.Text
