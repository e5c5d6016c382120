import MailMarkup.Text.Wide

namespace MailMarkup.Text.Utf8

/-- A character of which bytes are still to come: how many, between which bounds the next one lies,
and the value of the bits so far. -/
structure Pending where
  missing : Nat
  low : UInt8
  high : UInt8
  bits : Nat
  deriving DecidableEq, Repr

inductive Lead where
  | char (c : Char)
  | start (p : Pending)
  | invalid
  deriving DecidableEq, Repr

def lead (b : UInt8) : Lead :=
  -- neither overlong forms nor surrogates nor values beyond the last plane can start
  if b < 0x80 then .char (Char.ofNat b.toNat)
  else if b < 0xC2 then .invalid
  else if b < 0xE0 then .start ⟨1, 0x80, 0xBF, b.toNat - 0xC0⟩
  else if b < 0xF0 then
    .start ⟨2, if b = 0xE0 then 0xA0 else 0x80, if b = 0xED then 0x9F else 0xBF, b.toNat - 0xE0⟩
  else if b < 0xF5 then
    .start ⟨3, if b = 0xF0 then 0x90 else 0x80, if b = 0xF4 then 0x8F else 0xBF, b.toNat - 0xF0⟩
  else .invalid

/-- What a byte adds to the text and what it leaves pending; `none` in the text marks bytes that are
no text. A byte that does not continue a character ends it and is looked at afresh. -/
def step (pending : Option Pending) (b : UInt8) : List (Option Char) × Option Pending :=
  let fresh : List (Option Char) × Option Pending :=
    match lead b with
    | .char c => ([some c], none)
    | .start p => ([], some p)
    | .invalid => ([none], none)
  match pending with
  | none => fresh
  | some p =>
    if p.low ≤ b ∧ b ≤ p.high then
      let bits := p.bits * 64 + (b.toNat - 0x80)
      if p.missing ≤ 1 then ([some (Char.ofNat bits)], none)
      else ([], some ⟨p.missing - 1, 0x80, 0xBF, bits⟩)
    else (none :: fresh.1, fresh.2)

/-- The characters of a text, `none` for every longest run of bytes that starts a character and
does not finish it. -/
def units (bytes : List UInt8) : List (Option Char) :=
  let (done, pending) := bytes.foldl
    (fun (done, pending) b => let r := step pending b; (r.1.reverse ++ done, r.2)) ([], none)
  (if pending.isSome then none :: done else done).reverse

def decodeLossy (bytes : List UInt8) : List Char := (units bytes).map (·.getD replacement)

def decode? (bytes : List UInt8) : Option (List Char) :=
  let us := units bytes
  if us.all Option.isSome then some (us.filterMap id) else none

def isContinuation (b : UInt8) : Bool := decide (0x80 ≤ b ∧ b ≤ 0xBF)

/-- Finds halves that are written like characters, in three bytes, and writes the replacement for
them: the bytes, and the halves with their places. The bytes and halves before are given the latest
first, with the number of characters before. -/
def takeHalves (place : Nat) (done : List UInt8) (halves : List (Nat × Nat)) :
    List UInt8 → List UInt8 × List (Nat × Nat)
  | [] => (done.reverse, halves.reverse)
  | [a] => ((a :: done).reverse, halves.reverse)
  | [a, b] => ((b :: a :: done).reverse, halves.reverse)
  | a :: b :: c :: rest =>
    if a = 0xED ∧ 0xA0 ≤ b ∧ b ≤ 0xBF ∧ isContinuation c then
      let half := 0xD000 + (b.toNat - 0x80) * 64 + (c.toNat - 0x80)
      takeHalves (place + 1) (0xBD :: 0xBF :: 0xEF :: done) ((place, half) :: halves) rest
    else takeHalves (if isContinuation a then place else place + 1) (a :: done) halves (b :: c :: rest)

def decodeWide? (bytes : List UInt8) : Option Wide :=
  let (plain, halves) := takeHalves 0 [] [] bytes
  (decode? plain).map fun cs => ⟨String.ofList cs, halves⟩

end MailMarkup.Text.Utf8
