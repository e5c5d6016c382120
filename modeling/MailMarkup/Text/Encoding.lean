import MailMarkup.Text.Utf8

namespace MailMarkup.Text

inductive Encoding where
  | utf8
  | utf16 (bigEndian : Bool)
  | utf32 (bigEndian : Bool)
  deriving DecidableEq, Repr

namespace Encoding

/-- The encoding that the first bytes of a text show, and the text without its byte order mark.
Without a mark the zero bytes among the first four decide. -/
def detect (bytes : List UInt8) : Encoding × List UInt8 :=
  match bytes with
  | 0x00 :: 0x00 :: 0xFE :: 0xFF :: rest => (.utf32 true, rest)
  | 0xFF :: 0xFE :: 0x00 :: 0x00 :: rest => (.utf32 false, rest)
  | 0xFE :: 0xFF :: rest => (.utf16 true, rest)
  | 0xFF :: 0xFE :: rest => (.utf16 false, rest)
  | 0xEF :: 0xBB :: 0xBF :: rest => (.utf8, rest)
  | a :: b :: c :: d :: _ =>
    if a = 0 then (if b = 0 then .utf32 true else .utf16 true, bytes)
    else if b = 0 then (if c = 0 ∧ d = 0 then .utf32 false else .utf16 false, bytes)
    else (.utf8, bytes)
  | [a, b] =>
    if a = 0 then (.utf16 true, bytes)
    else if b = 0 then (.utf16 false, bytes)
    else (.utf8, bytes)
  | _ => (.utf8, bytes)

def number (bigEndian : Bool) (bytes : List UInt8) : Nat :=
  (if bigEndian then bytes else bytes.reverse).foldl (fun n b => 256 * n + b.toNat) 0

def pairs? : List UInt8 → List (List UInt8) → Option (List (List UInt8))
  | [], done => some done.reverse
  | a :: b :: rest, done => pairs? rest ([a, b] :: done)
  | _, _ => none

def quads? : List UInt8 → List (List UInt8) → Option (List (List UInt8))
  | [], done => some done.reverse
  | a :: b :: c :: d :: rest, done => quads? rest ([a, b, c, d] :: done)
  | _, _ => none

def joinSurrogates : List Nat → List Nat → List Nat
  | [], done => done.reverse
  | [u], done => (u :: done).reverse
  | u :: v :: rest, done =>
    if 0xD800 ≤ u ∧ u < 0xDC00 ∧ 0xDC00 ≤ v ∧ v < 0xE000 then
      joinSurrogates rest ((0x10000 + (u - 0xD800) * 0x400 + (v - 0xDC00)) :: done)
    else joinSurrogates (v :: rest) (u :: done)

def decode? : Encoding → List UInt8 → Option Wide
  | .utf8, bytes => Utf8.decodeWide? bytes
  | .utf16 big, bytes =>
    (pairs? bytes []).map fun units => .ofCodePoints (joinSurrogates (units.map (number big)) [])
  | .utf32 big, bytes =>
    match quads? bytes [] with
    | none => none
    | some units =>
      let points := units.map (number big)
      if points.all (· < 0x110000) then some (.ofCodePoints points) else none

end Encoding

end MailMarkup.Text
