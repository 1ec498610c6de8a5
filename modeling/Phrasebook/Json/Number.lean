import Phrasebook.Json.Basic
import Phrasebook.Text.Digits

/-! # JSON numbers

    A number is read as a significand of at most 64 bits and a power of ten. As
    long as it is written without a point or an exponent and fits, it is an
    integer. Otherwise the significand is rounded to a binary number and then
    multiplied or divided once by the power of ten, so the result can be a unit
    away from the nearest binary number.
-/

namespace Phrasebook.Json

open Text

/-- Read digits into a significand for as long as it stays below `2 ^ 64`. -/
def significand (n : Nat) : List Char → Nat × List Char
  | [] => (n, [])
  | c :: cs =>
    match digit? c with
    | none => (n, c :: cs)
    | some d => if 10 * n + d < 2 ^ 64 then significand (10 * n + d) cs else (n, c :: cs)

/-- The binary number nearest to a power of ten. -/
def power (k : Nat) : Binary64 :=
  .ofRatio false (10 ^ k) 1

/-- A number divided by `10 ^ k`, by the largest power in range as often as needed. -/
def divided (x : Binary64) (k : Nat) : Binary64 :=
  if k ≤ 308 then x.div (power k)
  -- what is zero by now stays zero, whatever is left of the power
  else if x.sameValue (.zero false) then x
  else divided (x.div (power 308)) (k - 308)
termination_by k

/-- The binary number for `significand * 10 ^ exponent`; none when it is out of range. -/
def scaled? (n : Nat) (exponent : Int) : Option Binary64 :=
  let x := Binary64.ofInt n
  if exponent < 0 then some (divided x (-exponent).toNat)
  else if exponent ≤ 308 then
    let y := x.mul (power exponent.toNat)
    if y.isFinite then some y else none
  -- zero needs no power of ten, however large
  else if n = 0 then some x
  else none

/-- The signed binary number, or the fault of a number out of range. -/
def real? (negative : Bool) (n : Nat) (exponent : Int) : Except Fault Json :=
  match scaled? n exponent with
  | some x => .ok (.real (if negative then x.neg else x))
  | none => .error .malformed

/-- The integer if it fits 64 bits and is not a negative zero, else the nearest binary number. -/
def whole (negative : Bool) (n : Nat) : Json :=
  if negative then
    -- a negative zero has no integer to stand for it
    if n = 0 ∨ 2 ^ 63 < n then .real (Binary64.ofInt n).neg else .integer (-(n : Int))
  else .integer n

/-- Read the exponent behind its letter and finish the number. -/
def exponentPart (negative : Bool) (n : Nat) (exponent : Int) (cs : List Char) :
    Except Fault (Json × List Char) :=
  let (down, cs) :=
    match cs with
    | '-' :: cs => (true, cs)
    | '+' :: cs => (false, cs)
    | cs => (false, cs)
  match natural? (cs.takeWhile Char.isDigit) with
  | none => .error (if cs.isEmpty then .ended else .malformed)
  | some e => do
    let rest := cs.dropWhile Char.isDigit
    if e < 2 ^ 31 then
      return (← real? negative n (if down then exponent - e else exponent + e), rest)
    -- nothing is computed from so large an exponent: the number is zero or out of range
    else if n = 0 ∨ down then return (.real (.zero negative), rest)
    else throw .malformed

/-- Finish a number behind its digits: an exponent or nothing. -/
def realTail (negative : Bool) (n : Nat) (exponent : Int) (cs : List Char) :
    Except Fault (Json × List Char) :=
  match cs with
  | 'e' :: rest => exponentPart negative n exponent rest
  | 'E' :: rest => exponentPart negative n exponent rest
  | rest => (real? negative n exponent).map (·, rest)

/-- Read the digits behind the point. Those that no longer fit the significand are dropped. -/
def fractionPart (negative : Bool) (n : Nat) (exponent : Int) (cs : List Char) :
    Except Fault (Json × List Char) :=
  let (m, rest) := significand n cs
  let used := cs.length - rest.length
  let tail := rest.dropWhile Char.isDigit
  -- there is no digit behind the point
  if tail.length = cs.length then .error (if cs.isEmpty then .ended else .malformed)
  else realTail negative m (exponent - used) tail

def unsignedNumber (negative : Bool) (cs : List Char) : Except Fault (Json × List Char) :=
  match cs with
  | [] => .error .ended
  | c :: more =>
    if !c.isDigit then .error .malformed
    -- no digit follows a zero at the front
    else if c == '0' && (more.head?.any Char.isDigit) then .error .malformed
    else
      let (n, rest) := significand 0 cs
      -- digits that no longer fit the significand count as a power of ten
      let extra := rest.takeWhile Char.isDigit
      match rest.dropWhile Char.isDigit with
      | '.' :: tail => fractionPart negative n extra.length tail
      | 'e' :: tail => exponentPart negative n extra.length tail
      | 'E' :: tail => exponentPart negative n extra.length tail
      | tail =>
        if extra.isEmpty then .ok (whole negative n, tail)
        else (real? negative n extra.length).map (·, tail)

/-- Read a number that starts with a digit or a minus sign. -/
def number : List Char → Except Fault (Json × List Char)
  | '-' :: cs => unsignedNumber true cs
  | cs => unsignedNumber false cs

end Phrasebook.Json
