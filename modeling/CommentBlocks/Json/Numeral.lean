import CommentBlocks.Json.Lexeme

namespace CommentBlocks.Json

def wordValues : Nat := 18446744073709551616

/-- A number as it is written: its sign, the digits before and behind the point, and the exponent.
A missing part is `none`. -/
structure Numeral where
  negative : Bool
  whole : List Char
  fraction : Option (List Char)
  exponent : Option (Bool × List Char)
  deriving DecidableEq, Repr

def digits (atEnd : Fault) (s : List Char) : Reading (List Char) :=
  match s with
  | [] => .error atEnd
  | c :: _ =>
    if c.isDigit then .ok (s.takeWhile Char.isDigit, s.dropWhile Char.isDigit)
    else .error .malformed

def wholeDigits (atEnd : Fault) (s : List Char) : Reading (List Char) :=
  match s with
  | '0' :: c :: rest => if c.isDigit then .error .malformed else .ok (['0'], c :: rest)
  | s => digits atEnd s

def fractionPart (atEnd : Fault) (s : List Char) : Reading (Option (List Char)) :=
  match s with
  | '.' :: s => (digits atEnd s).map fun (ds, rest) => (some ds, rest)
  | s => .ok (none, s)

def exponentPart (atEnd : Fault) (s : List Char) : Reading (Option (Bool × List Char)) :=
  match s with
  | [] => .ok (none, [])
  | c :: s =>
    if c = 'e' ∨ c = 'E' then
      match s with
      | '+' :: s => (digits atEnd s).map fun (ds, rest) => (some (false, ds), rest)
      | '-' :: s => (digits atEnd s).map fun (ds, rest) => (some (true, ds), rest)
      | s => (digits atEnd s).map fun (ds, rest) => (some (false, ds), rest)
    else .ok (none, c :: s)

def numeral (atEnd : Fault) (s : List Char) : Except Fault (Numeral × List Char) := do
  let (negative, s) := match s with
    | '-' :: s => (true, s)
    | s => (false, s)
  let (whole, s) ← wholeDigits atEnd s
  let (fraction, s) ← fractionPart atEnd s
  let (exponent, s) ← exponentPart atEnd s
  return (⟨negative, whole, fraction, exponent⟩, s)

def digitValue (c : Char) : Nat := c.toNat - '0'.toNat

def valueOf (ds : List Char) : Nat := ds.foldl (fun n c => 10 * n + digitValue c) 0

/-- The leading digits as a number of sixty-four bits, with the count of the digits left over. -/
def leading (ds : List Char) : Nat × Nat :=
  ds.foldl (fun (n, left) c =>
    if left = 0 ∧ 10 * n + digitValue c < wordValues then (10 * n + digitValue c, 0)
    else (n, left + 1)) (0, 0)

/-- A natural number rounded to fifty-three significant bits, a tie to the even neighbour. -/
def roundToDouble (n : Nat) : Nat :=
  if n < Nat.pow 2 53 then n
  else
    let step := Nat.pow 2 (n.log2 - 52)
    let kept := n / step
    let cut := n % step
    let half := step / 2
    if half < cut ∨ (cut = half ∧ kept % 2 = 1) then (kept + 1) * step else kept * step

namespace Numeral

def scale (n : Numeral) : Int :=
  let fraction := n.fraction.getD []
  let power : Int := match n.exponent with
    | some (true, ds) => -(valueOf ds)
    | some (false, ds) => valueOf ds
    | none => 0
  ((leading (n.whole ++ fraction)).2 : Int) - fraction.length + power

def isTooLarge (n : Numeral) : Bool :=
  let significand := (leading (n.whole ++ n.fraction.getD [])).1
  let scale := n.scale
  significand != 0 && (decide (308 < scale) ||
    decide (0 ≤ scale ∧
      Nat.pow 2 1024 - Nat.pow 2 970 ≤
        roundToDouble significand * roundToDouble (Nat.pow 10 scale.toNat)))

def natural? (n : Numeral) : Option Nat :=
  if n.negative || n.fraction.isSome || n.exponent.isSome then none
  else if valueOf n.whole < wordValues then some (valueOf n.whole)
  else none

end Numeral

def number (s : List Char) : Except Fault (Numeral × List Char) := do
  let (n, rest) ← numeral .truncated s
  if n.natural?.isNone && n.isTooLarge then .error .malformed
  else .ok (n, rest)

end CommentBlocks.Json
