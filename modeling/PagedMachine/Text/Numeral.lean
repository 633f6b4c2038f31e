/-!
# Decimal numerals typed at the console

A numeral is an optional sign followed by one or more ASCII digits, with nothing around it.
A plus sign is allowed for every kind of number; a minus sign only where negative values exist.
Leading zeros are allowed. A numeral whose value does not fit the target range is refused as
a whole, like any other malformed text.
-/

namespace PagedMachine.Text

/-- The value of a nonempty run of ASCII digits. -/
def digitsValue? (cs : List Char) : Option Nat :=
  if cs.isEmpty then none
  else if cs.all Char.isDigit then
    some (cs.foldl (fun n c => 10 * n + (c.toNat - '0'.toNat)) 0)
  else none

/-- An unsigned numeral below `bound`. -/
def parseNatBelow? (bound : Nat) (s : String) : Option Nat :=
  let digits := match s.toList with
    | '+' :: rest => rest
    | cs => cs
  match digitsValue? digits with
  | some n => if n < bound then some n else none
  | none => none

/-- A signed numeral between `lo` and `hi`, both included. -/
def parseIntWithin? (lo hi : Int) (s : String) : Option Int :=
  let (negative, digits) := match s.toList with
    | '+' :: rest => (false, rest)
    | '-' :: rest => (true, rest)
    | cs => (false, cs)
  match digitsValue? digits with
  | some n =>
    let v : Int := if negative then -(n : Int) else n
    if lo ≤ v ∧ v ≤ hi then some v else none
  | none => none

/-- One more than the largest unsigned 64-bit number, 2 to the 64th. -/
def unsignedBound : Nat := 18446744073709551616

example : parseNatBelow? 100 "+007" = some 7 := by decide
example : parseNatBelow? 100 "-0" = none := by decide
example : parseIntWithin? (-5) 5 "-0" = some 0 := by decide
example : parseIntWithin? (-5) 5 "--1" = none := by decide

end PagedMachine.Text
