import SchemaBinding.Text.CodePoint

/-!
# Signed decimal numerals

A numeral is an optional sign and decimal digits of any script, between which
single underscores may stand.  The number of digits is limited.
-/

namespace SchemaBinding.Text.Numeral

def maxDigits : Nat := 4300

/-- The values of the digits, read with single underscores between them. -/
def digits? : List Char → Option (List Nat)
  | [] => none
  | [c] => (digitValue? c).map ([·])
  | c :: '_' :: rest => do
      let value ← digitValue? c
      let values ← digits? rest
      return value :: values
  | c :: d :: rest => do
      let value ← digitValue? c
      let values ← digits? (d :: rest)
      return value :: values

def ofDigits (values : List Nat) : Nat :=
  values.foldl (fun total value => 10 * total + value) 0

theorem ofDigits_append (values : List Nat) (last : Nat) :
    ofDigits (values ++ [last]) = 10 * ofDigits values + last := by
  simp [ofDigits]

def splitSign : List Char → Bool × List Char
  | '-' :: rest => (true, rest)
  | '+' :: rest => (false, rest)
  | rest => (false, rest)

def read? (text : List Char) : Option Int := do
  let (negative, magnitude) := splitSign text
  let values ← digits? magnitude
  if values.length ≤ maxDigits then
    return if negative then -Int.ofNat (ofDigits values) else Int.ofNat (ofDigits values)
  else none

example : read? "+1_0".toList = some 10 := by decide

example : read? "1__0".toList = none := by decide

end SchemaBinding.Text.Numeral
