/-!
# Binary floating point numbers

A number of 64 bits is a significand times a power of two.  A decimal numeral
stands for the nearest such number, of two equally near ones for the one with
an even significand.  A number is shown by the fewest decimal digits that stand
for it, of several such numerals by the nearest one.
-/

namespace SchemaBinding.Json

inductive Double where
  /-- The significand times two to the power of the exponent. -/
  | finite (negative : Bool) (significand : Nat) (exponent : Int)
  | infinite (negative : Bool)
  | notANumber
deriving DecidableEq, Repr

namespace Double

/-- The least significand of a number that is not close to zero. -/
def leastSignificand : Nat := Nat.pow 2 52

def leastExponent : Int := -1074

def greatestExponent : Int := 971

/-- A quotient rounded to the nearest number, of two such to the even one. -/
def roundedQuotient (numerator denominator : Nat) : Nat :=
  let quotient := numerator / denominator
  let rest := 2 * (numerator % denominator)
  if rest < denominator || (rest == denominator && quotient % 2 == 0) then quotient
  else quotient + 1

/-- A fraction with a factor `base ^ exponent` taken into it. -/
def scaled (base : Nat) (numerator denominator : Nat) (exponent : Int) : Nat × Nat :=
  match exponent with
  | .ofNat power => (numerator * base.pow power, denominator)
  | .negSucc power => (numerator, denominator * base.pow (power + 1))

def ofFraction (negative : Bool) (numerator denominator : Nat) : Double :=
  let estimate : Int := numerator.log2 - denominator.log2 - 52
  let isLow (exponent : Int) : Bool :=
    let (above, below) := scaled 2 numerator denominator (-exponent)
    decide (above < leastSignificand * below)
  let exponent := max leastExponent (if isLow estimate then estimate - 1 else estimate)
  let (above, below) := scaled 2 numerator denominator (-exponent)
  let significand := roundedQuotient above below
  let (significand, exponent) :=
    if significand = 2 * leastSignificand then (leastSignificand, exponent + 1)
    else (significand, exponent)
  if exponent > greatestExponent then .infinite negative
  else if significand = 0 then .finite negative 0 0
  else .finite negative significand exponent

def ofDecimal (negative : Bool) (digits : Nat) (exponent : Int) : Double :=
  let size : Int := (Nat.toDigits 10 digits).length
  if digits = 0 || exponent + size < -330 then .finite negative 0 0
  else if exponent + size > 330 then .infinite negative
  else
    let (numerator, denominator) := scaled 10 digits 1 exponent
    ofFraction negative numerator denominator

/-- Whether a number counts as true: all but the two zeros do. -/
def isTrue : Double → Bool
  | .finite _ 0 _ => false
  | _ => true

/-- The decimal point of a positive fraction: how many digits stand before it. -/
def pointFrom (numerator denominator : Nat) : Nat → Int → Int
  | 0, point => point
  | fuel + 1, point =>
      let (above, below) := scaled 10 numerator denominator (-point)
      if below ≤ above then pointFrom numerator denominator fuel (point + 1) else point

/--
The nearest multiple of `10 ^ unit` that lies between two bounds.  All numbers
are counted in quarters of the distance to the next number.
-/
def multipleBetween? (low value high : Nat) (closed : Bool) (scale : Int) (unit : Int) :
    Option Nat :=
  let (ten, one) := scaled 10 1 1 unit
  let (ten, one) :=
    match scale with
    | .ofNat power => (ten, one * Nat.pow 2 power)
    | .negSucc power => (ten * Nat.pow 2 (power + 1), one)
  let below := value * one / ten
  let fits (multiple : Nat) : Bool :=
    if closed then low * one ≤ multiple * ten && multiple * ten ≤ high * one
    else low * one < multiple * ten && multiple * ten < high * one
  let gap := 2 * (value * one - below * ten)
  match fits below, fits (below + 1) with
  | true, true =>
      some (if gap < ten || (gap == ten && below % 2 == 0) then below else below + 1)
  | true, false => some below
  | false, true => some (below + 1)
  | false, false => none

/-- The first of a sequence of digit counts that suffices, with the multiple of its unit. -/
def shortestFrom (low value high : Nat) (closed : Bool) (scale point : Int) :
    Nat → Int → Nat × Int
  | 0, count => (0, point - count)
  | fuel + 1, count =>
      match multipleBetween? low value high closed scale (point - count) with
      | some multiple => (multiple, point - count)
      | none => shortestFrom low value high closed scale point fuel (count + 1)

/-- The digits and the exponent of the shortest decimal that stands for a positive number. -/
def shortest (significand : Nat) (exponent : Int) : Nat × Int :=
  let narrow := significand = leastSignificand ∧ leastExponent < exponent
  let low := 4 * significand - (if narrow then 1 else 2)
  let (numerator, denominator) := scaled 2 significand 1 exponent
  let point := pointFrom numerator denominator 640 (-324)
  shortestFrom low (4 * significand) (4 * significand + 2) (significand % 2 == 0) (exponent - 2)
    point 17 1

/-- Decimal digits with a point in the given place, which may lie outside of them. -/
def positional (digits : List Char) (point : Int) : List Char :=
  match point with
  | .ofNat 0 => '0' :: '.' :: digits
  | .ofNat point =>
      if digits.length ≤ point then
        digits ++ List.replicate (point - digits.length) '0' ++ ['.', '0']
      else digits.take point ++ '.' :: digits.drop point
  | .negSucc missing => '0' :: '.' :: List.replicate (missing + 1) '0' ++ digits

/-- One digit, a point, the other digits and the exponent in at least two digits. -/
def scientific (digits : List Char) (exponent : Int) : List Char :=
  let mantissa :=
    match digits with
    | first :: second :: rest => first :: '.' :: second :: rest
    | short => short
  let shown := Nat.toDigits 10 exponent.natAbs
  let padded := if shown.length < 2 then '0' :: shown else shown
  mantissa ++ 'e' :: (if exponent < 0 then '-' else '+') :: padded

/-- Digits are positional from `10 ^ -4` up to `10 ^ 16`, and have an exponent otherwise. -/
def magnitude (significand : Nat) (exponent : Int) : List Char :=
  if significand = 0 then ['0', '.', '0']
  else
    let (value, unit) := shortest significand exponent
    let digits := Nat.toDigits 10 value
    let kept := (digits.reverse.dropWhile (· == '0')).reverse
    let point := unit + digits.length
    if -4 < point && point ≤ 16 then positional kept point else scientific kept (point - 1)

def toString : Double → String
  | .finite negative significand exponent =>
      String.ofList ((if negative then ['-'] else []) ++ magnitude significand exponent)
  | .infinite negative => if negative then "-inf" else "inf"
  | .notANumber => "nan"

def isInteger (number : Double) (value : Int) : Bool :=
  match number with
  | .finite negative significand exponent =>
      let (above, below) := scaled 2 significand 1 exponent
      (if negative then -(above : Int) else above) == value * below
  | .infinite _ | .notANumber => false

/-- Whether two numbers are equal: the zeros are, and nothing equals what is not a number. -/
def equals : Double → Double → Bool
  | .finite negative significand exponent, .finite negative' significand' exponent' =>
      (significand == 0 && significand' == 0) ||
        (negative == negative' && significand == significand' && exponent == exponent')
  | .infinite negative, .infinite negative' => negative == negative'
  | _, _ => false

example : (ofDecimal false 1 (-1)).toString = "0.1" := by decide +kernel

example : (ofDecimal false 5 (-324)).toString = "5e-324" := by decide +kernel

example : (ofDecimal true 12345678901234567 0).toString = "-1.2345678901234568e+16" := by
  decide +kernel

end Double

end SchemaBinding.Json
