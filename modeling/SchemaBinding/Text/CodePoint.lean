/-!
# Code points

A character property is kept as the list of its maximal runs, in ascending
order, so that a table can be checked line by line against the standard it
comes from.  Each script that writes decimal numbers has ten consecutive digits,
so the code point of its zero determines all of them.
-/

namespace SchemaBinding.Text

/-- A run of code points, both ends included. -/
abbrev CodeRange := Nat × Nat

namespace CodeRange

def contains (range : CodeRange) (code : Nat) : Bool :=
  range.1 ≤ code && code ≤ range.2

def anyContains (ranges : List CodeRange) (code : Nat) : Bool :=
  ranges.any (fun range => range.contains code)

/-- Whether runs are in ascending order and do not touch, so that each of them is maximal. -/
def areApart : List CodeRange → Bool
  | lower :: upper :: rest => lower.2 + 1 < upper.1 && areApart (upper :: rest)
  | _ => true

end CodeRange

/-- Characters of which no table is needed. -/
def isAscii (c : Char) : Bool :=
  c.toNat < 0x80

/-! ## Decimal digits of every script -/

/-- The code points of the zeros, one for each set of decimal digits. -/
def digitZeros : List Nat := [
  0x30, 0x660, 0x6F0, 0x7C0, 0x966, 0x9E6, 0xA66, 0xAE6, 0xB66, 0xBE6, 0xC66, 0xCE6, 0xD66, 0xDE6,
  0xE50, 0xED0, 0xF20, 0x1040, 0x1090, 0x17E0, 0x1810, 0x1946, 0x19D0, 0x1A80, 0x1A90, 0x1B50,
  0x1BB0, 0x1C40, 0x1C50, 0xA620, 0xA8D0, 0xA900, 0xA9D0, 0xA9F0, 0xAA50, 0xABF0, 0xFF10, 0x104A0,
  0x10D30, 0x11066, 0x110F0, 0x11136, 0x111D0, 0x112F0, 0x11450, 0x114D0, 0x11650, 0x116C0,
  0x11730, 0x118E0, 0x11950, 0x11C50, 0x11D50, 0x11DA0, 0x16A60, 0x16AC0, 0x16B50, 0x1D7CE,
  0x1D7D8, 0x1D7E2, 0x1D7EC, 0x1D7F6, 0x1E140, 0x1E2F0, 0x1E950, 0x1FBF0]

/-- The sets are in ascending order and do not overlap. -/
example : digitZeros.Pairwise (fun lower upper => lower + 10 ≤ upper) := by decide

def digitValue? (c : Char) : Option Nat :=
  (digitZeros.find? (fun origin => origin ≤ c.toNat && c.toNat < origin + 10)).map
    (fun origin => c.toNat - origin)

end SchemaBinding.Text
