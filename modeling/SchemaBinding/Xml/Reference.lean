import SchemaBinding.Xml.Name

/-!
# References

A reference stands for one character, given by its number, or for an entity,
given by its name.  Five entities are known without a declaration.
-/

namespace SchemaBinding.Xml

/-- What stands between an ampersand and a semicolon. -/
inductive Reference where
  | character (c : Char)
  | entity (name : String)
deriving DecidableEq, Repr

namespace Reference

/-- The character that an entity known to every document stands for. -/
def predefined? : String → Option Char
  | "lt" => some '<'
  | "gt" => some '>'
  | "amp" => some '&'
  | "quot" => some '"'
  | "apos" => some '\''
  | _ => none

def hexValue? (c : Char) : Option Nat :=
  if c.isDigit then some (c.toNat - 0x30)
  else if 'a' ≤ c && c ≤ 'f' then some (c.toNat - 0x57)
  else if 'A' ≤ c && c ≤ 'F' then some (c.toNat - 0x37)
  else none

/-- The number written in a base by digits that must all have a value. -/
def number? (base : Nat) (digits : List Char) : Option Nat :=
  if digits.isEmpty then none
  else
    digits.foldlM (fun total c =>
      (hexValue? c).bind (fun value => if value < base then some (base * total + value) else none)) 0

def scanNumber? (text : List Char) : Option (Reference × List Char) := do
  let (base, text) :=
    match text with
    | 'x' :: rest => (16, rest)
    | rest => (10, rest)
  let (digits, rest) ← splitAt? [';'] text
  let code ← number? base digits
  if isCharCode code then return (.character (Char.ofNat code), rest) else none

def scan? (alphabet : Alphabet) (text : List Char) : Option (Reference × List Char) :=
  match text with
  | '#' :: rest => scanNumber? rest
  | text => do
      let (name, rest) ← scanPlain? alphabet text
      match rest with
      | ';' :: rest => return (.entity (String.ofList name), rest)
      | _ => none

end Reference

end SchemaBinding.Xml
