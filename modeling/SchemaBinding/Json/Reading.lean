import SchemaBinding.Json.Value

/-!
# Reading JSON documents

A document is one value with white space around it.  Control characters stand
in no text, numbers may also be written as words where they are not finite, and
of several entries with one key the last value takes the place of the first.
How deep values are nested is limited.
-/

namespace SchemaBinding.Json

inductive Container where
  | list
  | record
deriving DecidableEq, Repr

inductive Malformed where
  | notJson
  /-- Lists and records are nested too deep, the innermost one being of the given kind. -/
  | tooDeep (innermost : Container)
  /-- An integer has more digits than are read. -/
  | numeralTooLong (digits : Nat)
deriving DecidableEq, Repr

def maxDigits : Nat := 4300

def maxDepth : Nat := 980

def isSpace (c : Char) : Bool :=
  c == ' ' || c == '\t' || c == '\n' || c == '\r'

def skipSpace (text : List Char) : List Char :=
  text.dropWhile isSpace

def afterWord? (word text : List Char) : Option (List Char) :=
  if word.isPrefixOf text then some (text.drop word.length) else none

def hexDigit? (c : Char) : Option Nat :=
  if c.isDigit then some (c.toNat - '0'.toNat)
  else if 'a' ≤ c && c ≤ 'f' then some (c.toNat - 'a'.toNat + 10)
  else if 'A' ≤ c && c ≤ 'F' then some (c.toNat - 'A'.toNat + 10)
  else none

/-- The number that four hexadecimal digits spell, and the text after them. -/
def scanUnit? : List Char → Option (Nat × List Char)
  | a :: b :: c :: d :: rest => do
      let digits ← [a, b, c, d].mapM hexDigit?
      return (digits.foldl (fun total digit => 16 * total + digit) 0, rest)
  | _ => none

def escaped? : Char → Option Char
  | '"' => some '"'
  | '\\' => some '\\'
  | '/' => some '/'
  | 'b' => some '\x08'
  | 'f' => some '\x0c'
  | 'n' => some '\n'
  | 'r' => some '\r'
  | 't' => some '\t'
  | _ => none

/-- The code point of a code unit; two units of a pair stand for one code point. -/
def scanCode? (text : List Char) : Option (Nat × List Char) := do
  let (unit, rest) ← scanUnit? text
  if 0xD800 ≤ unit && unit ≤ 0xDBFF then
    match rest with
    | '\\' :: 'u' :: after =>
        match scanUnit? after with
        | some (low, behind) =>
            if 0xDC00 ≤ low && low ≤ 0xDFFF then
              return (0x10000 + 0x400 * (unit - 0xD800) + (low - 0xDC00), behind)
            else return (unit, rest)
        | none => none
    | _ => return (unit, rest)
  else return (unit, rest)

/-- The code points up to the closing quotation mark, and the text after it. -/
def scanText? : Nat → List Char → Option (List Nat × List Char)
  | 0, _ => none
  | _ + 1, '"' :: rest => some ([], rest)
  | fuel + 1, '\\' :: 'u' :: rest => do
      let (code, rest) ← scanCode? rest
      let (codes, rest) ← scanText? fuel rest
      return (code :: codes, rest)
  | fuel + 1, '\\' :: letter :: rest => do
      let c ← escaped? letter
      let (codes, rest) ← scanText? fuel rest
      return (c.toNat :: codes, rest)
  | fuel + 1, c :: rest => do
      if c.toNat < 0x20 || c == '\\' then none
      let (codes, rest) ← scanText? fuel rest
      return (c.toNat :: codes, rest)
  | _ + 1, [] => none

def spanDigits (text : List Char) : List Char × List Char :=
  (text.takeWhile Char.isDigit, text.dropWhile Char.isDigit)

def ofDigits (digits : List Char) : Nat :=
  digits.foldl (fun total c => 10 * total + (c.toNat - '0'.toNat)) 0

def scanFraction : List Char → List Char × List Char
  | '.' :: rest =>
      match spanDigits rest with
      | ([], _) => ([], '.' :: rest)
      | spanned => spanned
  | rest => ([], rest)

def scanExponent? : List Char → Option (Int × List Char)
  | 'e' :: rest | 'E' :: rest =>
      let (negative, unsigned) :=
        match rest with
        | '-' :: rest => (true, rest)
        | '+' :: rest => (false, rest)
        | rest => (false, rest)
      match spanDigits unsigned with
      | ([], _) => none
      | (digits, rest) =>
          some (if negative then -(ofDigits digits : Int) else ofDigits digits, rest)
  | _ => none

def scanNumber (negative : Bool) (text : List Char) :
    Except Malformed (Value × List Char) :=
  let (whole, rest) :=
    match text with
    | '0' :: rest => (['0'], rest)
    | _ => spanDigits text
  if whole.isEmpty then .error .notJson
  else
    let (fraction, rest) := scanFraction rest
    match fraction, scanExponent? rest with
    | [], none =>
        if maxDigits < whole.length then .error (.numeralTooLong whole.length)
        else .ok (.integer (if negative then -(ofDigits whole : Int) else ofDigits whole), rest)
    | fraction, exponent =>
        let (exponent, rest) := exponent.getD (0, rest)
        .ok (.number (.ofDecimal negative (ofDigits (whole ++ fraction))
          (exponent - fraction.length)), rest)

def words : List (String × Value) := [
  ("null", .null), ("true", .boolean true), ("false", .boolean false),
  ("NaN", .number .notANumber), ("Infinity", .number (.infinite false)),
  ("-Infinity", .number (.infinite true))]

def scanWord? (text : List Char) : Option (Value × List Char) :=
  words.findSome? (fun (word, value) =>
    (afterWord? word.toList text).map (fun rest => (value, rest)))

def scanCodes (text : List Char) : Except Malformed (List Nat × List Char) :=
  match scanText? (text.length + 1) text with
  | some found => .ok found
  | none => .error .notJson

mutual

/-- The value that a text begins with, and the text after it, where `depth` values may be nested. -/
def scan : Nat → Nat → List Char → Except Malformed (Value × List Char)
  | 0, _, _ => .error .notJson
  | fuel + 1, depth, text =>
      match scanWord? text with
      | some found => .ok found
      | none =>
          match text with
          | '"' :: rest => do
              let (codes, rest) ← scanCodes rest
              return (.ofCodes codes, rest)
          | '[' :: rest =>
              match depth, skipSpace rest with
              | 0, _ => .error (.tooDeep .list)
              | _ + 1, ']' :: rest => .ok (.list [], rest)
              | depth + 1, rest => do
                  let (items, rest) ← scanItems fuel depth rest
                  return (.list items, rest)
          | '\x7b' :: rest =>
              match depth, skipSpace rest with
              | 0, _ => .error (.tooDeep .record)
              | _ + 1, '\x7d' :: rest => .ok (.record [], rest)
              | depth + 1, rest => do
                  let (entries, rest) ← scanEntries fuel depth [] rest
                  return (.record entries, rest)
          | '-' :: rest => scanNumber true rest
          | rest => scanNumber false rest

def scanItems : Nat → Nat → List Char → Except Malformed (List Value × List Char)
  | 0, _, _ => .error .notJson
  | fuel + 1, depth, text => do
      let (item, rest) ← scan fuel depth text
      match skipSpace rest with
      | ',' :: rest =>
          let (items, rest) ← scanItems fuel depth (skipSpace rest)
          return (item :: items, rest)
      | ']' :: rest => return ([item], rest)
      | _ => throw .notJson

/-- The entries of a record, from a key on, after those already read. -/
def scanEntries : Nat → Nat → List (Key × Value) → List Char →
    Except Malformed (List (Key × Value) × List Char)
  | fuel + 1, depth, entries, '"' :: text => do
      let (codes, rest) ← scanCodes text
      let key := Key.ofCodes codes
      match skipSpace rest with
      | ':' :: rest =>
          let (value, rest) ← scan fuel depth (skipSpace rest)
          let entries := Value.insert entries key value
          match skipSpace rest with
          | ',' :: rest => scanEntries fuel depth entries (skipSpace rest)
          | '\x7d' :: rest => return (entries, rest)
          | _ => throw .notJson
      | _ => throw .notJson
  | _, _, _, _ => .error .notJson

end

def Value.ofText (text : String) : Except Malformed Value := do
  let characters := text.toList
  let (value, rest) ← scan (characters.length + 1) maxDepth (skipSpace characters)
  if (skipSpace rest).isEmpty then return value else throw .notJson

example : (Value.ofText "[1, -2.50e1, \"\\u00e9\"]").toOption.map Value.display = some "[1, -25.0, 'é']" := by
  decide +kernel

end SchemaBinding.Json
