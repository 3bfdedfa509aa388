import SchemaBinding.Text.Printable

/-!
# Quoted forms

A text is quoted by single quotes, or by double quotes when it holds a single
quote and no double quote.  The surrounding quote, the backslash and every
character that is not printable are written as escapes, so a quoted form stays
on one line whatever the text holds.
-/

namespace SchemaBinding.Text.Quoted

/-- The hexadecimal digits of a number, at least `width` of them. -/
def hexadecimal (width code : Nat) : List Char :=
  let digits := Nat.toDigits 16 code
  List.replicate (width - digits.length) '0' ++ digits

/-- The shortest numeric escape that holds a code point. -/
def numericEscape (code : Nat) : List Char :=
  if code ≤ 0xFF then '\\' :: 'x' :: hexadecimal 2 code
  else if code ≤ 0xFFFF then '\\' :: 'u' :: hexadecimal 4 code
  else '\\' :: 'U' :: hexadecimal 8 code

def encodeChar (quote c : Char) : List Char :=
  if c = quote || c = '\\' then ['\\', c]
  else if c = '\n' then ['\\', 'n']
  else if c = '\t' then ['\\', 't']
  else if c = '\r' then ['\\', 'r']
  else if isPrintable c then [c]
  else numericEscape c.toNat

/-- The quote that needs fewer escapes, the single one first. -/
def chooseQuote (text : List Char) : Char :=
  if text.contains '\'' && !text.contains '"' then '"' else '\''

/-- How one code point is written between the given quotes; a surrogate is an escape. -/
def encodeCode (quote : Char) (code : Nat) : List Char :=
  if code.isValidChar then encodeChar quote (Char.ofNat code) else numericEscape code

def encode (text : List Char) : List Char :=
  let quote := chooseQuote text
  quote :: text.flatMap (encodeChar quote) ++ [quote]

def encodeCodes (codes : List Nat) : List Char :=
  let quote := chooseQuote (codes.map Char.ofNat)
  quote :: codes.flatMap (encodeCode quote) ++ [quote]

end SchemaBinding.Text.Quoted

namespace SchemaBinding.Text

def quoted (text : String) : String :=
  String.ofList (Quoted.encode text.toList)

/-- The quoted form of code points, of which some may be surrogates. -/
def quotedCodes (codes : List Nat) : String :=
  String.ofList (Quoted.encodeCodes codes)

example : quotedCodes [0x61, 0xD800] = "'a\\ud800'" := by decide

example : quoted "it's" = "\"it's\"" := by decide

example : quoted "a\n\u200b\\" = "'a\\n\\u200b\\\\'" := by decide +kernel

end SchemaBinding.Text
