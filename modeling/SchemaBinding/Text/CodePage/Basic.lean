import SchemaBinding.Text.Division

/-!
# Code pages

A code page reads each byte as one character.  The bytes below a certain one
stand for the characters of the same code, as they do in ASCII, and those from
there on for the characters that the page lists.  A byte in a gap of the list or
behind its end stands for no character.
-/

namespace SchemaBinding.Text

/-- The normal form of a label: small letters, and an underscore between its parts. -/
def normalLabel (label : String) : String :=
  let marked := label.toList.map (fun c => if c.isAlphanum || c == '.' then c.toLower else '_')
  String.intercalate "_" (((splitAll '_' marked).filter (· ≠ [])).map String.ofList)

example : normalLabel "ISO_8859-1" = "iso_8859_1" := by decide

structure LabelSet where
  names : List String
  /-- Labels in which a dot may stand for an underscore. -/
  aliases : List String
deriving DecidableEq, Repr

def LabelSet.contains (labels : LabelSet) (label : String) : Bool :=
  labels.names.contains label || labels.aliases.contains label ||
    labels.aliases.contains (label.map (fun c => if c = '.' then '_' else c))

/-- An encoding of one byte for each character. -/
structure CodePage where
  labels : LabelSet
  /-- The first byte that may stand for another character than that of its code. -/
  first : Nat
  /-- The characters of the bytes from the first one on. -/
  characters : String
deriving DecidableEq, Repr

namespace CodePage

/-- What is listed in the place of a character where there is none. -/
def gap : Char := '\uFFFD'

def char? (page : CodePage) (byte : UInt8) : Option Char :=
  if byte.toNat < page.first then some (Char.ofNat byte.toNat)
  else (page.characters.toList[byte.toNat - page.first]?).filter (· != gap)

def decode? (page : CodePage) (bytes : List UInt8) : Option (List Char) :=
  bytes.mapM page.char?

end CodePage

end SchemaBinding.Text
