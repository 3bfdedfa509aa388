import SchemaBinding.Text.CodePoint
import SchemaBinding.Text.Word.Table

/-!
# Words of every script

A word begins with a letter or an underscore and goes on with letters, digits
and the marks on them.  Letters and numbers of every kind are alphanumeric, also
those of which no word is made.
-/

namespace SchemaBinding.Text

def isWordStart (c : Char) : Bool :=
  if isAscii c then c == '_' || c.isAlpha
  else CodeRange.anyContains wordStartRanges c.toNat

def isWordPart (c : Char) : Bool :=
  isWordStart c || CodeRange.anyContains wordRestRanges c.toNat

def isWord : List Char → Bool
  | [] => false
  | c :: rest => isWordStart c && rest.all isWordPart

/-- The characters that words begin with although they are no letters. -/
def nonletters : List Char := ['\u1885', '\u1886', '\u2118', '\u212E']

def isAlphanumeric (c : Char) : Bool :=
  if isAscii c then c.isAlphanum
  else (isWordStart c && !nonletters.contains c) || (digitValue? c).isSome ||
    CodeRange.anyContains signRanges c.toNat

example : isWord "名前_1".toList = true := by decide +kernel

example : isWord "1x".toList = false := by decide

end SchemaBinding.Text
