import SchemaBinding.Text.Lowercase.Table

/-!
# Small letters

A text in small letters.  One capital letter has two small ones, of which the
second stands at the end of a word; another one becomes a letter and a mark.
-/

namespace SchemaBinding.Text

def CapitalRun.smallOf? (run : CapitalRun) (code : Nat) : Option Nat :=
  if run.first ≤ code && code ≤ run.last && (code - run.first) % run.distance == 0 then
    some (run.small + (code - run.first))
  else none

/-- The small letter of a capital one; any other character is its own. -/
def smallLetter (c : Char) : Char :=
  if isAscii c then c.toLower
  else ((capitalRuns.findSome? (fun run => run.smallOf? c.toNat)).map Char.ofNat).getD c

/-- Whether a letter with case comes first, when the marks on it are passed over. -/
def beginsCased (text : List Char) : Bool :=
  match text.dropWhile (fun c => CodeRange.anyContains caselessMarkRanges c.toNat) with
  | [] => false
  | c :: _ => CodeRange.anyContains casedRanges c.toNat

/-- The text in small letters, after the given characters in reverse order. -/
def lowercaseAfter (before : List Char) : List Char → List Char
  | [] => []
  | 'Σ' :: rest =>
      (if beginsCased before && !beginsCased rest then 'ς' else 'σ') ::
        lowercaseAfter ('Σ' :: before) rest
  | 'İ' :: rest => 'i' :: '\u0307' :: lowercaseAfter ('İ' :: before) rest
  | c :: rest => smallLetter c :: lowercaseAfter (c :: before) rest

def lowercase (text : List Char) : List Char :=
  lowercaseAfter [] text

example : lowercase "ÀB ΟΔΟΣ".toList = "àb οδος".toList := by decide +kernel

end SchemaBinding.Text
