import SchemaBinding.Text.CodePage.Table

/-!
# Labels of encodings

What the label of an encoding stands for: a code page, an encoding that cannot
be read byte by byte, or none that is known.
-/

namespace SchemaBinding.Text

inductive CharsetFault where
  | unknown
  /-- What the label stands for transforms bytes into bytes. -/
  | notText
  /-- Some characters take several bytes. -/
  | severalBytes
  /-- Characters of markup do not have the bytes that they have in ASCII. -/
  | foreign
  /-- Only whole names can be read. -/
  | wholeNames
  /-- Only names in ASCII can be read. -/
  | asciiNames
deriving DecidableEq, Repr

namespace CodePage

def ofLabel (label : String) : Except CharsetFault CodePage :=
  let label := normalLabel label
  match all.find? (fun page => page.labels.contains label) with
  | some page => .ok page
  | none =>
      if several.contains label then .error .severalBytes
      else if foreign.contains label then .error .foreign
      else if transforms.contains label then .error .notText
      else if wholeNames.contains label then .error .wholeNames
      else if asciiNames.contains label then .error .asciiNames
      else .error .unknown

end CodePage

/-- How much of a label is told when it stands for no text. -/
def CharsetFault.labelLimit : Nat := 400

/-- The text of a fault; empty where only its kind is told. -/
def CharsetFault.message (label : String) : CharsetFault → String
  | .unknown => "unknown encoding: " ++ label
  | .notText =>
      "'" ++ String.ofList (label.toList.take labelLimit) ++
        "' is not a text encoding; use codecs.decode() to handle arbitrary codecs"
  | .severalBytes => "multi-byte encodings are not supported"
  | .foreign | .wholeNames | .asciiNames => ""

end SchemaBinding.Text
