import SchemaBinding.Xml.Character

/-!
# Names in markup

A name of an element or attribute is a local part, optionally qualified by a
label that stands for a namespace.  Targets, entities and notations have names
without a qualifier.
-/

namespace SchemaBinding.Xml

/-- A name as it is written, before its label is replaced by a namespace. -/
structure Name where
  qualifier : Option String
  localPart : String
deriving DecidableEq, Repr, Inhabited

namespace Name

def written (name : Name) : String :=
  match name.qualifier with
  | none => name.localPart
  | some label => label ++ ":" ++ name.localPart

/-- A written name is divided at its first colon. -/
def ofWritten (text : String) : Name :=
  let chars := text.toList
  let label := chars.takeWhile (· != ':')
  match chars.drop label.length with
  | _ :: localPart => ⟨some (String.ofList label), String.ofList localPart⟩
  | [] => ⟨none, text⟩

end Name

variable (alphabet : Alphabet)

/-- A name without a colon at the beginning of a text, and the text after it. -/
def scanPlain? : List Char → Option (List Char × List Char)
  | [] => none
  | c :: rest =>
      if alphabet.isStart c then
        let more := rest.takeWhile alphabet.isPart
        some (c :: more, rest.drop more.length)
      else none

def scanName? (text : List Char) : Option (Name × List Char) := do
  let (first, rest) ← scanPlain? alphabet text
  match rest with
  | ':' :: rest =>
      let (second, rest) ← scanPlain? alphabet rest
      return (⟨some (String.ofList first), String.ofList second⟩, rest)
  | rest => return (⟨none, String.ofList first⟩, rest)

end SchemaBinding.Xml
