import SchemaBinding.Xml.Character

/-!
# The declaration of a document

A document may begin with a declaration that gives a version, then optionally
an encoding, then optionally whether the document stands alone.
-/

namespace SchemaBinding.Xml

/-- What a declaration states besides the version. -/
structure Declaration where
  encoding : Option String
  standalone : Bool
deriving DecidableEq, Repr

namespace Declaration

/-- The declaration that a document without one has. -/
def absent : Declaration := ⟨none, false⟩

def isValueChar (c : Char) : Bool :=
  c.isAlphanum || c == '.' || c == '-' || c == '_'

/-- One `name="value"` item and the text after it, or nothing at the end of the text. -/
def item? (text : List Char) : Option (Option (List Char × List Char) × List Char) :=
  match text with
  | [] => some (none, [])
  | c :: rest =>
      if !isSpace c then none
      else
        match skipSpace rest with
        | [] => some (none, [])
        | start =>
            let name := start.takeWhile (fun d => d != '=' && !isSpace d)
            match skipSpace (start.drop name.length) with
            | '=' :: afterSign =>
                match skipSpace afterSign with
                | quote :: body =>
                    if name.isEmpty || (quote != '"' && quote != '\'') then none
                    else
                      let value := body.takeWhile isValueChar
                      match body.drop value.length with
                      | close :: remaining =>
                          if close = quote then some (some (name, value), remaining) else none
                      | [] => none
                | [] => none
            | _ => none

/-- The end of a declaration: a standalone item that may be missing, then white space. -/
def readStandalone (encoding : Option String) :
    Option (List Char × List Char) → List Char → Option Declaration
  | none, _ => some ⟨encoding, false⟩
  | some (name, value), rest =>
      if name = "standalone".toList && (skipSpace rest).isEmpty then
        if value = "yes".toList then some ⟨encoding, true⟩
        else if value = "no".toList then some ⟨encoding, false⟩
        else none
      else none

/-- The statements between the target and the end of a declaration. -/
def readBody? (text : List Char) : Option Declaration := do
  let (first, rest) ← item? text
  let (name, _) ← first
  if name ≠ "version".toList then none
  let (second, rest) ← item? rest
  match second with
  | some (['e', 'n', 'c', 'o', 'd', 'i', 'n', 'g'], value) =>
      if (value.head?.map Char.isAlpha).getD false then
        let (third, rest) ← item? rest
        readStandalone (some (String.ofList value)) third rest
      else none
  | other => readStandalone none other rest

/--
The declaration at the beginning of a text and the text after it.  A text that
begins with no declaration has the absent one; a malformed one has none.
-/
def read? (alphabet : Alphabet) (text : List Char) : Option (Declaration × List Char) :=
  match after? "<?xml".toList text with
  | none => some (absent, text)
  | some rest =>
      if (rest.head?.map (fun c => alphabet.isPart c || c == ':')).getD false then some (absent, text)
      else do
        let (body, remaining) ← splitAt? "?>".toList rest
        let declaration ← readBody? body
        return (declaration, remaining)

end Declaration

end SchemaBinding.Xml
