import SchemaBinding.Xml.DocumentType.Basic

/-!
# Content of elements

The content of a document or entity is first divided into tags, references and
character data.  The tags are then matched into trees, where a reference to an
entity stands for the trees that its own text spells out.
-/

namespace SchemaBinding.Xml

/-- An element with its attributes in the order of the tag and its child elements. -/
structure Node where
  name : Name
  attributes : List (Name × String)
  children : List Node
deriving Repr, Inhabited

namespace Node

mutual

def size : Node → Nat
  | ⟨_, _, children⟩ => sizeOfAll children + 1

def sizeOfAll : List Node → Nat
  | [] => 0
  | node :: rest => size node + sizeOfAll rest

end

end Node

/-- A token of content.  White space, comments and instructions leave nothing behind. -/
inductive ContentToken where
  | openTag (name : Name) (attributes : List (Name × List Piece))
  | emptyTag (name : Name) (attributes : List (Name × List Piece))
  | closeTag (name : Name)
  | entity (name : String)
  | text
deriving DecidableEq, Repr

namespace ContentToken

variable (alphabet : Alphabet)

/-- The attributes of a tag up to its end, and whether the tag is an empty element. -/
def scanAttributes : Nat → List Char → Option (List (Name × List Piece) × Bool × List Char)
  | _, '>' :: rest => some ([], false, rest)
  | _, '/' :: '>' :: rest => some ([], true, rest)
  | fuel + 1, c :: rest =>
      if !isSpace c then none
      else
        match skipSpace rest with
        | '>' :: rest => some ([], false, rest)
        | '/' :: '>' :: rest => some ([], true, rest)
        | start => do
            let (name, rest) ← scanName? alphabet start
            match skipSpace rest with
            | '=' :: rest =>
                match skipSpace rest with
                | quote :: rest =>
                    if quote = '"' || quote = '\'' then do
                      let (value, rest) ← splitAt? [quote] rest
                      let pieces ← Piece.scan? alphabet value
                      let (others, isEmpty, rest) ← scanAttributes fuel rest
                      return ((name, pieces) :: others, isEmpty, rest)
                    else none
                | [] => none
            | _ => none
  | _, _ => none

/-- The token at the beginning of a text, or nothing where it leaves none behind. -/
def scan? (text : List Char) : Option (Option ContentToken × List Char) :=
  match text with
  | '<' :: '!' :: '-' :: '-' :: rest => (skipComment? rest).map (none, ·)
  | '<' :: '!' :: rest => do
      let rest ← after? "[CDATA[".toList rest
      let (_, rest) ← splitAt? "]]>".toList rest
      return (some .text, rest)
  | '<' :: '?' :: rest => (skipInstruction? alphabet rest).map (none, ·)
  | '<' :: '/' :: rest => do
      let (name, rest) ← scanName? alphabet rest
      match skipSpace rest with
      | '>' :: rest => return (some (.closeTag name), rest)
      | _ => none
  | '<' :: rest => do
      let (name, rest) ← scanName? alphabet rest
      let (attributes, isEmpty, rest) ← scanAttributes alphabet rest.length rest
      return (some (if isEmpty then .emptyTag name attributes else .openTag name attributes), rest)
  | '&' :: rest => do
      let (reference, rest) ← Reference.scan? alphabet rest
      match reference with
      | .character _ => return (some .text, rest)
      | .entity name =>
          return (some (if (Reference.predefined? name).isSome then .text else .entity name), rest)
  | ']' :: ']' :: '>' :: _ => none
  | c :: rest => some (if isSpace c then none else some .text, rest)
  | [] => none

/-- The tokens of a text, read with as many steps as the text has characters. -/
def scanAllWith : Nat → List Char → Option (List ContentToken)
  | _, [] => some []
  | 0, _ :: _ => none
  | fuel + 1, c :: rest => do
      let (token, rest) ← scan? alphabet (c :: rest)
      let tokens ← scanAllWith fuel rest
      return token.toList ++ tokens

def scanAll? (text : List Char) : Option (List ContentToken) :=
  scanAllWith alphabet text.length text

end ContentToken

namespace DocumentType

/-- The attributes that a tag gives, with the defaults that it leaves out behind them. -/
def attributesOf? (type : DocumentType) (name : Name) (written : List (Name × List Piece)) :
    Option (List (Name × String)) := do
  let labels := written.map (fun (label, _) => label.written)
  if !labels.Nodup then none
  let given ← written.mapM (fun (label, pieces) => do
    let value ← type.table.attributeValue? (type.isTokenized name.written label.written) pieces
    return (label, value))
  let missing := type.rules.filterMap (fun rule =>
    if rule.elementName = name.written && !labels.contains rule.attributeName then
      rule.defaultValue.map (fun value => (Name.ofWritten rule.attributeName, value))
    else none)
  return given ++ missing

/-- An element whose end tag has not been met, with its children in reverse order. -/
structure OpenElement where
  name : Name
  attributes : List (Name × String)
  children : List Node

/-- The trees of a sequence of tokens, with the trees of a named entity given. -/
def assemble (type : DocumentType) (entityTrees : String → Option (List Node)) :
    List ContentToken → List OpenElement → List Node → Option (List Node)
  | [], [], trees => some trees.reverse
  | [], _ :: _, _ => none
  | .text :: rest, stack, trees => assemble type entityTrees rest stack trees
  | .openTag name written :: rest, stack, trees => do
      let attributes ← type.attributesOf? name written
      assemble type entityTrees rest (⟨name, attributes, trees⟩ :: stack) []
  | .emptyTag name written :: rest, stack, trees => do
      let attributes ← type.attributesOf? name written
      assemble type entityTrees rest stack (⟨name, attributes, []⟩ :: trees)
  | .closeTag _ :: _, [], _ => none
  | .closeTag name :: rest, element :: stack, trees =>
      if element.name = name then
        assemble type entityTrees rest stack
          (⟨name, element.attributes, trees.reverse⟩ :: element.children)
      else none
  | .entity name :: rest, stack, trees => do
      let inserted ← entityTrees name
      assemble type entityTrees rest stack (inserted.reverse ++ trees)

/--
The trees that the text of an entity spells out, with entities nested at most
`depth` deep.  Its names are those of the standard alphabet.
-/
def entityTrees (type : DocumentType) : Nat → String → Option (List Node)
  | 0, _ => none
  | depth + 1, name => do
      let entity ← type.table.find? name
      let tokens ← ContentToken.scanAll? .standard (← entity.text)
      type.assemble (type.entityTrees depth) tokens [] []

/-- The number of elements open after each token, from a number open before. -/
def nesting : Nat → List ContentToken → List Nat
  | _, [] => []
  | level, token :: rest =>
      let next :=
        match token with
        | .openTag _ _ => level + 1
        | .closeTag _ => level - 1
        | .emptyTag _ _ | .entity _ | .text => level
      next :: nesting next rest

/-- Whether tokens begin with a tag and nothing follows the element of that tag. -/
def isSingleElement : List ContentToken → Bool
  | [.emptyTag _ _] => true
  | .openTag name attributes :: rest =>
      !(nesting 0 (.openTag name attributes :: rest)).dropLast.contains 0
  | _ => false

def rootOf? (type : DocumentType) (text : List Char) : Option Node := do
  let tokens ← ContentToken.scanAll? type.alphabet text
  if !isSingleElement tokens then none
  match ← type.assemble (type.entityTrees type.table.depth) tokens [] [] with
  | [root] => return root
  | _ => none

end DocumentType

end SchemaBinding.Xml
