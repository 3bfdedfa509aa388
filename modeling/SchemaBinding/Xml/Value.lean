import SchemaBinding.Xml.Reference

/-!
# Values of attributes and entities

The text between the quotes of an attribute is a sequence of characters, white
space and references.  White space becomes a space, a character reference stays
the character it names, and an entity is replaced by its own text read in the
same way.  Values of a type other than plain text lose superfluous spaces.
-/

namespace SchemaBinding.Xml

inductive Piece where
  | character (c : Char)
  | space
  | entity (name : String)
deriving DecidableEq, Repr

namespace Piece

variable (alphabet : Alphabet)

/-- The pieces of a value, read with as many steps as the value has characters. -/
def scanWith : Nat → List Char → Option (List Piece)
  | _, [] => some []
  | 0, _ :: _ => none
  | fuel + 1, '&' :: rest => do
      let (reference, rest) ← Reference.scan? alphabet rest
      let pieces ← scanWith fuel rest
      match reference with
      | .character c => return .character c :: pieces
      | .entity name => return .entity name :: pieces
  | fuel + 1, c :: rest =>
      if c = '<' then none
      else if isSpace c then (scanWith fuel rest).map (.space :: ·)
      else (scanWith fuel rest).map (.character c :: ·)

def scan? (text : List Char) : Option (List Piece) :=
  scanWith alphabet text.length text

end Piece

/-- A general entity, which has a text unless it stands outside the document. -/
structure Entity where
  name : String
  text : Option (List Char)
deriving DecidableEq, Repr

/-- The entities of a document, and what becomes of a name that none of them has. -/
structure Entities where
  declared : List Entity
  /-- In an attribute value a reference to no declared entity is dropped. -/
  lenient : Bool
deriving Repr

namespace Entities

def find? (entities : Entities) (name : String) : Option Entity :=
  entities.declared.find? (fun entity => entity.name == name)

/-- No chain of nested references without a repetition is longer than this. -/
def depth (entities : Entities) : Nat :=
  entities.declared.length

/--
The characters of a value, with entities nested at most `depth` deep.  In the
texts of entities the names are those of the standard alphabet.
-/
def expand (entities : Entities) : Nat → List Piece → Option (List Char)
  | depth, pieces => do
      let parts ← pieces.mapM (fun piece =>
        match piece with
        | .character c => some [c]
        | .space => some [' ']
        | .entity name =>
            match Reference.predefined? name with
            | some c => some [c]
            | none =>
                match depth, entities.find? name with
                | _, none => if entities.lenient then some [] else none
                | 0, some _ => none
                | depth + 1, some entity =>
                    (entity.text.bind (Piece.scan? .standard)).bind (expand entities depth))
      return parts.flatten

/-- Leading spaces and all but the first of neighbouring spaces are dropped. -/
def collapseFrom : Bool → List Char → List Char
  | _, [] => []
  | afterSpace, c :: rest =>
      if c = ' ' && afterSpace then collapseFrom true rest
      else c :: collapseFrom (c == ' ') rest

def collapse (value : List Char) : List Char :=
  let kept := collapseFrom true value
  if kept.getLast? = some ' ' then kept.dropLast else kept

/-- The value that an attribute has, by whether its type is plain text. -/
def attributeValue? (entities : Entities) (tokenized : Bool) (pieces : List Piece) :
    Option String :=
  (entities.expand entities.depth pieces).map (fun value =>
    String.ofList (if tokenized then collapse value else value))

end Entities

variable (alphabet : Alphabet)

/-- The text of an entity: character references are replaced, entity references kept. -/
def entityTextWith : Nat → List Char → Option (List Char)
  | _, [] => some []
  | 0, _ :: _ => none
  | fuel + 1, '&' :: rest => do
      let (reference, remaining) ← Reference.scan? alphabet rest
      let text ← entityTextWith fuel remaining
      match reference with
      | .character c => return c :: text
      | .entity name => return '&' :: name.toList ++ ';' :: text
  | fuel + 1, c :: rest =>
      if c = '%' then none else (entityTextWith fuel rest).map (c :: ·)

def entityText? (literal : List Char) : Option (List Char) :=
  entityTextWith alphabet literal.length literal

end SchemaBinding.Xml
