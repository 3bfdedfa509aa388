import SchemaBinding.Xml.DocumentType.Token

/-!
# Document types

A document type contributes two things to the reading of a document: the
entities that it declares and what it states about attributes, namely which of
them are not plain text and which value they have when they are not written.
Declarations of elements and notations are only checked for their form.
-/

namespace SchemaBinding.Xml

/-- What a document type states about an attribute of an element. -/
structure AttributeRule where
  elementName : String
  attributeName : String
  /-- The type of the attribute is not plain text. -/
  tokenized : Bool
  /-- The value of the attribute where it is not written. -/
  defaultValue : Option String
deriving DecidableEq, Repr

structure DocumentType where
  entities : List Entity
  rules : List AttributeRule
  /-- A parameter entity or an outside part may hold further declarations. -/
  incomplete : Bool
  /-- Declarations still count. -/
  processing : Bool
  standalone : Bool
  /-- The characters of names in the document. -/
  alphabet : Alphabet
deriving Repr

namespace DocumentType

def absent (standalone : Bool) (alphabet : Alphabet) : DocumentType :=
  ⟨[], [], false, true, standalone, alphabet⟩

/-- The entities, as they stand for the values and contents of a document. -/
def table (type : DocumentType) : Entities :=
  ⟨type.entities, type.incomplete && !type.standalone⟩

/-- The first declaration of a name is the one that counts. -/
def addEntity (type : DocumentType) (entity : Entity) : DocumentType :=
  if !type.processing || (Reference.predefined? entity.name).isSome ||
      type.entities.any (fun known => known.name == entity.name) then type
  else { type with entities := type.entities ++ [entity] }

def rulesFor (type : DocumentType) (element name : String) : List AttributeRule :=
  type.rules.filter (fun rule => rule.elementName == element && rule.attributeName == name)

/-- A later value for an attribute that already has a rule is dropped. -/
def addRule (type : DocumentType) (rule : AttributeRule) : DocumentType :=
  if !type.processing ||
      (rule.defaultValue.isSome && !(type.rulesFor rule.elementName rule.attributeName).isEmpty) then type
  else { type with rules := type.rules ++ [rule] }

/-- Whether an attribute is declared with a type that is not plain text. -/
def isTokenized (type : DocumentType) (element name : String) : Bool :=
  match type.rulesFor element name with
  | rule :: _ => rule.tokenized
  | [] => false

def isPublicChar (c : Char) : Bool :=
  c.isAlphanum || " \n\r-'()+,./:=?;!*#@$_%".toList.contains c

/-- A declaration after a parameter entity counts only in a document that stands alone. -/
def afterParameter (type : DocumentType) : DocumentType :=
  { type with incomplete := true, processing := type.standalone }

/-- A literal that gives the text of an entity is checked where declarations count. -/
def literalText? (type : DocumentType) (literal : List Char) : Option (List Char) :=
  if type.processing then entityText? type.alphabet literal else some []

def externalId? : List Token → Option (List Token)
  | .word .plain "SYSTEM" :: .literal _ :: rest => some rest
  | .word .plain "PUBLIC" :: .literal identifier :: .literal _ :: rest =>
      if identifier.all isPublicChar then some rest else none
  | _ => none

def entityDeclaration? (type : DocumentType) :
    List Token → Option (DocumentType × List Token)
  | .percent :: .word .plain _ :: .literal text :: .closeDeclaration :: rest => do
      let _ ← type.literalText? text
      return (type, rest)
  | .percent :: .word .plain _ :: rest => do
      match ← externalId? rest with
      | .closeDeclaration :: rest => return (type, rest)
      | _ => none
  | .word .plain name :: .literal text :: .closeDeclaration :: rest => do
      let value ← type.literalText? text
      return (type.addEntity ⟨name, some value⟩, rest)
  | .word .plain name :: rest => do
      match ← externalId? rest with
      | .closeDeclaration :: rest => return (type.addEntity ⟨name, none⟩, rest)
      | .word .plain "NDATA" :: .word .plain _ :: .closeDeclaration :: rest =>
          return (type.addEntity ⟨name, none⟩, rest)
      | _ => none
  | _ => none

/-- The members of an enumeration, up to its closing mark; names only in a notation. -/
def enumeration? (namesOnly : Bool) : List Token → Option (List Token)
  | .word kind _ :: .bar :: rest =>
      if kind = .repeated || (namesOnly && kind ≠ .plain) then none else enumeration? namesOnly rest
  | .word kind _ :: .closeParen none :: rest =>
      if kind = .repeated || (namesOnly && kind ≠ .plain) then none else some rest
  | _ => none

/-- The type of an attribute, by whether it is not plain text. -/
def attributeType? : List Token → Option (Bool × List Token)
  | .openParen :: rest => (enumeration? false rest).map (true, ·)
  | .word .plain "NOTATION" :: .openParen :: rest => (enumeration? true rest).map (true, ·)
  | .word .plain "CDATA" :: rest => some (false, rest)
  | .word .plain keyword :: rest =>
      if ["ID", "IDREF", "IDREFS", "ENTITY", "ENTITIES", "NMTOKEN", "NMTOKENS"].contains keyword
      then some (true, rest) else none
  | _ => none

def attributeDefault? : List Token → Option (Option (List Char) × List Token)
  | .pound "IMPLIED" :: rest => some (none, rest)
  | .pound "REQUIRED" :: rest => some (none, rest)
  | .pound "FIXED" :: .literal text :: rest => some (some text, rest)
  | .literal text :: rest => some (some text, rest)
  | _ => none

/-- The value that a default literal gives, where declarations count. -/
def defaultValue? (type : DocumentType) (tokenized : Bool) :
    Option (List Char) → Option (Option String)
  | none => some none
  | some text =>
      if type.processing then do
        let pieces ← Piece.scan? type.alphabet text
        return some (← type.table.attributeValue? tokenized pieces)
      else some none

def elementName? : Token → Option String
  | .word .plain name | .word .qualified name => some name
  | _ => none

def attributeList? (type : DocumentType) (element : String) :
    Nat → List Token → Option (DocumentType × List Token)
  | _, .closeDeclaration :: rest => some (type, rest)
  | fuel + 1, token :: rest => do
      let name ← elementName? token
      let (tokenized, rest) ← attributeType? rest
      let (text, rest) ← attributeDefault? rest
      let value ← type.defaultValue? tokenized text
      attributeList? (type.addRule ⟨element, name, tokenized, value⟩) element fuel rest
  | _, _ => none

/-- The separator that a group of a content model has used so far. -/
abbrev Separator := Option Char

/-- A content model is a tree of groups, each with separators of one kind. -/
def contentModel? : List Separator → Bool → List Token → Option (List Token)
  | groups, true, .openParen :: rest => contentModel? (none :: groups) true rest
  | group :: groups, true, .word kind _ :: rest =>
      if kind = .loose then none else contentModel? (group :: groups) false rest
  | group :: groups, false, .comma :: rest =>
      if group = some '|' then none else contentModel? (some ',' :: groups) true rest
  | group :: groups, false, .bar :: rest =>
      if group = some ',' then none else contentModel? (some '|' :: groups) true rest
  | [_], false, .closeParen _ :: rest => some rest
  | _ :: groups, false, .closeParen _ :: rest => contentModel? groups false rest
  | _, _, _ => none

/-- Alternatives between text and elements, from after the mark of text. -/
def mixedModel? : Bool → List Token → Option (List Token)
  | false, .closeParen none :: rest => some rest
  | _, .closeParen (some '*') :: rest => some rest
  | _, .bar :: token :: rest => (elementName? token).bind (fun _ => mixedModel? true rest)
  | _, _ => none

def elementDeclaration? : List Token → Option (List Token)
  | name :: content => do
      let _ ← elementName? name
      let rest ←
        match content with
        | .word .plain "EMPTY" :: rest => some rest
        | .word .plain "ANY" :: rest => some rest
        | .openParen :: .pound "PCDATA" :: rest => mixedModel? false rest
        | .openParen :: rest => contentModel? [none] true rest
        | _ => none
      match rest with
      | .closeDeclaration :: rest => return rest
      | _ => none
  | [] => none

def notationDeclaration? : List Token → Option (List Token)
  | .word .plain _ :: .word .plain "PUBLIC" :: .literal identifier :: .closeDeclaration :: rest =>
      if identifier.all isPublicChar then some rest else none
  | .word .plain _ :: rest => do
      match ← externalId? rest with
      | .closeDeclaration :: rest => return rest
      | _ => none
  | _ => none

/-- The declarations between the brackets of a document type. -/
def subsetWith : Nat → DocumentType → List Token → Option (DocumentType × List Token)
  | _, type, .closeBracket :: rest => some (type, rest)
  | fuel + 1, type, .comment :: rest => subsetWith fuel type rest
  | fuel + 1, type, .parameter _ :: rest => subsetWith fuel type.afterParameter rest
  | fuel + 1, type, .openDeclaration "ENTITY" :: rest => do
      let (type, rest) ← type.entityDeclaration? rest
      subsetWith fuel type rest
  | fuel + 1, type, .openDeclaration "ATTLIST" :: name :: rest => do
      let element ← elementName? name
      let (type, rest) ← attributeList? type element rest.length rest
      subsetWith fuel type rest
  | fuel + 1, type, .openDeclaration "ELEMENT" :: rest => do
      subsetWith fuel type (← elementDeclaration? rest)
  | fuel + 1, type, .openDeclaration "NOTATION" :: rest => do
      subsetWith fuel type (← notationDeclaration? rest)
  | _, _, _ => none

/-- The rest of a document type, from after the name of its root and its external identifier. -/
def subset? (type : DocumentType) : List Token → Option DocumentType
  | [.closeDeclaration] => some type
  | .openBracket :: rest => do
      let (type, rest) ← subsetWith rest.length type rest
      if rest = [.closeDeclaration] then return type else none
  | _ => none

def ofTokens? (standalone : Bool) (alphabet : Alphabet) : List Token → Option DocumentType
  | name :: rest => do
      let _ ← elementName? name
      match rest with
      | .word .plain _ :: _ =>
          subset? { absent standalone alphabet with incomplete := true } (← externalId? rest)
      | rest => subset? (absent standalone alphabet) rest
  | [] => none

end DocumentType

end SchemaBinding.Xml
