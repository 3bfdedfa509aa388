import SchemaBinding.Xml.Encoding
import SchemaBinding.Xml.Content
import SchemaBinding.Xml.Element

/-!
# Documents

Reading a document takes the bytes to a tree of elements with expanded names
and to the namespace declarations in it, in document order.  Nothing but white
space, comments and processing instructions stands outside the root element and
the document type.
-/

namespace SchemaBinding.Xml

structure Document where
  root : Element
  bindings : List NamespaceBinding
deriving Repr

namespace Document

variable (alphabet : Alphabet)

/-- The text after white space, comments and processing instructions. -/
def skipMisc? : Nat → List Char → Option (List Char)
  | 0, text => some text
  | fuel + 1, text =>
      match skipSpace text with
      | '<' :: '!' :: '-' :: '-' :: rest => (skipComment? rest).bind (skipMisc? fuel)
      | '<' :: '?' :: rest => (skipInstruction? alphabet rest).bind (skipMisc? fuel)
      | rest => some rest

def scanDocumentType? (standalone : Bool) (text : List Char) :
    Option (DocumentType × List Char) := do
  match DocumentType.Token.scan? alphabet text with
  | some (.openDeclaration "DOCTYPE", rest) =>
      let (tokens, rest) ← DocumentType.Token.scanAll? alphabet rest
      let type ← DocumentType.ofTokens? standalone alphabet tokens
      return (type, ← skipMisc? alphabet rest.length rest)
  | _ => return (.absent standalone alphabet, text)

def nodeOf? (text : List Char) : Option Node := do
  let (declaration, text) ← Declaration.read? alphabet text
  let text ← skipMisc? alphabet text.length text
  let (type, text) ← scanDocumentType? alphabet declaration.standalone text
  type.rootOf? text

/-- The document that a tree is, once names are expanded. -/
def ofNode? (node : Node) : Option Document := do
  let root ← node.expand? Scope.initial
  return ⟨root, node.bindings⟩

def ofBytes (origin : Origin) (bytes : List UInt8) : Except Malformed Document := do
  let (alphabet, text) ← charactersOf origin bytes
  match (nodeOf? alphabet text).bind ofNode? with
  | some document => return document
  | none => throw .notWellFormed

def ofText (text : String) : Except Malformed Document :=
  ofBytes .text (Text.Utf8.encode text.toList)

end Document

end SchemaBinding.Xml
