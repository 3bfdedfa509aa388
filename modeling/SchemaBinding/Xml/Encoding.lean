import SchemaBinding.Text.CodePage.Charset
import SchemaBinding.Text.Utf8
import SchemaBinding.Xml.Declaration

/-!
# From bytes to characters

The first bytes of a document tell whether its units have one byte or two, and
in which order.  A declaration may then name the encoding, either one of a few
that every reader knows or a code page; when the text was handed over already
decoded, the name has no effect.  One that every reader knows must have the
units that the first bytes show.  A code page takes effect behind the
declaration, whose own units may have two bytes.
-/

namespace SchemaBinding.Xml

open SchemaBinding.Text

inductive Encoding where
  | utf8
  | latin1
  | ascii
  | utf16Little
  | utf16Big
  | codePage (page : CodePage)
deriving DecidableEq, Repr

namespace Encoding

/-- Units of two bytes, read in the given order. -/
def units? (bigEndian : Bool) : List UInt8 → Option (List Nat)
  | [] => some []
  | [_] => none
  | a :: b :: rest =>
      let unit := if bigEndian then a.toNat * 256 + b.toNat else b.toNat * 256 + a.toNat
      (units? bigEndian rest).map (unit :: ·)

/-- A leading surrogate and the unit after it form one character; a trailing one alone none. -/
def ofUnits? : List Nat → Option (List Char)
  | [] => some []
  | unit :: rest =>
      if 0xD800 ≤ unit && unit < 0xDC00 then
        match rest with
        | [] => none
        | second :: rest =>
            let code := 0x10000 + (unit - 0xD800) * 1024 + second % 1024
            (ofUnits? rest).map (Char.ofNat code :: ·)
      else if 0xDC00 ≤ unit && unit < 0xE000 then none
      else (ofUnits? rest).map (Char.ofNat unit :: ·)

def ofLatin1 (bytes : List UInt8) : List Char :=
  bytes.map (fun byte => Char.ofNat byte.toNat)

def decode? (encoding : Encoding) (bytes : List UInt8) : Option (List Char) :=
  match encoding with
  | .utf8 => Utf8.decode? bytes
  | .latin1 => some (ofLatin1 bytes)
  | .ascii => if bytes.all (fun byte => byte.toNat < 0x80) then some (ofLatin1 bytes) else none
  | .utf16Little => (units? false bytes).bind ofUnits?
  | .utf16Big => (units? true bytes).bind ofUnits?
  | .codePage page => page.decode? bytes

/-- The encoding that the first bytes show, and the bytes after a byte order mark. -/
def sniff : List UInt8 → Encoding × List UInt8
  | 0xFE :: 0xFF :: rest => (.utf16Big, rest)
  | 0xFF :: 0xFE :: rest => (.utf16Little, rest)
  | 0xEF :: 0xBB :: 0xBF :: rest => (.utf8, rest)
  | 0x00 :: second :: rest => (.utf16Big, 0x00 :: second :: rest)
  | first :: 0x00 :: rest => (.utf16Little, first :: 0x00 :: rest)
  | bytes => (.utf8, bytes)

/-- Whether the units of an encoding have two bytes. -/
def isWide : Encoding → Bool
  | .utf16Little | .utf16Big => true
  | .utf8 | .latin1 | .ascii | .codePage _ => false

/--
The characters of names in a document.  Where a character of Latin-1 is a single
unit, all the letters of Latin-1 are letters of names.
-/
def alphabet : Encoding → Alphabet
  | .latin1 | .utf16Little | .utf16Big => .extended
  | .utf8 | .ascii | .codePage _ => .standard

/-- What a declared name means to a reader that has sniffed the given encoding. -/
inductive Declared where
  | use (encoding : Encoding)
  | conflict
  | unusable (fault : CharsetFault)
deriving DecidableEq, Repr

/-- What the label of a code page means, whatever the units of the declaration. -/
def declaredPage (name : String) : Declared :=
  match CodePage.ofLabel name with
  | .ok page => .use (.codePage page)
  | .error .foreign => .conflict
  | .error fault => .unusable fault

/-- An encoding known by its name must have the unit width and byte order that the bytes show. -/
def declared (sniffed : Encoding) (name : String) : Declared :=
  let narrow (encoding : Encoding) : Declared :=
    if sniffed.isWide then .conflict else .use encoding
  let wide (fits : Bool) : Declared :=
    if sniffed.isWide && fits then .use sniffed else .conflict
  match String.ofList (name.toList.map Char.toUpper) with
  | "UTF-8" => narrow .utf8
  | "ISO-8859-1" => narrow .latin1
  | "US-ASCII" => narrow .ascii
  | "UTF-16" => wide true
  | "UTF-16LE" => wide (sniffed == .utf16Little)
  | "UTF-16BE" => wide (sniffed == .utf16Big)
  | _ => declaredPage name

end Encoding

inductive Origin where
  /-- The bytes of a file, whose encoding the document may declare. -/
  | file
  /-- The UTF-8 form of a text, whose declared encoding has no effect. -/
  | text
deriving DecidableEq, Repr

inductive Malformed where
  | notWellFormed
  | charset (label : String) (fault : CharsetFault)
deriving DecidableEq, Repr

/-- The characters of a document unit by unit, which is enough to read its declaration. -/
def Encoding.preview (sniffed : Encoding) (bytes : List UInt8) : List Char :=
  if sniffed.isWide then
    let even := bytes.take (bytes.length - bytes.length % 2)
    ((Encoding.units? (sniffed == .utf16Big) even).getD []).map Char.ofNat
  else Encoding.ofLatin1 bytes

/-- How the bytes of a document are read. -/
structure Transcript where
  /-- The characters read before the encoding of the document takes effect. -/
  opening : List Char
  encoding : Encoding
  /-- The bytes behind the opening. -/
  bytes : List UInt8
deriving DecidableEq, Repr

namespace Transcript

/--
Bytes in an encoding whose units have the sniffed width are read in it from the
first one on; the units of a declaration of another width are behind its reader.
-/
def behind (sniffed encoding : Encoding) (declaration : List Char) (bytes : List UInt8) :
    Transcript :=
  if encoding.isWide = sniffed.isWide then ⟨[], encoding, bytes⟩
  else ⟨declaration, encoding, bytes.drop (2 * declaration.length)⟩

/-- How bytes are read, from the sniffed encoding and the declaration at their beginning. -/
def settle (origin : Origin) (sniffed : Encoding) (bytes : List UInt8) :
    Except Malformed Transcript :=
  let preview := sniffed.preview bytes
  match origin, Declaration.read? sniffed.alphabet preview with
  | .file, some (⟨some name, _⟩, rest) =>
      match Encoding.declared sniffed name with
      | .use encoding =>
          .ok (behind sniffed encoding (preview.take (preview.length - rest.length)) bytes)
      | .conflict => .error .notWellFormed
      | .unusable fault => .error (.charset name fault)
  | _, _ => .ok ⟨[], sniffed, bytes⟩

def characters? (transcript : Transcript) : Option (List Char) :=
  (transcript.encoding.decode? transcript.bytes).map (transcript.opening ++ ·)

end Transcript

/-- The characters of a document, with line breaks read as line feeds, and those of its names. -/
def charactersOf (origin : Origin) (bytes : List UInt8) :
    Except Malformed (Alphabet × List Char) := do
  let (sniffed, body) := Encoding.sniff bytes
  let transcript ← Transcript.settle origin sniffed body
  match transcript.characters? with
  | some text =>
      if text.all isChar then return (transcript.encoding.alphabet, normalizeLines text)
      else throw .notWellFormed
  | none => throw .notWellFormed

end SchemaBinding.Xml
