import SchemaBinding.Text.CodePoint
import SchemaBinding.Text.Division
import SchemaBinding.Text.Quoted

/-!
# Locators

The location of a document may be written as a uniform resource locator.  It
is divided into a scheme, an authority, a path, a query and a fragment, and the
authority is checked: an address in brackets must be one of version six or a
future one, and no character may turn into a delimiter when it is normalized.
-/

namespace SchemaBinding

/-- The parts of a locator that matter for finding a document. -/
structure Locator where
  scheme : String
  authority : String
  path : String
deriving DecidableEq, Repr

inductive LocatorFault where
  | brackets
  | futureAddress
  | shortAddress
  | notAnAddress (text : String)
  | compatibility (authority : String)
deriving DecidableEq, Repr

namespace LocatorFault

def message : LocatorFault → String
  | .brackets => "Invalid IPv6 URL"
  | .futureAddress => "IPvFuture address is invalid"
  | .shortAddress => "An IPv4 address cannot be in brackets"
  | .notAnAddress text =>
      Text.quoted text ++ " does not appear to be an IPv4 or IPv6 address"
  | .compatibility authority =>
      "netloc '" ++ authority ++ "' contains invalid characters under NFKC normalization"

end LocatorFault

namespace Locator

/-- Controls and spaces, which are dropped from the beginning. -/
def isLeading (c : Char) : Bool :=
  c.toNat ≤ 0x20

/-- Line breaks and tabs, which are dropped everywhere. -/
def isDropped (c : Char) : Bool :=
  c == '\t' || c == '\r' || c == '\n'

def isSchemeChar (c : Char) : Bool :=
  c.isAlphanum || c == '+' || c == '-' || c == '.'

/-- The scheme in front of a colon, in small letters, and the text after it. -/
def splitScheme (text : List Char) : List Char × List Char :=
  match Text.cutFirst ':' text with
  | (scheme, some rest) =>
      if (scheme.head?.map Char.isAlpha).getD false && scheme.all isSchemeChar then
        (scheme.map Char.toLower, rest)
      else ([], text)
  | (_, none) => ([], text)

/-- The characters whose normal form holds one of the delimiters of a locator. -/
def delimiterLookalikes : List Text.CodeRange := [
  (0x2047, 0x2049), (0x2100, 0x2101), (0x2105, 0x2106), (0x2A74, 0x2A74), (0xFE13, 0xFE13),
  (0xFE16, 0xFE16), (0xFE55, 0xFE56), (0xFE5F, 0xFE5F), (0xFE6B, 0xFE6B), (0xFF03, 0xFF03),
  (0xFF0F, 0xFF0F), (0xFF1A, 0xFF1A), (0xFF1F, 0xFF20)]

/-- A number of one octet: up to three decimal digits, without a leading zero. -/
def isOctet (part : List Char) : Bool :=
  !part.isEmpty && part.length ≤ 3 && part.all Char.isDigit &&
    (part.head? != some '0' || part.length == 1) &&
    part.foldl (fun total c => 10 * total + (c.toNat - 0x30)) 0 ≤ 255

/-- An address of version four: four octets between dots. -/
def isAddress4 (text : List Char) : Bool :=
  let parts := Text.splitAll '.' text
  parts.length == 4 && parts.all isOctet

/-- A group of an address of version six: up to four hexadecimal digits. -/
def isGroup (part : List Char) : Bool :=
  !part.isEmpty && part.length ≤ 4 &&
    part.all (fun c => c.isDigit || ('a' ≤ c && c ≤ 'f') || ('A' ≤ c && c ≤ 'F'))

/-- The groups of an address, where one in dotted form stands for two. -/
def groupsOf? (parts : List (List Char)) : Option (List (List Char)) :=
  match parts.getLast? with
  | some last =>
      if last.contains '.' then
        if isAddress4 last then some (parts.dropLast ++ [['0'], ['0']]) else none
      else some parts
  | none => none

/-- Eight groups, or fewer with one gap that stands for the missing ones. -/
def areGroups (parts : List (List Char)) : Bool :=
  let inner := parts.drop 1 |>.dropLast
  match inner.count [] with
  | 0 => parts.length == 8 && parts.all isGroup
  | 1 =>
      let gap := inner.idxOf [] + 1
      let before := parts.take gap
      let after := parts.drop (gap + 1)
      let high := if before.head? = some [] then before.drop 1 else before
      let low := if after.getLast? = some [] then after.dropLast else after
      (high.length == before.length || high.isEmpty) &&
        (low.length == after.length || low.isEmpty) &&
        high.length + low.length ≤ 7 && high.all isGroup && low.all isGroup
  | _ => false

/-- An address of version six, optionally followed by the name of its zone. -/
def isAddress6 (text : List Char) : Bool :=
  let (address, zone) := Text.cutFirst '%' text
  let zoneFits :=
    match zone with
    | none => true
    | some name => !name.isEmpty && !name.contains '%'
  let parts := Text.splitAll ':' address
  zoneFits && !text.contains '/' && 3 ≤ parts.length &&
    match groupsOf? parts with
    | some groups => groups.length ≤ 9 && areGroups groups
    | none => false

/-- An address of a future version: its number in hexadecimal digits, a dot and a text. -/
def isFutureAddress (text : List Char) : Bool :=
  match Text.cutFirst '.' (text.drop 1) with
  | (version, some rest) =>
      !version.isEmpty && !rest.isEmpty &&
        version.all (fun c => c.isDigit || ('a' ≤ c && c ≤ 'f') || ('A' ≤ c && c ≤ 'F'))
  | (_, none) => false

/-- What stands between brackets must be an address that needs them. -/
def checkAddress (text : List Char) : Except LocatorFault Unit :=
  if text.head? = some 'v' then
    if isFutureAddress text then .ok () else .error .futureAddress
  else if isAddress4 text then .error .shortAddress
  else if isAddress6 text then .ok ()
  else .error (.notAnAddress (String.ofList text))

/-- The part of an authority after its last at sign. -/
def hostAndPort (authority : List Char) : List Char :=
  (authority.reverse.takeWhile (· != '@')).reverse

/-- Brackets come in pairs and hold an address with nothing but a port behind it. -/
def checkBrackets (authority : List Char) : Except LocatorFault Unit :=
  if authority.contains '[' != authority.contains ']' then .error .brackets
  else if !authority.contains '[' then .ok ()
  else
    let host := hostAndPort authority
    match Text.cutFirst '[' host with
    | (before, some bracketed) =>
        let (address, behind) := Text.cutFirst ']' bracketed
        let port := behind.getD []
        if !before.isEmpty then .error .brackets
        else if !port.isEmpty && port.head? != some ':' then .error .brackets
        else checkAddress address
    | (_, none) => checkAddress (Text.cutFirst ':' host).1

def checkCharacters (authority : List Char) : Except LocatorFault Unit :=
  if authority.any (fun c => Text.CodeRange.anyContains delimiterLookalikes c.toNat) then
    .error (.compatibility (String.ofList authority))
  else .ok ()

def ofString (text : String) : Except LocatorFault Locator := do
  let cleaned := (text.toList.dropWhile isLeading).filter (fun c => !isDropped c)
  let (scheme, rest) := splitScheme cleaned
  let (authority, rest) :=
    match rest with
    | '/' :: '/' :: rest =>
        let authority := rest.takeWhile (fun c => c != '/' && c != '?' && c != '#')
        (authority, rest.drop authority.length)
    | rest => ([], rest)
  checkBrackets authority
  checkCharacters authority
  let path := rest.takeWhile (fun c => c != '?' && c != '#')
  return ⟨String.ofList scheme, String.ofList authority, String.ofList path⟩

end Locator

end SchemaBinding
