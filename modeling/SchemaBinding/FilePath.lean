import SchemaBinding.Text.Division

/-!
# Paths

A path is a sequence of names below an anchor, which is empty for a relative
path.  Empty names and single dots are left out; double dots are kept until the
path is resolved against a directory.
-/

namespace SchemaBinding

/-- A path, relative when its anchor is empty. -/
structure FilePath where
  anchor : String
  parts : List String
deriving DecidableEq, Repr, Inhabited

namespace FilePath

/-- The anchor that leading slashes give: exactly two are kept apart from one or more. -/
def anchorOf : List Char → String
  | '/' :: '/' :: '/' :: _ => "/"
  | '/' :: '/' :: _ => "//"
  | '/' :: _ => "/"
  | _ => ""

def partsOf (text : List Char) : List String :=
  ((Text.splitAll '/' text).filter (fun part => part ≠ [] ∧ part ≠ ['.'])).map String.ofList

def ofString (text : String) : FilePath :=
  ⟨anchorOf text.toList, partsOf text.toList⟩

/-- The written form of a path; a relative path without names is a single dot. -/
def toString (path : FilePath) : String :=
  if path.anchor = "" && path.parts.isEmpty then "."
  else path.anchor ++ String.intercalate "/" path.parts

instance : ToString FilePath := ⟨toString⟩

def isAbsolute (path : FilePath) : Bool :=
  path.anchor != ""

def hasNull (path : FilePath) : Bool :=
  path.parts.any (fun part => part.toList.contains '\x00')

/-- The last name, or nothing for a path without names. -/
def name (path : FilePath) : String :=
  path.parts.getLast?.getD ""

def parent (path : FilePath) : FilePath :=
  { path with parts := path.parts.dropLast }

/-- The second path as seen from the first. -/
def join (base path : FilePath) : FilePath :=
  if path.isAbsolute then path else { base with parts := base.parts ++ path.parts }

theorem join_of_absolute {base path : FilePath} (absolute : path.isAbsolute = true) :
    base.join path = path := by
  simp [join, absolute]

/-- The last dot of a name and what follows it, unless the dot begins or ends the name. -/
def suffixOf (name : List Char) : List Char :=
  let after := name.reverse.takeWhile (· != '.')
  match name.reverse.drop after.length with
  | [] => []
  | _ :: before => if after.isEmpty || before.isEmpty then [] else '.' :: after.reverse

def suffix (path : FilePath) : String :=
  String.ofList (suffixOf path.name.toList)

/-- A double dot removes the name before it, if there is one. -/
def enter (location : List String) (part : String) : List String :=
  if part = ".." then location.dropLast else location ++ [part]

/-- The names from the top down to which a path leads, seen from a directory. -/
def resolveFrom (directory : List String) (path : FilePath) : List String :=
  path.parts.foldl enter (if path.isAbsolute then [] else directory)

def ofLocation (location : List String) : FilePath :=
  ⟨"/", location⟩

def precedes : List String → List String → Bool
  | [], _ => true
  | _ :: _, [] => false
  | a :: rest, b :: others =>
      if a = b then precedes rest others else decide (a < b)

end FilePath

end SchemaBinding
