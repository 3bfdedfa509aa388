/-!
# Identifiers

Arbitrary text becomes an identifier of ASCII letters, digits and underscores
that does not begin with a digit, and a name already in use is made unique by
the smallest free decimal suffix.
-/

namespace SchemaBinding.Text.Identifier

def isPart (c : Char) : Bool :=
  c.isAlphanum || c == '_'

def isStart (c : Char) : Bool :=
  c.isAlpha || c == '_'

def isIdentifier : List Char → Bool
  | [] => false
  | c :: rest => isStart c && rest.all isPart

/-- Every character that no identifier holds becomes an underscore. -/
def replaceForeign (text : List Char) : List Char :=
  text.map (fun c => if isPart c then c else '_')

def sanitizeChars (text : List Char) : List Char :=
  match replaceForeign text with
  | [] => ['_']
  | c :: rest => if c.isDigit then '_' :: c :: rest else c :: rest

def sanitize (text : String) : String :=
  String.ofList (sanitizeChars text.toList)

/-- The `index`-th candidate for a name: the name itself, then the name with the index. -/
def candidate (name : String) : Nat → String
  | 0 => name
  | index + 1 => name ++ toString (index + 1)

/-- The first free candidate among `fuel` of them, from `index` on. -/
def firstFree (name : String) (used : List String) : Nat → Nat → String
  | 0, index => candidate name index
  | fuel + 1, index =>
      if used.contains (candidate name index) then firstFree name used fuel (index + 1)
      else candidate name index

/-- The name, or the name with the smallest decimal suffix that is not in use. -/
def unique (name : String) (used : List String) : String :=
  firstFree name used used.length 0

example : sanitize "2nd-street" = "_2nd_street" := by decide

example : unique "a" ["a", "a1"] = "a2" := by decide

end SchemaBinding.Text.Identifier
