import SchemaBinding.Json.Double
import SchemaBinding.Text.Quoted

/-!
# Values of JSON documents

A value with the entries of its records in the order of their first
occurrence, how it is shown as text, when it counts as true and when two values
are equal.
-/

namespace SchemaBinding.Json

/-- The text of code points, with replacement characters for surrogates that stand alone. -/
def replaced (codes : List Nat) : String :=
  String.ofList (codes.map (fun code => if code.isValidChar then Char.ofNat code else '\uFFFD'))

def arePaired (codes : List Nat) : Bool :=
  codes.all (fun code => code.isValidChar)

/-- What an entry of a record is known by. -/
inductive Key where
  | plain (value : String)
  /-- A text in which a surrogate stands alone, by its code points. -/
  | broken (codes : List Nat)
deriving DecidableEq, Repr, Inhabited

namespace Key

instance : Coe String Key := ⟨plain⟩

def shown : Key → String
  | .plain value => Text.quoted value
  | .broken codes => Text.quotedCodes codes

def display : Key → String
  | .plain value => value
  | .broken codes => replaced codes

def ofCodes (codes : List Nat) : Key :=
  if arePaired codes then .plain (replaced codes) else .broken codes

def isBroken : Key → Bool
  | .plain _ => false
  | .broken _ => true

end Key

inductive Value where
  | null
  | boolean (value : Bool)
  | integer (value : Int)
  | number (value : Double)
  | text (value : String)
  /-- A text in which a surrogate stands alone, by its code points. -/
  | brokenText (codes : List Nat)
  | list (items : List Value)
  | record (entries : List (Key × Value))
deriving Repr, Inhabited

namespace Value

/-- Whether a value counts as true: null, zero and whatever is empty do not. -/
def isTrue : Value → Bool
  | .null => false
  | .boolean value => value
  | .integer value => value != 0
  | .number value => value.isTrue
  | .text value => value != ""
  | .brokenText codes => !codes.isEmpty
  | .list items => !items.isEmpty
  | .record entries => !entries.isEmpty

mutual

/-- The text of a value inside another one, where a text is in quotation marks. -/
def shown : Value → String
  | .null => "None"
  | .boolean true => "True"
  | .boolean false => "False"
  | .integer value => toString value
  | .number value => value.toString
  | .text value => Text.quoted value
  | .brokenText codes => Text.quotedCodes codes
  | .list items => "[" ++ String.intercalate ", " (shownItems items) ++ "]"
  | .record entries => "\x7b" ++ String.intercalate ", " (shownEntries entries) ++ "\x7d"

def shownItems : List Value → List String
  | [] => []
  | item :: rest => shown item :: shownItems rest

def shownEntries : List (Key × Value) → List String
  | [] => []
  | (key, value) :: rest => (key.shown ++ ": " ++ shown value) :: shownEntries rest

end

/-- The text of code points, which is broken if one of them is a surrogate. -/
def ofCodes (codes : List Nat) : Value :=
  if arePaired codes then .text (replaced codes) else .brokenText codes

def isBroken : Value → Bool
  | .brokenText _ => true
  | _ => false

def display : Value → String
  | .text value => value
  | .brokenText codes => replaced codes
  | value => value.shown

def entry? (key : Key) (entries : List (Key × Value)) : Option Value :=
  (entries.find? (·.1 == key)).map Prod.snd

/-- The integer that a truth value or an integer counts as. -/
def integer? : Value → Option Int
  | .boolean value => some (if value then 1 else 0)
  | .integer value => some value
  | _ => none

/-- Whether both of two values are the number that denotes nothing. -/
def areUndefined : Value → Value → Bool
  | .number .notANumber, .number .notANumber => true
  | _, _ => false

mutual

/--
Whether two values are equal: numbers by what they denote, records in any order.
What denotes no number equals nothing, but agrees with its like inside another value.
-/
def equals : Value → Value → Bool
  | .null, .null => true
  | .text value, .text other => value == other
  | .brokenText codes, .brokenText others => codes == others
  | .list items, .list others => equalItems items others
  | .record entries, .record others =>
      entries.length == others.length && equalEntries entries others
  | .number value, .number other => value.equals other
  | .number value, other =>
      match other.integer? with
      | some other => value.isInteger other
      | none => false
  | .boolean value, other => equalNumber (if value then 1 else 0) other
  | .integer value, other => equalNumber value other
  | _, _ => false

def equalNumber (value : Int) : Value → Bool
  | .number other => other.isInteger value
  | other => other.integer? == some value

def equalItems : List Value → List Value → Bool
  | [], [] => true
  | item :: rest, other :: others => (areUndefined item other || equals item other) && equalItems rest others
  | _, _ => false

/-- Whether every entry has an equal one in another record. -/
def equalEntries : List (Key × Value) → List (Key × Value) → Bool
  | [], _ => true
  | (key, value) :: rest, others =>
      (match entry? key others with
        | some other => areUndefined value other || equals value other
        | none => false) && equalEntries rest others

end

/-- The entries with a value put under a key: in the place of an older one, or at the end. -/
def insert (entries : List (Key × Value)) (key : Key) (value : Value) :
    List (Key × Value) :=
  if entries.any (·.1 == key) then
    entries.map (fun entry => if entry.1 = key then (key, value) else entry)
  else entries ++ [(key, value)]

end Value

end SchemaBinding.Json
