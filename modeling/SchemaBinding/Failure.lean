import SchemaBinding.FileTree
import SchemaBinding.Json.Reading
import SchemaBinding.Locator
import SchemaBinding.Log
import SchemaBinding.Text.CodePage.Charset

/-!
# Failures

Every way in which reading schemas, merging types, rendering and writing can
fail, with the wording of each in one place, and the result of a computation
that may fail after it has reported records.
-/

namespace SchemaBinding

inductive SchemaFault where
  /-- The document is not well formed. -/
  | notWellFormed
  /-- The root element has the given name. -/
  | notSchema (root : String)
  /-- An element has a least number of occurrences that is no number. -/
  | occurrence (text : String)
deriving DecidableEq, Repr

inductive Failure where
  | schema (path : FilePath) (fault : SchemaFault)
  | charset (label : String) (fault : Text.CharsetFault)
  | missingDocument (location : String) (referrer : FilePath)
  | locator (fault : LocatorFault)
  | file (fault : FileFault)
  | unregisteredType (name : String)
  | nothingToMerge
  | scalarIsClass
  | enumName
  | unknownLevel (text : String)
  | notText
  | wrongKind
  | missingSetting
  | notUtf8
  /-- A text with a surrogate that stands alone is to be written. -/
  | unencodable
  | json (fault : Json.Malformed)
  /-- An option is declared with one form for both turning it on and turning it off. -/
  | sameForms (declaration : String)
  /-- A form holds no letter that could be repeated. -/
  | noLetter
  /-- A letter is to be repeated more often than can be counted. -/
  | uncountable
  /-- A letter is to be repeated more often than can be kept. -/
  | unkeepable
deriving DecidableEq, Repr

namespace Failure

/-- The text of a failure; empty where only its kind is told. -/
def message : Failure → String
  | .schema path .notWellFormed => path.toString ++ ": not well-formed"
  | .schema path (.notSchema root) =>
      path.toString ++ ": root element is " ++ Text.quoted root ++ ", not an XSD schema"
  | .schema path (.occurrence text) =>
      path.toString ++ ": invalid minOccurs value " ++ Text.quoted text
  | .charset label fault => fault.message label
  | .file .nullInPath => "embedded null byte"
  | .missingDocument location referrer =>
      referrer.toString ++ ": referenced schema " ++ Text.quoted location ++ " not found"
  | .locator fault => fault.message
  | .unregisteredType name => Text.quoted name
  | .nothingToMerge => "cannot merge an empty definition list"
  | .scalarIsClass => "a scalar type cannot resolve to a class"
  | .enumName => "enum_name is required for, and only for, enum scalar types"
  | .unknownLevel text => Text.quoted text ++ " is not a valid loglevel"
  | .json (.numeralTooLong digits) =>
      "Exceeds the limit (4300 digits) for integer string conversion: value has " ++
        toString digits ++ " digits; use sys.set_int_max_str_digits() to increase the limit"
  | .json (.tooDeep .list) =>
      "maximum recursion depth exceeded while decoding a JSON array from a unicode string"
  | .json (.tooDeep .record) =>
      "maximum recursion depth exceeded while decoding a JSON object from a unicode string"
  | .sameForms declaration =>
      "Boolean option " ++ Text.quoted declaration ++
        " cannot use the same flag for true/false."
  | .noLetter => "string index out of range"
  | .uncountable => "cannot fit 'int' into an index-sized integer"
  | .file _ | .notText | .wrongKind | .missingSetting | .notUtf8 | .unencodable
  | .json .notJson | .unkeepable => ""

end Failure

/-- A result, or the failure in its place, with the records reported until then. -/
structure Run (α : Type) where
  records : List Record
  outcome : Except Failure α

namespace Run

variable {α β : Type}

protected def pure (value : α) : Run α :=
  ⟨[], .ok value⟩

/-- The second computation runs only if the first one succeeds; the records of both remain. -/
protected def bind (first : Run α) (next : α → Run β) : Run β :=
  match first.outcome with
  | .error failure => ⟨first.records, .error failure⟩
  | .ok value =>
      let second := next value
      ⟨first.records ++ second.records, second.outcome⟩

instance : Monad Run where
  pure := Run.pure
  bind := Run.bind

def report (record : Record) : Run Unit :=
  ⟨[record], .ok ()⟩

def fail (failure : Failure) : Run α :=
  ⟨[], .error failure⟩

def ofExcept (outcome : Except Failure α) : Run α :=
  ⟨[], outcome⟩

def ofLogged (logged : Logged α) : Run α :=
  ⟨logged.records, .ok logged.value⟩

@[simp]
theorem pure_bind (value : α) (next : α → Run β) : Run.bind (Run.pure value) next = next value := by
  simp [Run.bind, Run.pure]

@[simp]
theorem bind_pure (first : Run α) : Run.bind first Run.pure = first := by
  obtain ⟨records, outcome⟩ := first
  cases outcome <;> simp [Run.bind, Run.pure]

theorem bind_assoc {γ : Type} (first : Run α) (next : α → Run β) (last : β → Run γ) :
    Run.bind (Run.bind first next) last =
      Run.bind first (fun value => Run.bind (next value) last) := by
  obtain ⟨records, outcome⟩ := first
  cases outcome with
  | error failure => rfl
  | ok value =>
      simp only [Run.bind]
      cases (next value).outcome <;> simp

instance : LawfulMonad Run :=
  LawfulMonad.mk' Run bind_pure pure_bind bind_assoc

end Run

end SchemaBinding
