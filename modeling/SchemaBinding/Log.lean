import SchemaBinding.Text.Blank
import SchemaBinding.Text.Quoted

/-!
# Log records

What the generator reports while it works.  A level is a number; records below
the level in force are not shown.
-/

namespace SchemaBinding

inductive Severity where
  | debug
  | info
  | warning
  | error
  | critical
deriving DecidableEq, Repr

namespace Severity

def level : Severity → Int
  | .debug => 10
  | .info => 20
  | .warning => 30
  | .error => 40
  | .critical => 50

def name : Severity → String
  | .debug => "DEBUG"
  | .info => "INFO"
  | .warning => "WARNING"
  | .error => "ERROR"
  | .critical => "CRITICAL"

def ofName? : String → Option Severity
  | "DEBUG" => some .debug
  | "INFO" => some .info
  | "WARN" | "WARNING" => some .warning
  | "ERROR" => some .error
  | "CRITICAL" => some .critical
  | _ => none
/-- Capital letters; the dotless small letter also has the plain capital one. -/
def capital (c : Char) : Char :=
  if c = 'ı' then 'I' else c.toUpper

def ofText? (text : String) : Option Severity :=
  ofName? (String.ofList ((Text.strip text.toList).map capital))

/-- The severity from which records are shown when details are asked for so often. -/
def ofVerbosity (count : Int) : Severity :=
  if count ≤ 0 then .warning else if count = 1 then .info else .debug

end Severity

structure Record where
  severity : Severity
  message : String
deriving DecidableEq, Repr

namespace Record

def debug (message : String) : Record := ⟨.debug, message⟩

def info (message : String) : Record := ⟨.info, message⟩

def warning (message : String) : Record := ⟨.warning, message⟩

def line (record : Record) : String :=
  record.severity.name ++ ": " ++ record.message

end Record

/-- A result with the records reported on the way to it. -/
structure Logged (α : Type) where
  records : List Record
  value : α
deriving Repr

namespace Logged

variable {α β γ : Type}

protected def pure (value : α) : Logged α :=
  ⟨[], value⟩

/-- The records of the first computation come before those of the second. -/
protected def bind (first : Logged α) (next : α → Logged β) : Logged β :=
  let second := next first.value
  ⟨first.records ++ second.records, second.value⟩

instance : Monad Logged where
  pure := Logged.pure
  bind := Logged.bind

def report (record : Record) : Logged Unit :=
  ⟨[record], ()⟩

@[simp]
theorem pure_bind (value : α) (next : α → Logged β) :
    Logged.bind (Logged.pure value) next = next value := by
  simp [Logged.bind, Logged.pure]

@[simp]
theorem bind_pure (first : Logged α) : Logged.bind first Logged.pure = first := by
  simp [Logged.bind, Logged.pure]

theorem bind_assoc (first : Logged α) (next : α → Logged β) (last : β → Logged γ) :
    Logged.bind (Logged.bind first next) last =
      Logged.bind first (fun value => Logged.bind (next value) last) := by
  simp [Logged.bind]

instance : LawfulMonad Logged :=
  LawfulMonad.mk' Logged bind_pure pure_bind bind_assoc

end Logged

end SchemaBinding
