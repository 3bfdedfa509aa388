import SchemaBinding.Failure

/-!
# Types of fields

A field holds a primitive value, a value of an enumeration or a structure, or a
sequence of such things.  A simple type is never represented by a structure.
-/

namespace SchemaBinding

inductive Primitive where
  | integer
  | decimal
  | boolean
  | timestamp
  | text
deriving DecidableEq, Repr, Inhabited

namespace Primitive

/-- Whether a value of the type is always there: only a text may be absent. -/
def isValue : Primitive → Bool
  | .text => false
  | _ => true

end Primitive

/-- What a field holds, or each item of it. -/
inductive Target where
  | primitive (kind : Primitive)
  | enumeration (name : String)
  | structural (name : String)
deriving DecidableEq, Repr, Inhabited

inductive ScalarType where
  | primitive (kind : Primitive)
  | enumeration (name : String)
deriving DecidableEq, Repr, Inhabited

namespace ScalarType

def text : ScalarType := .primitive .text

def target : ScalarType → Target
  | .primitive kind => .primitive kind
  | .enumeration name => .enumeration name

def isValue : ScalarType → Bool
  | .primitive kind => kind.isValue
  | .enumeration _ => false

end ScalarType

inductive TypeKind where
  | primitive (kind : Primitive)
  | enumeration
  | structural
deriving DecidableEq, Repr

namespace ScalarType

/-- The representation of a kind: a name belongs to an enumeration and to nothing else. -/
def ofKind : TypeKind → Option String → Except Failure ScalarType
  | .structural, _ => .error .scalarIsClass
  | .enumeration, some name => .ok (.enumeration name)
  | .primitive kind, none => .ok (.primitive kind)
  | _, _ => .error .enumName

end ScalarType

structure TypeRef where
  target : Target
  /-- The field holds any number of items. -/
  isSequence : Bool
deriving DecidableEq, Repr, Inhabited

namespace TypeRef

def text : TypeRef := ⟨.primitive .text, false⟩

def ofScalar (type : ScalarType) (isSequence : Bool) : TypeRef :=
  ⟨type.target, isSequence⟩

/-- Whether a field of the type always has a value, even when its particle is absent. -/
def isValue (type : TypeRef) : Bool :=
  match type.target with
  | .primitive kind => !type.isSequence && kind.isValue
  | _ => false

end TypeRef

end SchemaBinding
