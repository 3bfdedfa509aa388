import SchemaBinding.Schema.Definition

/-!
# Merging complex types

Several documents may each declare a part of one complex type.  Its definitions
are folded in the order of their registration: of two operands the one with
strictly more elements leads, the earlier one otherwise, and what the other one
declares under new names follows.
-/

namespace SchemaBinding

/-- The one definition that all definitions of a complex type make together. -/
structure MergedType where
  name : String
  elements : List ElementParticle
  attributes : List AttributeUse
  base : Option QName
  text : Option QName
  targetNamespace : Option String
  /-- The documents of the definitions, in the order of their registration. -/
  sources : List FilePath
deriving Repr

namespace MergedType

def ofDefinition (type : ComplexType) : MergedType where
  name := type.name
  elements := type.elements
  attributes := type.attributes
  base := type.base
  text := type.text
  targetNamespace := type.targetNamespace
  sources := type.source.toList

def isEmpty (type : MergedType) : Bool :=
  type.elements.isEmpty && type.attributes.isEmpty && type.text.isNone

/-- The leading items, followed by the other ones whose names did not occur before. -/
def mergeByName {α : Type} (nameOf : α → String) (lead : List α) : List α → List α
  | [] => lead
  | item :: rest =>
      if (lead.map nameOf).contains (nameOf item) then mergeByName nameOf lead rest
      else mergeByName nameOf (lead ++ [item]) rest

/-- The leading items come first and all remain. -/
theorem prefix_mergeByName {α : Type} (nameOf : α → String) (lead others : List α) :
    lead <+: mergeByName nameOf lead others := by
  induction others generalizing lead with
  | nil => exact List.prefix_rfl
  | cons item rest ih =>
      unfold mergeByName
      split
      · exact ih lead
      · exact (List.prefix_append lead [item]).trans (ih (lead ++ [item]))

/-- What two operands make together when the first of them leads. -/
def combine (lead other : MergedType) (name : String) (sources : List FilePath) : MergedType where
  name := name
  elements := mergeByName Particle.name lead.elements other.elements
  attributes := mergeByName AttributeUse.name lead.attributes other.attributes
  base := lead.base.or other.base
  text := lead.text.or other.text
  targetNamespace := lead.targetNamespace
  sources := sources

/-- The definitions folded so far together with the next one. -/
def merge (folded : MergedType) (type : ComplexType) : MergedType :=
  let next := ofDefinition type
  let sources := folded.sources ++ next.sources
  if folded.elements.length < next.elements.length then combine next folded folded.name sources
  else combine folded next folded.name sources

def fold (first : ComplexType) (later : List ComplexType) : MergedType :=
  later.foldl merge (ofDefinition first)

theorem fold_append (first : ComplexType) (later : List ComplexType) (last : ComplexType) :
    fold first (later ++ [last]) = (fold first later).merge last := by
  simp [fold]

def ofList? : List ComplexType → Option MergedType
  | [] => none
  | first :: later => some (fold first later)

end MergedType

end SchemaBinding
