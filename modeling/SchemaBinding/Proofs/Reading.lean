import SchemaBinding.Proofs.Assurance
import SchemaBinding.Schema.Reading

/-!
# Schemas that were read

What reading a document assures of the schema: it belongs to the path of the
document, and a type inside a global element bears the name of the element.
Reading reports nothing but details.
-/

namespace SchemaBinding.Schema

open Xml

def IsRead (schema : Schema) : Prop :=
  ∃ path document, (ofDocument path document).outcome = .ok schema

def IsDetail (record : Record) : Prop :=
  record.severity = .debug

abbrev Quiet {α : Type} (run : Run α) : Prop :=
  run.Assures IsDetail (fun _ => True)

theorem quiet_pure {α : Type} (value : α) : Quiet (pure value : Run α) :=
  Run.assures_pure trivial

theorem Quiet.bind {α β : Type} {first : Run α} {next : α → Run β} (start : Quiet first)
    (step : ∀ value, Quiet (next value)) : Quiet (first >>= next) :=
  Run.Assures.bind start (fun value _ => step value)

theorem quiet_readAttributeUse (context : Context) (element : Element) :
    Quiet (readAttributeUse context element) := by
  unfold readAttributeUse
  split
  · exact Quiet.bind (Run.assures_report rfl) (fun _ => quiet_pure _)
  · exact quiet_pure _

mutual

theorem quiet_readContent (context : Context) (type : ComplexType) (elements : List Element) :
    Quiet (readContent context type elements) := by
  match elements with
  | [] =>
      rw [readContent]
      exact quiet_pure _
  | ⟨name, attributes, children⟩ :: rest =>
      unfold readContent
      refine Quiet.bind ?_
        (fun type => quiet_readContent context type rest)
      split
      · exact Quiet.bind (quiet_readGroup context children) (fun _ => quiet_pure _)
      · exact Quiet.bind (quiet_readAttributeUse context _) (fun _ => quiet_pure _)
      · exact quiet_readComplexContent context type children
      · exact quiet_readSimpleContent context type children
      · exact quiet_pure _

theorem quiet_readComplexContent (context : Context) (type : ComplexType)
    (elements : List Element) : Quiet (readComplexContent context type elements) := by
  match elements with
  | [] =>
      rw [readComplexContent]
      exact quiet_pure _
  | ⟨name, attributes, children⟩ :: rest =>
      unfold readComplexContent
      refine Quiet.bind ?_
        (fun type => quiet_readComplexContent context type rest)
      split
      · exact quiet_readContent context _ children
      · exact quiet_readContent context type children
      · exact quiet_pure _

theorem quiet_readSimpleContent (context : Context) (type : ComplexType)
    (elements : List Element) : Quiet (readSimpleContent context type elements) := by
  match elements with
  | [] =>
      rw [readSimpleContent]
      exact quiet_pure _
  | ⟨name, attributes, children⟩ :: rest =>
      unfold readSimpleContent
      refine Quiet.bind ?_
        (fun type => quiet_readSimpleContent context type rest)
      split
      · exact quiet_readContent context _ children
      · exact quiet_readContent context _ children
      · exact quiet_pure _

theorem quiet_readGroup (context : Context) (elements : List Element) :
    Quiet (readGroup context elements) := by
  match elements with
  | [] =>
      rw [readGroup]
      exact quiet_pure _
  | ⟨name, attributes, children⟩ :: rest =>
      unfold readGroup
      refine Quiet.bind ?_ (fun particles =>
        Quiet.bind (quiet_readGroup context rest) (fun _ => quiet_pure _))
      split
      · refine Quiet.bind (Run.assures_ofExcept (fun _ _ => trivial)) (fun _ => ?_)
        exact Quiet.bind (quiet_readInlineTypes context children) (fun _ => quiet_pure _)
      · exact quiet_readGroup context children
      · exact quiet_pure _

theorem quiet_readInlineTypes (context : Context) (elements : List Element) :
    Quiet (readInlineTypes context elements) := by
  match elements with
  | [] =>
      rw [readInlineTypes]
      exact quiet_pure _
  | ⟨name, _, children⟩ :: rest =>
      unfold readInlineTypes
      refine Quiet.bind ?_ (fun types =>
        Quiet.bind (quiet_readInlineTypes context rest) (fun _ => quiet_pure _))
      split
      · exact Quiet.bind (quiet_readContent context _ children) (fun _ => quiet_pure _)
      · exact quiet_pure _

end

/-- The type inside a global element bears the name of the element. -/
def NamesInlineType (element : GlobalElement) : Prop :=
  ∀ type, element.complexType = some type → type.name = element.name

theorem namesInlineType_readGlobalElement (context : Context) (element : Element) :
    (readGlobalElement context element).Assures IsDetail NamesInlineType := by
  refine Run.Assures.bind (quiet_readInlineTypes context element.children) (fun types _ => ?_)
  refine Run.assures_pure ?_
  intro type inside
  obtain ⟨read, _, rfl⟩ := Option.map_eq_some_iff.1 inside
  rfl

/-- What reading keeps of a schema while it adds declarations. -/
structure Consistent (path : FilePath) (schema : Schema) : Prop where
  source_eq : schema.source = path
  names_inline : ∀ element ∈ schema.elements, NamesInlineType element

theorem consistent_readDeclaration (path : FilePath) (context : Context) (schema : Schema)
    (element : Element) (consistent : Consistent path schema) :
    (readDeclaration context schema element).Assures IsDetail (Consistent path) := by
  obtain ⟨source_eq, names_inline⟩ := consistent
  unfold readDeclaration
  dsimp only
  split
  · split
    · exact Run.Assures.bind (Run.assures_report rfl)
        (fun _ _ => Run.assures_pure ⟨source_eq, names_inline⟩)
    · exact Run.Assures.bind (quiet_readContent context _ _)
        (fun _ _ => Run.assures_pure ⟨source_eq, names_inline⟩)
  · split
    · exact Run.Assures.bind (Run.assures_report rfl)
        (fun _ _ => Run.assures_pure ⟨source_eq, names_inline⟩)
    · exact Run.assures_pure ⟨source_eq, names_inline⟩
  · refine Run.Assures.bind (namesInlineType_readGlobalElement context element)
      (fun global named => Run.assures_pure ⟨source_eq, fun other member => ?_⟩)
    rcases List.mem_append.1 member with before | here
    · exact names_inline other before
    · obtain rfl := List.mem_singleton.1 here
      exact named
  · exact Run.assures_pure ⟨source_eq, names_inline⟩

theorem consistent_readTopLevel (path : FilePath) (context : Context) (schema : Schema)
    (element : Element) (consistent : Consistent path schema) :
    (readTopLevel context schema element).Assures IsDetail (Consistent path) := by
  obtain ⟨source_eq, names_inline⟩ := consistent
  unfold readTopLevel
  dsimp only
  split
  · split
    · exact Run.assures_foldlM _ (consistent_readDeclaration path context)
        ⟨source_eq, names_inline⟩
    all_goals exact Run.assures_pure ⟨source_eq, names_inline⟩
  · exact consistent_readDeclaration path context schema element ⟨source_eq, names_inline⟩

theorem consistent_ofDocument (path : FilePath) (document : Document) :
    (ofDocument path document).Assures IsDetail (Consistent path) := by
  unfold ofDocument
  split
  · refine Run.assures_foldlM _ (consistent_readTopLevel path _) ⟨rfl, ?_⟩
    intro element member
    simp at member
  · exact Run.assures_fail _

/-- Reading a file reports only details and yields a schema that belongs to the file. -/
theorem consistent_ofFile (tree : FileTree) (path : FilePath) :
    (ofFile tree path).Assures IsDetail (Consistent path) := by
  unfold ofFile
  split
  · unfold ofBytes
    split
    · exact consistent_ofDocument path _
    · exact Run.assures_fail _
    · exact Run.assures_fail _
  · exact Run.assures_fail _

theorem IsRead.names_inline {schema : Schema} (read : schema.IsRead) {element : GlobalElement}
    (member : element ∈ schema.elements) {type : ComplexType}
    (inside : element.complexType = some type) : type.name = element.name := by
  obtain ⟨path, document, succeeds⟩ := read
  exact ((consistent_ofDocument path document).value schema succeeds).names_inline element
    member type inside

/-- An element of the schema language with plain attributes. -/
def declaration (word : String) (attributes : List (String × String))
    (children : List Element) : Element where
  name := ⟨some xsdNamespace, word⟩
  attributes := attributes.map (fun (name, value) => (⟨none, name⟩, value))
  children := children

def ofDocument? (path : FilePath) (document : Document) : Option Schema :=
  (ofDocument path document).outcome.toOption

theorem isRead_getD_ofDocument? {path : FilePath} {document : Document}
    (read : (ofDocument? path document).isSome = true) :
    ((ofDocument? path document).getD default).IsRead := by
  unfold ofDocument? at read ⊢
  cases outcome : (ofDocument path document).outcome with
  | ok schema => exact ⟨path, document, outcome⟩
  | error failure =>
      rw [outcome] at read
      cases read

def ofDeclarations? (path : FilePath) (declarations : List Element) : Option Schema :=
  (ofDocument path ⟨declaration "schema" [] declarations, []⟩).outcome.toOption

theorem isRead_getD_ofDeclarations? {path : FilePath} {declarations : List Element}
    (read : (ofDeclarations? path declarations).isSome = true) :
    ((ofDeclarations? path declarations).getD default).IsRead :=
  isRead_getD_ofDocument? read

end SchemaBinding.Schema
