import SchemaBinding.Proofs.Model
import SchemaBinding.Proofs.Reading
import SchemaBinding.Proofs.Rendering

/-!
# Types of fields in programs

The language's type for a field shows whether the field holds a sequence, and the
name of what it holds.  It shows neither whether an artifact is an enumeration or
a class, nor that an artifact only bears the name of a primitive.  Nothing else
is lost.
-/

namespace SchemaBinding

open Text Emission CSharp

theorem isPart_of_mem_replaceForeign {text : List Char} {c : Char}
    (member : c ∈ Identifier.replaceForeign text) : Identifier.isPart c = true := by
  obtain ⟨original, _, rfl⟩ := List.mem_map.1 member
  split
  · assumption
  · rfl

/-- A part of an identifier that is not a digit may also begin one. -/
theorem isStart_of_isPart {c : Char} (part : Identifier.isPart c = true)
    (noDigit : c.isDigit = false) : Identifier.isStart c = true := by
  unfold Identifier.isPart Char.isAlphanum at part
  rw [noDigit, Bool.or_false] at part
  exact part

theorem isName_sanitize (text : String) : IsName (Identifier.sanitize text) := by
  unfold IsName Identifier.sanitize
  rw [String.toList_ofList]
  have parts := @isPart_of_mem_replaceForeign text.toList
  unfold Identifier.sanitizeChars
  cases replaced : Identifier.replaceForeign text.toList with
  | nil => rfl
  | cons first rest =>
      rw [replaced] at parts
      have restParts : rest.all Identifier.isPart = true := by
        rw [List.all_eq_true]
        exact fun c member => parts (List.mem_cons_of_mem first member)
      have firstPart := parts (List.mem_cons_self (a := first) (l := rest))
      dsimp only
      split
      · simp [Identifier.isIdentifier, firstPart, restParts, Identifier.isStart]
      · next noDigit =>
          have start := isStart_of_isPart firstPart (by simpa using noDigit)
          simp [Identifier.isIdentifier, start, restParts]

theorem Target.wellNamed_named (target : Target) : target.named.WellNamed := by
  cases target with
  | primitive kind => trivial
  | enumeration name => exact isName_sanitize name
  | structural name => exact isName_sanitize name

/-- Whatever names the schemas give, a field refers to its artifact by an identifier. -/
theorem Emission.FieldSource.wellNamed {catalog : Catalog} {type : MergedType}
    {fieldType : TypeRef} {binding : Binding}
    (source : FieldSource catalog type fieldType binding) : fieldType.target.WellNamed := by
  cases source with
  | particle particle member =>
      unfold Emission.fieldType
      split
      · exact Target.wellNamed_named _
      · exact isName_sanitize _
  | attributeUse use member => exact Target.wellNamed_named _
  | text name given => exact Target.wellNamed_named _
  | flag => trivial

namespace Target

def artifact? : Target → Option String
  | .primitive _ => none
  | .enumeration name | .structural name => some name

/-- Targets that a model tells apart and a program does not. -/
inductive Blurs : Target → Target → Prop where
  /-- An enumeration and a class have artifacts of one name. -/
  | artifacts (name : String) : Blurs (.enumeration name) (.structural name)
  /-- An artifact has the name of the language's type for a primitive. -/
  | primitive (kind : Primitive) {other : Target}
      (named : other.artifact? = some (primitiveText kind)) : Blurs (.primitive kind) other

end Target

theorem primitiveText_inj {kind other : Primitive}
    (same : primitiveText kind = primitiveText other) : kind = other := by
  cases kind <;> cases other <;> first | rfl | exact absurd same (by decide)

theorem targetText_of_artifact {target : Target} {name : String}
    (named : target.artifact? = some name) : targetText target = name := by
  cases target with
  | primitive kind => cases named
  | enumeration other => exact Option.some.inj named
  | structural other => exact Option.some.inj named

/-- Two targets have one text if they are equal, or if the text blurs what tells them apart. -/
theorem targetText_eq_iff (target other : Target) :
    targetText target = targetText other ↔
      target = other ∨ target.Blurs other ∨ other.Blurs target := by
  constructor
  · intro same
    cases target with
    | primitive kind =>
        cases other with
        | primitive otherKind => exact .inl (congrArg Target.primitive (primitiveText_inj same))
        | enumeration name => exact .inr (.inl (.primitive kind (congrArg some same.symm)))
        | structural name => exact .inr (.inl (.primitive kind (congrArg some same.symm)))
    | enumeration name =>
        cases other with
        | primitive kind => exact .inr (.inr (.primitive kind (congrArg some same)))
        | enumeration otherName => exact .inl (congrArg Target.enumeration same)
        | structural otherName =>
            obtain rfl : name = otherName := same
            exact .inr (.inl (.artifacts name))
    | structural name =>
        cases other with
        | primitive kind => exact .inr (.inr (.primitive kind (congrArg some same)))
        | enumeration otherName =>
            obtain rfl : name = otherName := same
            exact .inr (.inr (.artifacts name))
        | structural otherName => exact .inl (congrArg Target.structural same)
  · have texts : ∀ {left right : Target}, left.Blurs right →
        targetText left = targetText right := by
      intro left right blurs
      cases blurs with
      | artifacts name => rfl
      | primitive kind named => exact (targetText_of_artifact named).symm
    rintro (rfl | blurs | blurs)
    · rfl
    · exact texts blurs
    · exact (texts blurs).symm

/-- No name that a field refers to holds the bracket that marks a sequence. -/
theorem bracket_not_mem_targetText {target : Target} (wellNamed : target.WellNamed) :
    '<' ∉ (targetText target).toList := by
  have plain : ∀ {name : String}, IsName name → '<' ∉ name.toList := by
    intro name isName member
    have part := List.all_eq_true.1 isName.all_isPart '<' member
    revert part
    decide
  cases target with
  | primitive kind => cases kind <;> decide
  | enumeration name => exact plain wellNamed
  | structural name => exact plain wellNamed

/-- The text for a type tells a sequence, and the text for what the field holds. -/
theorem typeText_eq_iff {type other : TypeRef} (wellNamed : type.target.WellNamed)
    (otherWellNamed : other.target.WellNamed) :
    typeText type = typeText other ↔
      type.isSequence = other.isSequence ∧ targetText type.target = targetText other.target := by
  have apart : ∀ {inner plain : Target}, plain.WellNamed →
      "List<" ++ targetText inner ++ ">" ≠ targetText plain := by
    intro inner plain plainNamed same
    apply bracket_not_mem_targetText plainNamed
    rw [← same, String.toList_append, String.toList_append]
    simp
  obtain ⟨target, isSequence⟩ := type
  obtain ⟨otherTarget, otherIsSequence⟩ := other
  constructor
  · intro same
    cases isSequence <;> cases otherIsSequence
    case false.false => exact ⟨rfl, same⟩
    case false.true => exact absurd same.symm (apart wellNamed)
    case true.false => exact absurd same (apart otherWellNamed)
    case true.true =>
      have chars := String.toList_inj.2 same
      simp only [typeText, if_true, String.toList_append] at chars
      exact ⟨rfl, String.toList_inj.1 (List.append_cancel_left (List.append_cancel_right chars))⟩
  · rintro ⟨sequence, target_eq⟩
    dsimp only at sequence target_eq
    rw [typeText, typeText, sequence, target_eq]

/--
The types of two fields of a model have one text exactly if they agree on being
sequences and hold the same, or if the text blurs what they hold.
-/
theorem typeText_eq_iff_of_mem_modelOf (schemas : List Schema) {model other : ClassModel}
    (member : model ∈ (Generator.modelOf (.ofSchemas schemas)).value.2.classes)
    (otherMember : other ∈ (Generator.modelOf (.ofSchemas schemas)).value.2.classes)
    {field otherField : Field} (inModel : field ∈ model.fields)
    (inOther : otherField ∈ other.fields) :
    typeText field.type = typeText otherField.type ↔
      field.type.isSequence = otherField.type.isSequence ∧
        (field.type.target = otherField.type.target ∨
          field.type.target.Blurs otherField.type.target ∨
          otherField.type.target.Blurs field.type.target) := by
  obtain ⟨roots, entered, left, modelled⟩ := exists_modelled schemas
  have wellNamed : ∀ {kept : ClassModel} {part : Field},
      kept ∈ (Generator.modelOf (.ofSchemas schemas)).value.2.classes → part ∈ kept.fields →
      part.type.target.WellNamed := by
    intro kept part inClasses inFields
    obtain ⟨request, _, rfl⟩ := (modelled.mem_classes_iff kept).1 inClasses
    exact (fieldSource_classOf _ inFields).wellNamed
  rw [typeText_eq_iff (wellNamed member inModel) (wellNamed otherMember inOther),
    targetText_eq_iff]

open Schema in
/-- A schema with types that are called like primitives, and types with artifacts of one name. -/
def toolboxSchema : Schema :=
  (ofDeclarations? (.ofString "toolbox.xsd") [
    declaration "complexType" [("name", "string")] [],
    declaration "complexType" [("name", "Drill.bit")] [],
    declaration "simpleType" [("name", "int")] [
      declaration "restriction" [] [declaration "enumeration" [("value", "one")] []]],
    declaration "simpleType" [("name", "Drill-bit")] [
      declaration "restriction" [] [declaration "enumeration" [("value", "thin")] []]],
    declaration "complexType" [("name", "Toolbox")] [
      declaration "sequence" [] [
        declaration "element" [("name", "label")] [],
        declaration "element" [("name", "rope"), ("type", "string")] [],
        declaration "element" [("name", "size"), ("type", "integer")] [],
        declaration "element" [("name", "grade"), ("type", "int")] [],
        declaration "element" [("name", "drill"), ("type", "Drill.bit")] [],
        declaration "element" [("name", "shape"), ("type", "Drill-bit")] [],
        declaration "element" [("name", "ropes"), ("type", "string"),
          ("maxOccurs", "unbounded")] []]]]).getD default

theorem isRead_toolboxSchema : toolboxSchema.IsRead :=
  Schema.isRead_getD_ofDeclarations? (by decide +kernel)

theorem exists_sequence_typeText_ne_toolboxSchema :
    ∃ model ∈ (Generator.modelOf (.ofSchemas [toolboxSchema])).value.2.classes,
      ∃ rope ∈ model.fields, ∃ ropes ∈ model.fields,
        rope.type.target = ropes.type.target ∧ typeText rope.type ≠ typeText ropes.type := by
  obtain ⟨model, member, rope, inModel, ropes, alsoInModel, target, single, many⟩ :
      ∃ model ∈ (Generator.modelOf (.ofSchemas [toolboxSchema])).value.2.classes,
        ∃ rope ∈ model.fields, ∃ ropes ∈ model.fields,
          rope.type.target = ropes.type.target ∧
            rope.type.isSequence = false ∧ ropes.type.isSequence = true := by decide +kernel
  refine ⟨model, member, rope, inModel, ropes, alsoInModel, target, fun same => ?_⟩
  have agree := (typeText_eq_iff_of_mem_modelOf [toolboxSchema] member member inModel
    alsoInModel).1 same
  rw [single, many] at agree
  cases agree.1

/-- A program tells the types of all fields of a model apart. -/
def TellsTypesApart (model : Model) : Prop :=
  ∀ kept ∈ model.classes, ∀ other ∈ model.classes, ∀ field ∈ kept.fields,
    ∀ otherField ∈ other.fields, typeText field.type = typeText otherField.type →
      field.type = otherField.type

/-- A class is taken for a text, an enumeration for a number and a class for an enumeration. -/
theorem not_tellsTypesApart_toolboxSchema :
    toolboxSchema.IsRead ∧
      ¬ TellsTypesApart (Generator.modelOf (.ofSchemas [toolboxSchema])).value.2 ∧
      (Generator.modelOf (.ofSchemas [toolboxSchema])).value.2.classes.map
          (fun kept => kept.fields.map (fun field => (field.type.target, typeText field.type))) =
        [[], [], [(.primitive .text, "string"), (.structural "string", "string"),
          (.primitive .integer, "int"), (.enumeration "int", "int"),
          (.structural "Drill_bit", "Drill_bit"), (.enumeration "Drill_bit", "Drill_bit"),
          (.structural "string", "List<string>")]] := by
  refine ⟨isRead_toolboxSchema, fun apart => ?_, by decide +kernel⟩
  obtain ⟨model, member, label, inModel, rope, alsoInModel, same, different⟩ :
      ∃ model ∈ (Generator.modelOf (.ofSchemas [toolboxSchema])).value.2.classes,
        ∃ label ∈ model.fields, ∃ rope ∈ model.fields,
          typeText label.type = typeText rope.type ∧ label.type ≠ rope.type := by decide +kernel
  exact different (apart model member model member label inModel rope alsoInModel same)

end SchemaBinding
