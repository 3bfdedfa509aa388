import SchemaBinding.Proofs.Printing
import SchemaBinding.Text.Identifier

/-!
# What source files show

The source text of an artifact determines all that is needed to read and write
documents: names, bindings, namespaces and values, whatever characters they
hold.  Names in programs are identifiers; texts from schemas stand in literals.
-/

namespace SchemaBinding

open Text

/-- A name that may stand in a program. -/
def IsName (name : String) : Prop :=
  Identifier.isIdentifier name.toList = true

instance : DecidablePred IsName := fun name =>
  inferInstanceAs (Decidable (Identifier.isIdentifier name.toList = true))

theorem IsName.all_isPart {name : String} (isName : IsName name) :
    name.toList.all Identifier.isPart = true := by
  unfold IsName at isName
  cases chars : name.toList with
  | nil => rfl
  | cons first rest =>
      rw [chars, Identifier.isIdentifier, Bool.and_eq_true] at isName
      rw [List.all_cons, Bool.and_eq_true]
      refine ⟨?_, isName.2⟩
      have start := isName.1
      unfold Identifier.isStart at start
      unfold Identifier.isPart Char.isAlphanum
      rcases Bool.or_eq_true_iff.1 start with letter | underscore
      · rw [letter, Bool.true_or, Bool.true_or]
      · rw [underscore, Bool.or_true]

theorem IsName.ne_empty {name : String} (isName : IsName name) : name ≠ "" := by
  rintro rfl
  cases isName

def Target.WellNamed : Target → Prop
  | .primitive _ => True
  | .enumeration name | .structural name => IsName name

structure Field.WellNamed (field : Field) : Prop where
  name : IsName field.name
  target : field.type.target.WellNamed

structure EnumModel.WellNamed (model : EnumModel) : Prop where
  name : IsName model.name
  members : ∀ member ∈ model.members, IsName member.name

structure ClassModel.WellNamed (model : ClassModel) : Prop where
  name : IsName model.name
  base : ∀ base, model.base = some base → IsName base
  fields : ∀ field ∈ model.fields, field.WellNamed

/-- All names that an artifact writes into a program may stand there. -/
def Artifact.WellNamed : Artifact → Prop
  | .enumeration model => model.WellNamed
  | .structural model => model.WellNamed

namespace CSharp

/-- No namespace and the empty one are shown alike. -/
def shownUri (uri : Option String) : Option String :=
  uri.filter (· != "")

def shownBinding : Binding → Binding
  | .element name uri => .element name (shownUri uri)
  | other => other

structure ShownField where
  name : String
  type : String
  binding : Binding
  initial : Option String
deriving DecidableEq, Repr

def shownField (field : Field) : ShownField :=
  ⟨field.name, typeText field.type, shownBinding field.binding, initialText field⟩

inductive Shown where
  | enumeration (name originalName : String) (uri : Option String) (members : List Member)
  | structural (name : String) (base : Option String) (originalName : String)
      (uri : Option String) (root : Option RootElement) (isEmpty : Bool)
      (fields : List ShownField)
deriving DecidableEq, Repr

def shownRoot (root : RootElement) : RootElement :=
  ⟨root.name, shownUri root.uri⟩

def shown : Artifact → Shown
  | .enumeration model =>
      .enumeration model.name model.originalName (shownUri model.uri) model.members
  | .structural model =>
      .structural model.name model.base model.originalName (shownUri model.uri)
        (model.root.map shownRoot) model.isEmpty (model.fields.map shownField)

def uriText : Option String → String
  | some uri => ", Namespace = " ++ literal uri ++ ")"
  | none => ")"

theorem uriText_some (uri : String) :
    uriText (some uri) = ", Namespace = " ++ literal uri ++ ")" := rfl

theorem nameAttribute_eq (kind name : String) (uri : Option String) :
    nameAttribute kind name uri = kind ++ "(" ++ literal name ++ uriText (shownUri uri) := by
  unfold nameAttribute
  split
  · rfl
  · rfl
  · next uri filled =>
      have kept : shownUri (some uri) = some uri := by
        simpa [shownUri, Option.filter] using filled
      simp only [kept, uriText_some, String.append_assoc]

theorem toList_uriText_some (uri : String) :
    (uriText (some uri)).toList =
      ", Namespace = ".toList ++ ((literal uri).toList ++ ")".toList) := by
  rw [uriText_some, String.toList_append, String.toList_append, List.append_assoc]

theorem uriText_append_inj {uri other : Option String} {rest more : List Char}
    (same : (uriText uri).toList ++ rest = (uriText other).toList ++ more) :
    uri = other ∧ rest = more := by
  have apart (uri : String) (rest more : List Char) :
      (uriText (some uri)).toList ++ rest ≠ (uriText none).toList ++ more := by
    rw [toList_uriText_some, List.append_assoc]
    exact append_ne_append (by decide) _ _
  cases uri with
  | none =>
      cases other with
      | none => exact ⟨rfl, List.append_cancel_left same⟩
      | some other => exact absurd same.symm (apart other _ _)
  | some uri =>
      cases other with
      | none => exact absurd same (apart uri _ _)
      | some other =>
          simp only [toList_uriText_some, List.append_assoc, List.append_cancel_left_eq] at same
          obtain ⟨rfl, tails⟩ := literal_append_inj same
          exact ⟨rfl, List.append_cancel_left tails⟩

theorem nameAttribute_append_inj {kind name otherName : String} {uri otherUri : Option String}
    {rest more : List Char}
    (same : (nameAttribute kind name uri).toList ++ rest =
      (nameAttribute kind otherName otherUri).toList ++ more) :
    name = otherName ∧ shownUri uri = shownUri otherUri ∧ rest = more := by
  simp only [nameAttribute_eq, String.toList_append, List.append_assoc,
    List.append_cancel_left_eq] at same
  obtain ⟨names, tails⟩ := literal_append_inj same
  obtain ⟨uris, ends⟩ := uriText_append_inj tails
  exact ⟨names, uris, ends⟩

theorem toList_bindingText_element (name : String) (uri : Option String) :
    (bindingText (.element name uri)).toList =
      "XmlElement".toList ++ ("(".toList ++ ((literal name).toList ++
        (uriText (shownUri uri)).toList)) := by
  have text : bindingText (.element name uri) = nameAttribute "XmlElement" name uri := rfl
  simp only [text, nameAttribute_eq, String.toList_append, List.append_assoc]

theorem toList_bindingText_attributeUse (name : String) :
    (bindingText (.attributeUse name)).toList =
      "XmlAttribute(".toList ++ ((literal name).toList ++ ")".toList) := by
  have text : bindingText (.attributeUse name) = "XmlAttribute(" ++ literal name ++ ")" := rfl
  rw [text, String.toList_append, String.toList_append, List.append_assoc]

/-- The character by which the attribute for a binding differs from those for other kinds. -/
def mark : Binding → Char
  | .element _ _ => 'E'
  | .attributeUse _ => 'A'
  | .text => 'T'
  | .ignored => 'I'

theorem getElem?_bindingText (binding : Binding) (rest : List Char) :
    ((bindingText binding).toList ++ rest)[3]? = some (mark binding) := by
  cases binding with
  | element name uri =>
      rw [toList_bindingText_element]
      rfl
  | attributeUse name =>
      rw [toList_bindingText_attributeUse]
      rfl
  | text => rfl
  | ignored => rfl

theorem readsBack_bindingText :
    ReadsBack (fun _ => True) (fun binding => (bindingText binding).toList) shownBinding := by
  intro binding other _ _ rest more same
  have marks : some (mark binding) = some (mark other) := by
    rw [← getElem?_bindingText binding rest, ← getElem?_bindingText other more]
    exact congrArg (·[3]?) same
  cases binding <;> cases other <;> try cases marks
  case element.element name uri otherName otherUri =>
    obtain ⟨rfl, uris, ends⟩ := nameAttribute_append_inj same
    exact ⟨by rw [shownBinding, shownBinding, uris], ends⟩
  case attributeUse.attributeUse name otherName =>
    simp only [toList_bindingText_attributeUse, List.append_assoc,
      List.append_cancel_left_eq] at same
    obtain ⟨rfl, tails⟩ := literal_append_inj same
    exact ⟨rfl, List.append_cancel_left tails⟩
  case text.text => exact ⟨rfl, List.append_cancel_left same⟩
  case ignored.ignored => exact ⟨rfl, List.append_cancel_left same⟩

/-- A character that ends neither a word nor a line. -/
def isSolid (c : Char) : Bool :=
  c != ' ' && c != '\n'

theorem isSolid_of_isPart {c : Char} (part : Identifier.isPart c = true) : isSolid c = true := by
  unfold isSolid
  rw [Bool.and_eq_true, bne_iff_ne, bne_iff_ne]
  constructor
  · rintro rfl
    cases part
  · rintro rfl
    cases part

theorem all_isSolid_of_all_isPart {word : List Char}
    (parts : word.all Identifier.isPart = true) : word.all isSolid = true := by
  rw [List.all_eq_true] at parts ⊢
  exact fun c member => isSolid_of_isPart (parts c member)

theorem all_isSolid_typeText {type : TypeRef} (wellNamed : type.target.WellNamed) :
    (typeText type).toList.all isSolid = true := by
  have target : (targetText type.target).toList.all isSolid = true := by
    cases found : type.target with
    | primitive kind => cases kind <;> rfl
    | enumeration name =>
        rw [found] at wellNamed
        exact all_isSolid_of_all_isPart (IsName.all_isPart wellNamed)
    | structural name =>
        rw [found] at wellNamed
        exact all_isSolid_of_all_isPart (IsName.all_isPart wellNamed)
  unfold typeText
  split
  · rw [String.toList_append, String.toList_append, List.all_append, List.all_append, target]
    rfl
  · exact target

theorem all_isSolid_escapeName {name : String} (isName : IsName name) :
    (escapeName name).toList.all isSolid = true := by
  have plain := all_isSolid_of_all_isPart isName.all_isPart
  unfold escapeName
  split
  · rw [String.toList_append, List.all_append, plain]
    rfl
  · exact plain

/-- No identifier begins with the sign that stands in front of a reserved word. -/
theorem escapeName_inj {name other : String} (isName : IsName name) (otherIsName : IsName other)
    (same : escapeName name = escapeName other) : name = other := by
  have unescaped : ∀ {word reserved : String}, IsName word → word ≠ "@" ++ reserved := by
    rintro word reserved isWord rfl
    unfold IsName at isWord
    rw [String.toList_append] at isWord
    cases isWord
  unfold escapeName at same
  split at same
  · split at same
    · have chars := String.toList_inj.2 same
      rw [String.toList_append, String.toList_append] at chars
      exact String.toList_inj.1 (List.append_cancel_left chars)
    · exact absurd same.symm (unescaped otherIsName)
  · split at same
    · exact absurd same (unescaped isName)
    · exact same

def initialSuffix : Option String → String
  | some value => " = " ++ value ++ ";"
  | none => ""

theorem toList_initialSuffix_some (value : String) :
    (initialSuffix (some value)).toList = " = ".toList ++ (value ++ ";").toList := by
  have suffix : initialSuffix (some value) = " = " ++ value ++ ";" := rfl
  rw [suffix, String.append_assoc, String.toList_append]

theorem initialSuffix_append_inj {initial other : Option String}
    (unbroken : ∀ value, initial = some value → IsUnbroken (value ++ ";"))
    (otherUnbroken : ∀ value, other = some value → IsUnbroken (value ++ ";"))
    {rest more : List Char}
    (same : (initialSuffix initial).toList ++ '\n' :: rest =
      (initialSuffix other).toList ++ '\n' :: more) : initial = other ∧ rest = more := by
  have apart (value : String) (rest more : List Char) :
      (initialSuffix (some value)).toList ++ rest ≠ ['\n'] ++ more := by
    rw [toList_initialSuffix_some, List.append_assoc]
    exact append_ne_append (by decide) _ _
  cases initial with
  | none =>
      cases other with
      | none => exact ⟨rfl, (List.cons.inj same).2⟩
      | some other => exact absurd same.symm (apart other _ _)
  | some value =>
      cases other with
      | none => exact absurd same (apart value _ _)
      | some other =>
          simp only [toList_initialSuffix_some, List.append_assoc,
            List.append_cancel_left_eq] at same
          obtain ⟨values, ends⟩ :=
            line_append_inj (unbroken value rfl) (otherUnbroken other rfl) same
          have chars := String.toList_inj.2 values
          rw [String.toList_append, String.toList_append] at chars
          exact ⟨by rw [String.toList_inj.1 (List.append_cancel_right chars)], ends⟩

theorem isUnbroken_of_all_isSolid {text : String} (solid : text.toList.all isSolid = true) :
    IsUnbroken text := by
  unfold IsUnbroken
  rw [List.all_eq_true] at solid ⊢
  intro c member
  exact (Bool.and_eq_true_iff.1 (solid c member)).2

theorem IsUnbroken.append {text other : String} (unbroken : IsUnbroken text)
    (otherUnbroken : IsUnbroken other) : IsUnbroken (text ++ other) := by
  unfold IsUnbroken at *
  rw [String.toList_append, List.all_append, unbroken, otherUnbroken]
  rfl

theorem isUnbroken_initialText {field : Field} (wellNamed : field.WellNamed) {value : String}
    (given : initialText field = some value) : IsUnbroken (value ++ ";") := by
  unfold initialText at given
  split at given
  · obtain rfl := Option.some.inj given
    have type := isUnbroken_of_all_isSolid (all_isSolid_typeText wellNamed.target)
    have opening : IsUnbroken "new " := rfl
    have call : IsUnbroken "()" := rfl
    exact ((opening.append type).append call).append rfl
  · split at given
    · obtain rfl := Option.some.inj given
      split <;> rfl
    · cases given
    · cases given

theorem charsOf_fieldLines (field : Field) :
    charsOf (fieldLines field) =
      "        [".toList ++ ((bindingText field.binding).toList ++ ("]\n        public ".toList ++
        ((typeText field.type).toList ++ ' ' :: ((escapeName field.name).toList ++
          ' ' :: ("\x7b get; set; \x7d".toList ++
            ((initialSuffix (initialText field)).toList ++ ['\n'])))))) := by
  simp only [fieldLines, charsOf_cons, charsOf_nil, String.toList_append, List.append_assoc]
  rfl

/-- A field is read back from its two lines. -/
theorem readsBack_fieldLines :
    ReadsBack Field.WellNamed (fun field => charsOf (fieldLines field)) shownField := by
  intro field other wellNamed otherWellNamed rest more same
  dsimp only at same
  rw [charsOf_fieldLines, charsOf_fieldLines] at same
  simp only [List.append_assoc, List.cons_append, List.append_cancel_left_eq] at same
  obtain ⟨bindings, same⟩ := readsBack_bindingText trivial trivial same
  rw [List.append_cancel_left_eq] at same
  obtain ⟨types, same⟩ := word_append_inj (all_isSolid_typeText wellNamed.target)
    (all_isSolid_typeText otherWellNamed.target) rfl rfl same
  obtain ⟨names, same⟩ := word_append_inj (all_isSolid_escapeName wellNamed.name)
    (all_isSolid_escapeName otherWellNamed.name) rfl rfl (List.cons.inj same).2
  have tails := List.append_cancel_left (List.cons.inj same).2
  obtain ⟨initials, ends⟩ := initialSuffix_append_inj
    (fun value given => isUnbroken_initialText wellNamed given)
    (fun value given => isUnbroken_initialText otherWellNamed given) tails
  have name := escapeName_inj wellNamed.name otherWellNamed.name (String.toList_inj.1 names)
  refine ⟨?_, ends⟩
  rw [shownField, shownField, bindings, String.toList_inj.1 types, initials, name]

theorem charsOf_memberLines (member : Member) :
    charsOf (memberLines member) =
      "        [XmlEnum(".toList ++ ((literal member.literal).toList ++ (")]\n        ".toList ++
        (member.name.toList ++ ',' :: ['\n']))) := by
  simp only [memberLines, charsOf_cons, charsOf_nil, String.toList_append, List.append_assoc]
  rfl

/-- A member is read back from its two lines. -/
theorem readsBack_memberLines :
    ReadsBack (fun member : Member => IsName member.name)
      (fun member => charsOf (memberLines member)) id := by
  intro member other isName otherIsName rest more same
  dsimp only at same
  rw [charsOf_memberLines, charsOf_memberLines] at same
  simp only [List.append_assoc, List.cons_append, List.append_cancel_left_eq] at same
  obtain ⟨literals, same⟩ := literal_append_inj same
  rw [List.append_cancel_left_eq] at same
  obtain ⟨names, same⟩ := word_append_inj isName.all_isPart otherIsName.all_isPart rfl rfl same
  refine ⟨?_, (List.cons.inj (List.cons.inj same).2).2⟩
  show Member.mk member.name member.literal = Member.mk other.name other.literal
  rw [literals, String.toList_inj.1 names]

/-- No member begins as the line does that closes an enumeration. -/
theorem charsOf_memberLines_ne (member : Member) (rest more : List Char) :
    charsOf (memberLines member) ++ rest ≠ closing ++ more := by
  intro same
  rw [charsOf_memberLines, List.append_assoc] at same
  exact append_ne_append (by decide) _ _ same

theorem charsOf_fieldLines_ne (field : Field) (rest more : List Char) :
    charsOf (fieldLines field) ++ rest ≠ closing ++ more := by
  intro same
  rw [charsOf_fieldLines, List.append_assoc] at same
  exact append_ne_append (by decide) _ _ same

def enumBody (model : EnumModel) : List Char :=
  "]".toList ++ '\n' :: ("    public enum ".toList ++ (model.name.toList ++ '\n' ::
    ("    \x7b".toList ++ '\n' ::
      (charsOf (separated (model.members.map memberLines)) ++ closing))))

theorem charsOf_enumLines (model : EnumModel) :
    charsOf (enumLines model) =
      charsOf (rootLines none) ++ ("    [".toList ++
        ((nameAttribute "XmlType" model.originalName model.uri).toList ++ enumBody model)) := by
  simp only [rootLines, enumLines, enumBody, closing, charsOf_append, charsOf_cons, charsOf_nil,
    String.toList_append, List.append_assoc, List.cons_append, List.nil_append]

theorem readsBack_enumBody :
    ReadsBack EnumModel.WellNamed enumBody (fun model => (model.name, model.members)) := by
  intro model other wellNamed otherWellNamed rest more same
  simp only [enumBody, List.append_assoc, List.cons_append, List.append_cancel_left_eq,
    List.cons.injEq, true_and] at same
  obtain ⟨names, same⟩ := word_append_inj wellNamed.name.all_isPart
    otherWellNamed.name.all_isPart rfl rfl same
  simp only [List.append_cancel_left_eq, List.cons.injEq, true_and] at same
  obtain ⟨each, ends⟩ := separated_append_inj readsBack_memberLines charsOf_memberLines_ne
    wellNamed.members otherWellNamed.members same
  rw [List.map_id, List.map_id] at each
  exact ⟨Prod.ext (String.toList_inj.1 names) each, ends⟩

def emptyChars (isEmpty : Bool) : List Char :=
  charsOf (if isEmpty then [emptyLine] else [])

def classBody (model : ClassModel) : List Char :=
  "]".toList ++ '\n' :: ("    public partial class ".toList ++ (model.name.toList ++
    ((baseText model.base).toList ++ '\n' :: ("    \x7b".toList ++ '\n' ::
      (emptyChars model.isEmpty ++
        (charsOf (separated (model.fields.map fieldLines)) ++ closing))))))

theorem charsOf_classLines (model : ClassModel) :
    charsOf (classLines model) =
      charsOf (rootLines model.root) ++ ("    [".toList ++
        ((nameAttribute "XmlType" model.originalName model.uri).toList ++ classBody model)) := by
  simp only [classLines, classBody, emptyChars, closing, charsOf_append, charsOf_cons,
    charsOf_nil, String.toList_append, List.append_assoc, List.cons_append, List.nil_append]

theorem baseText_some {base : String} (isName : IsName base) :
    baseText (some base) = " : " ++ base := by
  unfold baseText
  split
  · next absent => cases absent
  · next empty => exact absurd (Option.some.inj empty) isName.ne_empty
  · next filled => rw [Option.some.inj filled]

/-- The name of a class is read back with that of its base. -/
theorem header_append_inj {name other : String} {base otherBase : Option String}
    (isName : IsName name) (otherIsName : IsName other)
    (baseIsName : ∀ word, base = some word → IsName word)
    (otherBaseIsName : ∀ word, otherBase = some word → IsName word) {rest more : List Char}
    (same : name.toList ++ ((baseText base).toList ++ '\n' :: rest) =
      other.toList ++ ((baseText otherBase).toList ++ '\n' :: more)) :
    name = other ∧ base = otherBase ∧ rest = more := by
  cases base with
  | none =>
      cases otherBase with
      | none =>
          obtain ⟨names, ends⟩ :=
            word_append_inj isName.all_isPart otherIsName.all_isPart rfl rfl same
          exact ⟨String.toList_inj.1 names, rfl, (List.cons.inj ends).2⟩
      | some word =>
          rw [baseText_some (otherBaseIsName word rfl), String.toList_append,
            List.append_assoc] at same
          obtain ⟨_, ends⟩ := word_append_inj isName.all_isPart otherIsName.all_isPart
            (d := ' ') rfl rfl same
          cases ends
  | some word =>
      have parts := (baseIsName word rfl).all_isPart
      rw [baseText_some (baseIsName word rfl), String.toList_append, List.append_assoc] at same
      cases otherBase with
      | none =>
          obtain ⟨_, ends⟩ := word_append_inj isName.all_isPart otherIsName.all_isPart
            (c := ' ') rfl rfl same
          cases ends
      | some otherWord =>
          rw [baseText_some (otherBaseIsName otherWord rfl), String.toList_append,
            List.append_assoc] at same
          obtain ⟨names, ends⟩ := word_append_inj isName.all_isPart otherIsName.all_isPart
            (c := ' ') (d := ' ') rfl rfl same
          have bases := List.append_cancel_left
            (show [' ', ':', ' '] ++ _ = [' ', ':', ' '] ++ _ from ends)
          obtain ⟨words, ends⟩ := word_append_inj parts
            (otherBaseIsName otherWord rfl).all_isPart rfl rfl bases
          rw [String.toList_inj.1 words]
          exact ⟨String.toList_inj.1 names, rfl, (List.cons.inj ends).2⟩

/-- The fields of a class do not begin as the line does that tells that it has no content. -/
theorem emptyLine_ne_fields (fields : List Field) (rest more : List Char) :
    charsOf [emptyLine] ++ rest ≠
      charsOf (separated (fields.map fieldLines)) ++ (closing ++ more) := by
  intro same
  cases fields with
  | nil =>
      change charsOf [emptyLine] ++ rest = closing ++ more at same
      exact append_ne_append (by decide) _ _ same
  | cons field fields =>
      rw [separated_cons, charsOf_append, List.append_assoc, charsOf_fieldLines,
        List.append_assoc] at same
      exact append_ne_append (by decide) _ _ same

theorem emptyChars_append_inj {isEmpty other : Bool} {fields otherFields : List Field}
    {rest more : List Char}
    (same : emptyChars isEmpty ++
        (charsOf (separated (fields.map fieldLines)) ++ (closing ++ rest)) =
      emptyChars other ++
        (charsOf (separated (otherFields.map fieldLines)) ++ (closing ++ more))) :
    isEmpty = other ∧ charsOf (separated (fields.map fieldLines)) ++ (closing ++ rest) =
      charsOf (separated (otherFields.map fieldLines)) ++ (closing ++ more) := by
  cases isEmpty <;> cases other
  case false.false => exact ⟨rfl, same⟩
  case true.true => exact ⟨rfl, List.append_cancel_left same⟩
  case false.true => exact absurd same.symm (emptyLine_ne_fields fields _ _)
  case true.false => exact absurd same (emptyLine_ne_fields otherFields _ _)

theorem readsBack_classBody :
    ReadsBack ClassModel.WellNamed classBody (fun model =>
      (model.name, model.base, model.isEmpty, model.fields.map shownField)) := by
  intro model other wellNamed otherWellNamed rest more same
  simp only [classBody, List.append_assoc, List.cons_append, List.append_cancel_left_eq,
    List.cons.injEq, true_and] at same
  obtain ⟨names, bases, same⟩ := header_append_inj wellNamed.name otherWellNamed.name
    wellNamed.base otherWellNamed.base same
  simp only [List.append_cancel_left_eq, List.cons.injEq, true_and] at same
  obtain ⟨empties, fields⟩ := emptyChars_append_inj same
  obtain ⟨each, ends⟩ := separated_append_inj readsBack_fieldLines charsOf_fieldLines_ne
    wellNamed.fields otherWellNamed.fields fields
  refine ⟨?_, ends⟩
  dsimp only
  rw [names, bases, empties, each]

/-- The attributes are read back: that for a root, if there is one, and that for the type. -/
theorem attributes_append_inj {root other : Option RootElement} {name otherName : String}
    {uri otherUri : Option String} {rest more : List Char}
    (same : charsOf (rootLines root) ++
        ("    [".toList ++ ((nameAttribute "XmlType" name uri).toList ++ rest)) =
      charsOf (rootLines other) ++
        ("    [".toList ++ ((nameAttribute "XmlType" otherName otherUri).toList ++ more))) :
    root.map shownRoot = other.map shownRoot ∧ name = otherName ∧
      shownUri uri = shownUri otherUri ∧ rest = more := by
  have line (root : RootElement) : charsOf (rootLines (some root)) =
      "    [".toList ++ ((nameAttribute "XmlRoot" root.name root.uri).toList ++
        ("]".toList ++ ['\n'])) := by
    simp only [rootLines, charsOf_cons, charsOf_nil, String.toList_append, List.append_assoc]
  have apart (root : RootElement) (name : String) (uri : Option String) (rest more : List Char) :
      charsOf (rootLines (some root)) ++ rest ≠
        "    [".toList ++ ((nameAttribute "XmlType" name uri).toList ++ more) := by
    intro same
    simp only [line, nameAttribute_eq, String.toList_append, List.append_assoc,
      List.append_cancel_left_eq] at same
    exact append_ne_append (by decide) _ _ same
  cases root with
  | none =>
      cases other with
      | none => exact ⟨rfl, nameAttribute_append_inj (List.append_cancel_left same)⟩
      | some other => exact absurd same.symm (apart other _ _ _ _)
  | some root =>
      cases other with
      | none => exact absurd same (apart root _ _ _ _)
      | some other =>
          simp only [line, List.append_assoc, List.append_cancel_left_eq] at same
          obtain ⟨names, uris, same⟩ := nameAttribute_append_inj same
          simp only [List.append_cancel_left_eq] at same
          refine ⟨?_, nameAttribute_append_inj same⟩
          rw [Option.map_some, Option.map_some, shownRoot, shownRoot, names, uris]

/-- What follows the attributes of an enumeration is not what follows those of a class. -/
theorem enumBody_ne_classBody (model : EnumModel) (other : ClassModel) (rest more : List Char) :
    enumBody model ++ rest ≠ classBody other ++ more := by
  intro same
  simp only [enumBody, classBody, List.append_assoc, List.cons_append, List.append_cancel_left_eq,
    List.cons.injEq, true_and] at same
  exact append_ne_append (by decide) _ _ same

/-- Everything that is shown of an artifact is read back from its lines. -/
theorem readsBack_artifactLines :
    ReadsBack Artifact.WellNamed (fun artifact => charsOf (artifactLines artifact)) shown := by
  intro artifact other wellNamed otherWellNamed rest more same
  cases artifact <;> cases other <;>
    simp only [artifactLines, charsOf_enumLines, charsOf_classLines, List.append_assoc] at same <;>
    obtain ⟨roots, originals, uris, bodies⟩ := attributes_append_inj same
  case enumeration.enumeration model other =>
    obtain ⟨parts, ends⟩ := readsBack_enumBody wellNamed otherWellNamed bodies
    obtain ⟨names, members⟩ := Prod.mk.inj parts
    exact ⟨by rw [shown, shown, names, originals, uris, members], ends⟩
  case enumeration.structural model other =>
    exact absurd bodies (enumBody_ne_classBody model other _ _)
  case structural.enumeration model other =>
    exact absurd bodies.symm (enumBody_ne_classBody other model _ _)
  case structural.structural model other =>
    obtain ⟨parts, ends⟩ := readsBack_classBody wellNamed otherWellNamed bodies
    simp only [Prod.mk.injEq] at parts
    obtain ⟨names, bases, empties, fields⟩ := parts
    exact ⟨by rw [shown, shown, names, bases, originals, uris, roots, empties, fields], ends⟩

def usingLines (usings : List String) (artifact : Artifact) : List String :=
  (sortedNames (neededUsings artifact ++ usings)).map (fun name => "using " ++ name ++ ";")

theorem isUnbroken_of_mem_neededUsings {artifact : Artifact} {name : String}
    (needed : name ∈ neededUsings artifact) : IsUnbroken name := by
  have known : name ∈ ["System", "System.Xml.Serialization", "System.Collections.Generic"] := by
    cases artifact with
    | enumeration model => exact List.mem_append_left ["System.Collections.Generic"] needed
    | structural model =>
        rcases List.mem_append.1 needed with always | sequences
        · exact List.mem_append_left ["System.Collections.Generic"] always
        · split at sequences
          · exact List.mem_append_right ["System", "System.Xml.Serialization"] sequences
          · cases sequences
  have all : ∀ name ∈ ["System", "System.Xml.Serialization", "System.Collections.Generic"],
      IsUnbroken name := by
    intro name member
    simp only [List.mem_cons, List.not_mem_nil, or_false] at member
    rcases member with rfl | rfl | rfl <;> rfl
  exact all name known

/-- The lines for namespaces are neither empty nor broken, if the configured names are not. -/
theorem solid_usingLines {usings : List String} (unbroken : ∀ name ∈ usings, IsUnbroken name)
    (artifact : Artifact) : ∀ line ∈ usingLines usings artifact, IsUnbroken line ∧ line ≠ "" := by
  intro line member
  obtain ⟨name, sorted, rfl⟩ := List.mem_map.1 member
  have listed : name ∈ neededUsings artifact ++ usings := by
    unfold sortedNames at sorted
    rw [List.mem_mergeSort] at sorted
    exact List.mem_eraseDups.1 sorted
  have plain : IsUnbroken name := by
    rcases List.mem_append.1 listed with needed | configured
    · exact isUnbroken_of_mem_neededUsings needed
    · exact unbroken name configured
  have opening : IsUnbroken "using " := rfl
  refine ⟨(opening.append plain).append rfl, ?_⟩
  intro empty
  have chars := String.toList_inj.2 empty
  rw [String.toList_append, String.toList_append] at chars
  cases chars

/-- The lines that a namespace adds to those of an artifact are the same for all artifacts. -/
theorem inNamespace_append_inj {name : Json.Value} {lines others : List String}
    {rest more : List Char}
    (same : charsOf (inNamespace name lines) ++ rest = charsOf (inNamespace name others) ++ more) :
    ∃ suffix, charsOf lines ++ (suffix ++ rest) = charsOf others ++ (suffix ++ more) := by
  unfold inNamespace at same
  split at same
  · simp only [charsOf_append, List.append_assoc, List.append_cancel_left_eq] at same
    exact ⟨_, same⟩
  · exact ⟨[], same⟩

end CSharp

open CSharp

/--
Artifacts with the same source text are shown alike: nothing that is needed to
read and write documents is lost in it.
-/
theorem shown_eq_of_source_eq {configuration : Configuration} {commandLine : String}
    {usings : List String} (configured : configuration.usings = .ok usings)
    (unbroken : ∀ name ∈ usings, '\n' ∉ name.toList) {artifact other : Artifact}
    (wellNamed : artifact.WellNamed) (otherWellNamed : other.WellNamed)
    (same : source configuration commandLine artifact = source configuration commandLine other) :
    shown artifact = shown other := by
  have solid : ∀ name ∈ usings, IsUnbroken name := by
    intro name member
    unfold IsUnbroken
    rw [List.all_eq_true]
    intro c inside
    rw [bne_iff_ne]
    rintro rfl
    exact unbroken name member inside
  unfold source at same
  rw [configured] at same
  have texts := String.toList_inj.2 (Except.ok.inj same)
  simp only [toList_textOf, sourceLines, charsOf_append, List.append_assoc,
    List.append_cancel_left_eq] at texts
  obtain ⟨_, bodies⟩ := lines_append_inj (solid_usingLines solid artifact)
    (solid_usingLines solid other) texts
  rw [← List.append_nil (charsOf (inNamespace _ _)),
    ← List.append_nil (charsOf (inNamespace _ (artifactLines other)))] at bodies
  obtain ⟨suffix, artifacts⟩ := inNamespace_append_inj bodies
  exact (readsBack_artifactLines wellNamed otherWellNamed artifacts).1

/-- A class with texts that hold quotation marks, brackets and a line break. -/
def jarClass (uri : Option String) : ClassModel where
  name := "Jar"
  originalName := "jar\")]\n    public enum Jar"
  uri := uri
  base := some "Vessel"
  fields := [{
    name := "class"
    originalName := "lid"
    type := ⟨.structural "Lid", true⟩
    binding := .element "lid\\" uri
    isRequired := true
    role := .plain }]
  root := some ⟨"jar", uri⟩
  isSynthesized := false
  isEmpty := false

theorem wellNamed_jarClass (uri : Option String) :
    (Artifact.structural (jarClass uri)).WellNamed := by
  have names : IsName "Jar" ∧ IsName "Vessel" ∧ IsName "class" ∧ IsName "Lid" := by
    decide
  obtain ⟨jar, vessel, reserved, lid⟩ := names
  refine ⟨jar, ?_, ?_⟩
  · intro base given
    obtain rfl := Option.some.inj given
    exact vessel
  · intro field member
    obtain rfl := List.mem_singleton.1 member
    exact ⟨reserved, lid⟩

theorem shown_eq_of_source_eq_jarClass :
    Configuration.usings { additionalUsings := some (.list [.text "Kitchen"]) } = .ok ["Kitchen"] ∧
      (∀ name ∈ ["Kitchen"], '\n' ∉ name.toList) ∧
      source { additionalUsings := some (.list [.text "Kitchen"]) } "" (.structural (jarClass none)) =
        source { additionalUsings := some (.list [.text "Kitchen"]) } ""
          (.structural (jarClass (some ""))) ∧
      shown (.structural (jarClass none)) = shown (.structural (jarClass (some ""))) := by
  have configured : Configuration.usings
      { additionalUsings := some (.list [.text "Kitchen"]) } = .ok ["Kitchen"] := rfl
  have unbroken : ∀ name ∈ ["Kitchen"], '\n' ∉ name.toList := by decide
  have same : source { additionalUsings := some (.list [.text "Kitchen"]) } ""
      (.structural (jarClass none)) =
        source { additionalUsings := some (.list [.text "Kitchen"]) } ""
          (.structural (jarClass (some ""))) := rfl
  exact ⟨configured, unbroken, same, shown_eq_of_source_eq configured unbroken
    (wellNamed_jarClass none) (wellNamed_jarClass (some "")) same⟩

end SchemaBinding
