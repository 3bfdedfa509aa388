import SchemaBinding.Proofs.Paths

/-!
# Names of files

A name that can stand in a directory spells a path of that name alone, and the
written form of an absolute path with such names spells the path again.
-/

namespace SchemaBinding

namespace Text

variable {α : Type} [DecidableEq α] {separator : α}

theorem splitAll_of_not_mem {text : List α} (absent : separator ∉ text) :
    splitAll separator text = [text] := by
  induction text with
  | nil => rfl
  | cons c rest ih =>
      obtain ⟨different, others⟩ := not_or.1 (mt List.mem_cons.2 absent)
      unfold splitAll
      rw [if_neg (Ne.symm different), ih others]

/-- No part holds the separator. -/
theorem not_mem_of_mem_splitAll {text part : List α} (member : part ∈ splitAll separator text) :
    separator ∉ part := by
  induction text generalizing part with
  | nil =>
      obtain rfl := List.mem_singleton.1 member
      exact List.not_mem_nil
  | cons c rest ih =>
      unfold splitAll at member
      split at member
      · rcases List.mem_cons.1 member with rfl | later
        · exact List.not_mem_nil
        · exact ih later
      · next different =>
          split at member
          · next none => exact absurd none (splitAll_ne_nil separator rest)
          · next first others parts =>
              rw [parts] at ih
              rcases List.mem_cons.1 member with rfl | later
              · exact List.not_mem_cons_of_ne_of_not_mem (Ne.symm different)
                  (ih List.mem_cons_self)
              · exact ih (List.mem_cons_of_mem _ later)

theorem splitAll_append_cons {text rest : List α} (absent : separator ∉ text) :
    splitAll separator (text ++ separator :: rest) = text :: splitAll separator rest := by
  induction text with
  | nil =>
      rw [List.nil_append, splitAll, if_pos rfl]
  | cons c others ih =>
      obtain ⟨different, later⟩ := not_or.1 (mt List.mem_cons.2 absent)
      rw [List.cons_append, splitAll, if_neg (Ne.symm different), ih later]

/-- Parts without the separator are found again when they are joined. -/
theorem splitAll_intercalate {first : List α} {parts : List (List α)}
    (absent : ∀ part ∈ first :: parts, separator ∉ part) :
    splitAll separator ([separator].intercalate (first :: parts)) = first :: parts := by
  induction parts generalizing first with
  | nil =>
      simpa [List.intercalate, List.intersperse] using
        splitAll_of_not_mem (absent first List.mem_cons_self)
  | cons second rest ih =>
      have here := absent first List.mem_cons_self
      have later := ih (fun part member => absent part (List.mem_cons_of_mem _ member))
      have joined : [separator].intercalate (first :: second :: rest) =
          first ++ separator :: [separator].intercalate (second :: rest) := by
        simp [List.intercalate, List.intersperse]
      rw [joined, splitAll_append_cons here, later]

theorem splitAll_intercalate_toList {separator : Char} {first : String} {rest : List String}
    (absent : ∀ name ∈ first :: rest, separator ∉ name.toList) :
    splitAll separator ([separator].intercalate ((first :: rest).map String.toList)) =
      (first :: rest).map String.toList := by
  refine splitAll_intercalate fun part member => ?_
  rw [← List.map_cons] at member
  obtain ⟨name, inside, rfl⟩ := List.mem_map.1 member
  exact absent name inside

omit [DecidableEq α] in
theorem mem_of_mem_head?_intercalate {first : List α} {parts : List (List α)} {item : α}
    (nonempty : first ≠ []) (head : item ∈ ([separator].intercalate (first :: parts)).head?) :
    item ∈ first := by
  cases first with
  | nil => exact absurd rfl nonempty
  | cons c rest =>
      have same : c = item := by
        cases parts <;> simpa [List.intercalate, List.intersperse] using head
      exact same ▸ List.mem_cons_self

end Text

namespace FilePath

structure IsFileName (name : String) : Prop where
  nonempty : name ≠ ""
  not_here : name ≠ "."
  not_above : name ≠ ".."
  unbroken : '/' ∉ name.toList

instance (name : String) : Decidable (IsFileName name) :=
  decidable_of_iff (name ≠ "" ∧ name ≠ "." ∧ name ≠ ".." ∧ '/' ∉ name.toList)
    ⟨fun ⟨nonempty, not_here, not_above, unbroken⟩ => ⟨nonempty, not_here, not_above, unbroken⟩,
      fun plain => ⟨plain.nonempty, plain.not_here, plain.not_above, plain.unbroken⟩⟩

theorem IsFileName.kept {name : String} (plain : IsFileName name) :
    name.toList ≠ [] ∧ name.toList ≠ ['.'] :=
  ⟨fun none => plain.nonempty (String.toList_inj.1 none),
    fun dot => plain.not_here (String.toList_inj.1 dot)⟩

theorem anchorOf_cons {text : List Char} (unbroken : '/' ∉ text.head?) :
    anchorOf text = "" ∧ anchorOf ('/' :: text) = "/" := by
  cases text with
  | nil => exact ⟨rfl, rfl⟩
  | cons c rest =>
      have different : c ≠ '/' := fun same => unbroken (by simp [same])
      constructor
      · unfold anchorOf
        split <;> simp_all
      · unfold anchorOf
        split <;> simp_all

/-- The name of a file is a relative path. -/
theorem ofString_of_isFileName {name : String} (plain : IsFileName name) :
    ofString name = ⟨"", [name]⟩ := by
  have relative : anchorOf name.toList = "" :=
    (anchorOf_cons (fun head => plain.unbroken (List.mem_of_mem_head? head))).1
  rw [ofString, partsOf, Text.splitAll_of_not_mem plain.unbroken, relative]
  simp [plain.kept]

theorem partsOf_names {names : List String} (plain : ∀ name ∈ names, IsFileName name) :
    ((names.map String.toList).filter (fun part => part ≠ [] ∧ part ≠ ['.'])).map String.ofList =
      names := by
  rw [List.filter_eq_self.2, List.map_map]
  · exact List.map_id'' (fun name => String.ofList_toList) names
  · intro part member
    obtain ⟨name, inside, rfl⟩ := List.mem_map.1 member
    simpa using (plain name inside).kept

/-- A part of a path that does not lead up is the name of a file. -/
theorem isFileName_of_mem_parts {text name : String} (member : name ∈ (ofString text).parts)
    (down : name ≠ "..") : IsFileName name := by
  obtain ⟨part, kept, rfl⟩ := List.mem_map.1 member
  obtain ⟨inside, filled⟩ := List.mem_filter.1 kept
  obtain ⟨nonempty, notHere⟩ : part ≠ [] ∧ part ≠ ['.'] := by simpa using filled
  refine ⟨fun none => nonempty ?_, fun dot => notHere ?_, down, ?_⟩
  · exact String.ofList_injective none
  · exact String.ofList_injective dot
  · rw [String.toList_ofList]
    exact Text.not_mem_of_mem_splitAll inside

/-- An absolute path is read back from its written form. -/
theorem ofString_toString_ofLocation {location : List String}
    (plain : ∀ name ∈ location, IsFileName name) :
    ofString (ofLocation location).toString = ofLocation location := by
  have written : (ofLocation location).toString.toList =
      '/' :: ['/'].intercalate (location.map String.toList) := by
    simp [toString, ofLocation, String.toList_intercalate]
  rw [ofString, written, partsOf]
  cases location with
  | nil => rfl
  | cons first rest =>
      have divided := Text.splitAll_intercalate_toList fun name member => (plain name member).unbroken
      have absolute : anchorOf ('/' :: ['/'].intercalate ((first :: rest).map String.toList)) =
          "/" := by
        refine (anchorOf_cons (fun head => (plain first List.mem_cons_self).unbroken ?_)).2
        rw [List.map_cons] at head
        exact Text.mem_of_mem_head?_intercalate (plain first List.mem_cons_self).kept.1 head
      rw [absolute, Text.splitAll, if_pos rfl, divided, List.filter_cons_of_neg (by simp),
        partsOf_names plain]
      rfl

end FilePath

end SchemaBinding
