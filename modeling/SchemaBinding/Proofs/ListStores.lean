import SchemaBinding.Proofs.AlikeCatalogs
import SchemaBinding.Proofs.Order

/-!
# Stores of lists

A registry may keep the definitions of each name in a list that is changed in place.
Lists are then objects in a store, and the registry knows their addresses.  What it
shows depends on its own lists only: whatever becomes of the other ones, it shows the
same, and a definition that is added in place is added to what it shows.
-/

namespace SchemaBinding

/-- All lists that there are.  The address of a list is its position. -/
abbrev ListStore (ι : Type) : Type :=
  List (List ι)

namespace ListStore

variable {ι α : Type}

/-- One more item stands at the end of the list of a name; a new name gets a new list. -/
def addTo (name : String) (item : ι) (table : List (String × Nat)) (store : ListStore ι) :
    List (String × Nat) × ListStore ι :=
  match Emission.find? table name with
  | some address => (table, store.modify address (· ++ [item]))
  | none => (table ++ [(name, store.length)], store ++ [[item]])

variable (hold : α → ι)

def HasList (store : ListStore ι) (address : Nat) (definitions : Definitions α) : Prop :=
  store[address]? = some (definitions.toList.map hold)

def Shows (store : ListStore ι) (table : List (String × Nat))
    (entries : List (String × Definitions α)) : Prop :=
  List.Forall₂ (Keyed (store.HasList hold)) table entries

variable {hold} {store other : ListStore ι} {table : List (String × Nat)}
variable {entries : List (String × Definitions α)}

theorem mem_addresses_of_find? {name : String} {address : Nat}
    (found : Emission.find? table name = some address) : address ∈ table.map Prod.snd := by
  obtain ⟨pair, first, rfl⟩ := Option.map_eq_some_iff.1 found
  exact List.mem_map.2 ⟨pair, List.mem_of_find?_eq_some first, rfl⟩

namespace Shows

theorem keys_eq (shows : store.Shows hold table entries) :
    table.map Prod.fst = entries.map Prod.fst :=
  map_eq_map_of_forall₂ (fun _ _ keyed => keyed.key_eq) shows

theorem lt_length (shows : store.Shows hold table entries) :
    ∀ address ∈ table.map Prod.snd, address < store.length := by
  induction shows with
  | nil => simp
  | cons head _ ih =>
      rw [List.map_cons, List.forall_mem_cons]
      exact ⟨(List.getElem?_eq_some_iff.1 head.value).1, ih⟩

/-- Only the lists of the table matter. -/
theorem congr (shows : store.Shows hold table entries)
    (same : ∀ address ∈ table.map Prod.snd, other[address]? = store[address]?) :
    other.Shows hold table entries := by
  induction shows with
  | nil => exact .nil
  | cons head _ ih =>
      rw [List.map_cons, List.forall_mem_cons] at same
      exact .cons ⟨head.key_eq, same.1.trans head.value⟩ (ih same.2)

/-- A new list leaves the lists of the table as they are. -/
theorem concat (shows : store.Shows hold table entries) (items : List ι) :
    ListStore.Shows hold (store ++ [items]) table entries :=
  shows.congr fun address member => List.getElem?_append_left (shows.lt_length address member)

/-- Whatever becomes of a list that is not in the table, the lists of the table stay. -/
theorem set (shows : store.Shows hold table entries) {address : Nat}
    (apart : address ∉ table.map Prod.snd) (items : List ι) :
    ListStore.Shows hold (List.set store address items) table entries := by
  refine shows.congr fun owned member => List.getElem?_set_ne ?_
  rintro rfl
  exact apart member

/-- What is found for a name. -/
theorem find?_eq (shows : store.Shows hold table entries) (name : String) :
    (Emission.find? table name).bind (store[·]?) =
      (Emission.find? entries name).map (fun definitions => definitions.toList.map hold) := by
  have found : Option.Rel (store.HasList hold) (Emission.find? table name)
      (Emission.find? entries name) := optionRel_find?_key shows name
  generalize Emission.find? table name = address, Emission.find? entries name = definitions
    at found
  cases found with
  | none => rfl
  | some holds => exact holds

/-- Adding to a list in place adds to the definitions that it holds, and to no others. -/
theorem modify {name : String} {address : Nat} (shows : store.Shows hold table entries)
    (distinct : (table.map Prod.snd).Nodup) (found : Emission.find? table name = some address)
    (definition : α) :
    ListStore.Shows hold (List.modify store address (· ++ [hold definition])) table
      (Registry.appendTo name definition entries) := by
  -- Addresses are distinct, so behind the first entry of the name nothing changes.
  induction shows with
  | nil => cases found
  | @cons key entry rest others head after ih =>
      obtain ⟨first, unique⟩ := List.nodup_cons.1 distinct
      rw [Registry.appendTo, ← head.key_eq]
      by_cases same : key.1 = name
      · obtain rfl : key.2 = address := by simpa [Emission.find?, same] using found
        rw [if_pos same]
        refine .cons ⟨rfl, ?_⟩ (ListStore.Shows.congr after fun owned member => ?_)
        · have held := head.value
          rw [HasList] at held ⊢
          rw [List.getElem?_modify_eq, held]
          simp [Definitions.toList]
        · refine List.getElem?_modify_ne _ _ ?_
          rintro rfl
          exact first member
      · have later : Emission.find? rest name = some address := by
          simpa [Emission.find?, same] using found
        have apart : address ≠ key.2 := by
          rintro rfl
          exact first (mem_addresses_of_find? later)
        rw [if_neg same]
        refine .cons ⟨head.key_eq, ?_⟩ (ih unique later)
        exact (List.getElem?_modify_ne _ _ apart).trans head.value

/-- A table with one more item in the list of a name shows one more definition of the name. -/
theorem addTo (shows : store.Shows hold table entries) (distinct : (table.map Prod.snd).Nodup)
    (name : String) (definition : α) :
    ListStore.Shows hold (ListStore.addTo name (hold definition) table store).2
      (ListStore.addTo name (hold definition) table store).1
      (Registry.appendTo name definition entries) := by
  unfold ListStore.addTo
  cases found : Emission.find? table name with
  | some address => exact shows.modify distinct found definition
  | none =>
      have absent : name ∉ entries.map Prod.fst := by
        rw [← shows.keys_eq, ← Emission.find?_isSome_iff, found]
        simp
      rw [Registry.appendTo_of_not_mem absent]
      refine List.rel_append (shows.concat _) (.cons ⟨rfl, ?_⟩ .nil)
      rw [HasList, List.getElem?_concat_length]
      rfl

end Shows

section AddTo

variable (name : String) (item : ι)

/-- The list of a name is the one it was, or a new one. -/
theorem addresses_addTo :
    (ListStore.addTo name item table store).1.map Prod.snd = table.map Prod.snd ∨
      (ListStore.addTo name item table store).1.map Prod.snd =
        table.map Prod.snd ++ [store.length] := by
  unfold ListStore.addTo
  split
  · exact .inl rfl
  · exact .inr List.map_append

theorem length_le_addTo :
    store.length ≤ (ListStore.addTo name item table store).2.length := by
  unfold ListStore.addTo
  split
  · exact Nat.le_of_eq (List.length_modify _ _ _).symm
  · rw [List.length_append]
    exact Nat.le_add_right _ _

/-- A list that is not in the table stays as it is. -/
theorem getElem?_addTo {address : Nat} (known : address < store.length)
    (apart : address ∉ table.map Prod.snd) :
    (ListStore.addTo name item table store).2[address]? = store[address]? := by
  unfold ListStore.addTo
  split
  · next found =>
      refine List.getElem?_modify_ne _ _ ?_
      rintro rfl
      exact apart (mem_addresses_of_find? found)
  · exact List.getElem?_append_left known

end AddTo

end ListStore

end SchemaBinding
