import SchemaBinding.FileTree

/-!
# Where paths lead

A path that can be followed is resolved to the place to which it leads, whatever
the way in which the path is spelled.
-/

namespace SchemaBinding

namespace FilePath

/-- Going up from the top down never leaves a double dot behind. -/
theorem double_dot_not_mem_foldl_enter {parts location : List String} (plain : ".." ∉ location) :
    ".." ∉ parts.foldl enter location := by
  induction parts generalizing location with
  | nil => exact plain
  | cons part rest ih =>
      refine ih (fun member => ?_)
      unfold enter at member
      split at member
      · exact plain ((List.dropLast_sublist location).subset member)
      · next different =>
          rcases List.mem_append.1 member with before | here
          · exact plain before
          · exact different (List.mem_singleton.1 here).symm

theorem mem_of_mem_foldl_enter {parts location : List String} {name : String}
    (member : name ∈ parts.foldl enter location) : name ∈ location ∨ name ∈ parts := by
  induction parts generalizing location with
  | nil => exact .inl member
  | cons part rest ih =>
      rcases ih member with inside | later
      · unfold enter at inside
        split at inside
        · exact .inl ((List.dropLast_sublist location).subset inside)
        · rcases List.mem_append.1 inside with before | here
          · exact .inl before
          · exact .inr (List.mem_cons.2 (.inl (List.mem_singleton.1 here)))
      · exact .inr (List.mem_cons_of_mem _ later)

theorem foldl_enter_plain {parts : List String} (location : List String) (plain : ".." ∉ parts) :
    parts.foldl enter location = location ++ parts := by
  induction parts generalizing location with
  | nil => simp
  | cons part rest ih =>
      have different : part ≠ ".." := fun same => plain (same ▸ List.mem_cons_self)
      rw [List.foldl_cons, ih _ (fun member => plain (List.mem_cons_of_mem _ member)), enter,
        if_neg different, List.append_assoc, List.singleton_append]

theorem isAbsolute_join {base path : FilePath} (absolute : base.isAbsolute = true) :
    (base.join path).isAbsolute = true := by
  unfold join
  split
  · next given => exact given
  · exact absolute

theorem isAbsolute_ofLocation (location : List String) :
    (ofLocation location).isAbsolute = true := rfl

end FilePath

namespace FileTree

variable {tree : FileTree} {path : FilePath} {location : Location}

theorem follow_eq_ok {parts : List String} {start : Location}
    (led : tree.follow start parts = .ok location) :
    location = parts.foldl FilePath.enter start := by
  induction parts generalizing start with
  | nil => exact (Except.ok.inj led).symm
  | cons part rest ih =>
      unfold follow at led
      split at led
      · split at led
        · cases led
        · exact ih led
      · cases led
      · cases led

theorem follow_of_locate (located : tree.locate path = .ok location) :
    tree.follow (if path.isAbsolute then [] else tree.workingDirectory) path.parts =
      .ok location := by
  unfold locate at located
  split at located
  · cases located
  · split at located
    · cases located
    · exact located

theorem locate_eq_ok (located : tree.locate path = .ok location) :
    path.hasNull = false ∧ location = path.resolveFrom tree.workingDirectory := by
  refine ⟨?_, follow_eq_ok (follow_of_locate located)⟩
  unfold locate at located
  split at located
  · cases located
  · next free => simpa using free

/-- A path that leads to a place is resolved to that place. -/
theorem resolve_of_locate (located : tree.locate path = .ok location) :
    tree.resolve path = .ok (.ofLocation location) := by
  obtain ⟨free, rfl⟩ := locate_eq_ok located
  simp [resolve, free]

theorem resolve_eq_ok {resolved : FilePath} (given : tree.resolve path = .ok resolved) :
    ∃ location, resolved = .ofLocation location := by
  unfold resolve at given
  split at given
  · cases given
  · exact ⟨_, (Except.ok.inj given).symm⟩

/-- The place of an absolute path is resolved to itself. -/
theorem resolve_place (located : tree.locate path = .ok location)
    (absolute : path.isAbsolute = true) :
    tree.resolve (.ofLocation location) = .ok (.ofLocation location) := by
  obtain ⟨free, given⟩ := locate_eq_ok located
  rw [FilePath.resolveFrom, absolute, if_pos rfl] at given
  have plain : ".." ∉ location :=
    given ▸ FilePath.double_dot_not_mem_foldl_enter List.not_mem_nil
  have noNull : (FilePath.ofLocation location).hasNull = false := by
    rw [FilePath.hasNull, List.any_eq_false] at free ⊢
    intro name member
    refine free name ?_
    exact (FilePath.mem_of_mem_foldl_enter (given ▸ member)).resolve_left List.not_mem_nil
  rw [resolve, noNull, if_neg Bool.false_ne_true, FilePath.resolveFrom]
  simp [FilePath.ofLocation, FilePath.isAbsolute, FilePath.foldl_enter_plain [] plain]

theorem isFile_eq_true (found : tree.isFile path = .ok true) :
    ∃ location bytes, tree.locate path = .ok location ∧
      tree.entry? location = some (.file bytes) := by
  unfold isFile probe at found
  cases located : tree.locate path with
  | ok location =>
      rw [located] at found
      cases entry : tree.entry? location with
      | none =>
          simp [entry, Except.map] at found
      | some kind =>
          cases kind with
          | directory => simp [entry, Except.map] at found
          | file bytes => exact ⟨location, bytes, rfl, entry⟩
  | error fault =>
      rw [located] at found
      cases fault <;> simp [Except.map] at found

theorem isFile_eq_error {fault : FileFault} (failed : tree.isFile path = .error fault) :
    fault = .nameTooLong ∧ tree.locate path = .error .nameTooLong := by
  unfold isFile probe at failed
  cases located : tree.locate path with
  | ok location =>
      rw [located] at failed
      cases failed
  | error other =>
      rw [located] at failed
      cases other <;> simp [Except.map] at failed
      exact ⟨failed.symm, rfl⟩

theorem read_eq_ok {bytes : List UInt8} (given : tree.read path = .ok bytes) :
    ∃ location, tree.locate path = .ok location ∧
      tree.entry? location = some (.file bytes) := by
  unfold read at given
  cases located : tree.locate path with
  | error fault =>
      rw [located] at given
      cases given
  | ok location =>
      simp only [located, bind, Except.bind] at given
      split at given
      · next found => exact ⟨location, rfl, Except.ok.inj given ▸ found⟩
      · cases given
      · cases given

theorem mem_entries_of_entry? {bytes : List UInt8}
    (found : tree.entry? location = some (.file bytes)) :
    (location, .file bytes) ∈ tree.entries := by
  unfold entry? at found
  split at found
  · cases found
  · obtain ⟨⟨other, entry⟩, first, rfl⟩ := Option.map_eq_some_iff.1 found
    obtain rfl : other = location := by simpa using List.find?_some first
    exact List.mem_of_find?_eq_some first

end FileTree

end SchemaBinding
