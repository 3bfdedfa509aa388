import Mathlib.Data.List.Nodup
import SchemaBinding.Loader
import SchemaBinding.Proofs.Deleting

/-!
# Discovery of schemas

Which files are found at a path: a file itself, or the schemas below a directory.  These
are exactly the files of the directory whose names end as those of schemas do, in the order
of their paths, each once.  Without recursion they are those directly in the directory.
-/

namespace SchemaBinding

namespace FilePath

/-- The order of sequences of names is the lexicographic one. -/
theorem precedes_iff (names others : List String) :
    precedes names others = true ↔ ¬ others < names := by
  induction names generalizing others with
  | nil => simp [precedes]
  | cons name rest ih =>
      cases others with
      | nil => simp [precedes]
      | cons other more =>
          rw [precedes, List.cons_lt_cons_iff, not_or, String.not_lt]
          split
          · next same =>
              subst same
              rw [ih]
              simp
          · next apart =>
              rw [decide_eq_true_iff]
              exact ⟨fun before => ⟨Std.le_of_lt before, fun same => apart same.1.symm⟩,
                fun after => Std.lt_of_le_of_ne after.1 apart⟩

theorem precedes_total (names others : List String) :
    (precedes names others || precedes others names) = true := by
  rw [Bool.or_eq_true, precedes_iff, precedes_iff]
  by_cases before : names < others
  · exact .inl (List.lt_asymm before)
  · exact .inr before

theorem precedes_trans (names others more : List String) (first : precedes names others = true)
    (second : precedes others more = true) : precedes names more = true := by
  rw [precedes_iff] at first second ⊢
  exact List.not_lt.2 (List.le_trans (List.not_lt.1 first) (List.not_lt.1 second))

theorem lt_of_precedes {names others : List String} (before : precedes names others = true)
    (apart : names ≠ others) : names < others := by
  rw [precedes_iff] at before
  by_contra after
  exact apart (List.le_antisymm (List.not_lt.1 before) (List.not_lt.1 after))

section Suffix

variable {name stem ending : List Char}

/-- The suffix of a name is its end after a dot inside of it. -/
theorem suffixOf_append (filled : stem ≠ []) (ends : ending ≠ []) (dotless : '.' ∉ ending) :
    suffixOf (stem ++ '.' :: ending) = '.' :: ending := by
  have reversed : (stem ++ '.' :: ending).reverse = ending.reverse ++ '.' :: stem.reverse := by
    simp
  have after : (ending.reverse ++ '.' :: stem.reverse).takeWhile (· != '.') = ending.reverse := by
    rw [List.takeWhile_append_of_pos]
    · simp
    · intro c member
      have apart : c ≠ '.' := fun same => dotless (by simpa [same] using member)
      simpa using apart
  unfold suffixOf
  dsimp only
  rw [reversed, after, List.drop_left]
  simp [filled, ends]

theorem suffixOf_cases (name : List Char) : suffixOf name = [] ∨
    ∃ stem ending, stem ≠ [] ∧ ending ≠ [] ∧ name = stem ++ '.' :: ending ∧
      suffixOf name = '.' :: ending := by
  have parted := List.takeWhile_append_dropWhile (p := (· != '.')) (l := name.reverse)
  unfold suffixOf
  dsimp only
  generalize after_eq : name.reverse.takeWhile (· != '.') = after at parted
  have rest_eq : name.reverse.drop after.length = name.reverse.dropWhile (· != '.') := by
    conv_lhs => rw [← parted, List.drop_left]
  rw [rest_eq]
  cases rest : name.reverse.dropWhile (· != '.') with
  | nil => exact .inl rfl
  | cons first before =>
      have isDot : first = '.' := by
        have stops := List.head?_dropWhile_not (· != '.') name.reverse
        rw [rest] at stops
        simpa using stops
      subst isDot
      dsimp only
      split
      · exact .inl rfl
      · next filled =>
          rw [Bool.or_eq_true, not_or, List.isEmpty_iff, List.isEmpty_iff] at filled
          refine .inr ⟨before.reverse, after.reverse, by simpa using filled.2,
            by simpa using filled.1, ?_, rfl⟩
          rw [rest] at parted
          rw [← List.reverse_reverse name, ← parted]
          simp

end Suffix

end FilePath

namespace FileTree

variable {tree : FileTree} {path : FilePath} {place : Location} {entry : Entry}

section Distinct

variable (distinct : (tree.entries.map Prod.fst).Nodup)
include distinct

theorem entry?_of_mem (below : place ≠ []) (member : (place, entry) ∈ tree.entries) :
    tree.entry? place = some entry := by
  obtain ⟨other, found⟩ := Option.isSome_iff_exists.1 (isSome_entry?_of_mem member)
  have alsoMember := mem_entries_of_entry?_eq_some below found
  have same := List.inj_on_of_nodup_map distinct alsoMember member rfl
  exact found.trans (congrArg some (congrArg Prod.snd same))

/-- What is listed below a place is what stands there. -/
theorem mem_below_iff {location : Location} : (location, entry) ∈ tree.below place ↔
    location ≠ [] ∧ tree.entry? (place ++ location) = some entry := by
  rw [mem_below]
  refine and_congr_right fun filled => ?_
  have below : place ++ location ≠ [] := List.append_ne_nil_of_right_ne_nil _ filled
  exact ⟨entry?_of_mem distinct below, mem_entries_of_entry?_eq_some below⟩

/-- Nothing is listed twice. -/
theorem pairwise_below : (tree.below place).Pairwise (fun item other => item.1 ≠ other.1) := by
  unfold below
  rw [List.pairwise_filterMap]
  refine (List.pairwise_map.1 distinct).imp ?_
  rintro ⟨location, kind⟩ ⟨other, otherKind⟩ apart item given otherItem otherGiven same
  dsimp only at apart given otherGiven
  split at given
  · next inside =>
      split at otherGiven
      · next otherInside =>
          rw [Bool.and_eq_true, List.isPrefixOf_iff_prefix] at inside otherInside
          obtain ⟨⟨rest, rfl⟩, -⟩ := inside
          obtain ⟨⟨more, rfl⟩, -⟩ := otherInside
          obtain rfl := Option.some.inj given
          obtain rfl := Option.some.inj otherGiven
          simp only [List.drop_left] at same
          exact apart (congrArg (place ++ ·) same)
      · cases otherGiven
  · cases given

end Distinct

/-- Where no directory is, nothing is listed. -/
theorem contents_eq_nil (missing : ¬ ∃ place, tree.LeadsToDirectory path place) :
    tree.contents path = [] := by
  unfold contents
  cases located : tree.locate path with
  | error fault => rfl
  | ok place => exact if_neg fun found => missing ⟨place, located, found⟩

/-- Something stands below a directory, directly in it if subdirectories are not searched. -/
structure StandsBelow (tree : FileTree) (path : FilePath) (recurse : Bool) (names : List String)
    (entry : Entry) : Prop where
  below : names ≠ []
  reached : recurse = true ∨ names.length = 1
  stands : ∃ place, tree.LeadsToDirectory path place ∧ tree.entry? (place ++ names) = some entry

section Contents

variable (distinct : (tree.entries.map Prod.fst).Nodup)
include distinct

theorem mem_contents {names : List String} :
    (names, entry) ∈ tree.contents path ↔ tree.StandsBelow path true names entry := by
  constructor
  · intro member
    by_cases there : ∃ place, tree.LeadsToDirectory path place
    · obtain ⟨place, leads⟩ := there
      rw [leads.contents_eq, mem_below_iff distinct] at member
      exact ⟨member.1, .inl rfl, place, leads, member.2⟩
    · rw [contents_eq_nil there] at member
      exact absurd member List.not_mem_nil
  · rintro ⟨below, -, place, leads, found⟩
    rw [leads.contents_eq, mem_below_iff distinct]
    exact ⟨below, found⟩

theorem pairwise_contents (path : FilePath) :
    (tree.contents path).Pairwise (fun item other => item.1 ≠ other.1) := by
  by_cases there : ∃ place, tree.LeadsToDirectory path place
  · obtain ⟨place, leads⟩ := there
    rw [leads.contents_eq]
    exact pairwise_below distinct
  · rw [contents_eq_nil there]
    exact List.Pairwise.nil

end Contents

end FileTree

namespace Loader

open FileTree

variable {tree : FileTree} {path : FilePath} {recurse : Bool}

/-- A name that ends as those of schemas, in letters of any case, after something else. -/
def HasSchemaSuffix (file : FilePath) : Prop :=
  ∃ stem ending, stem ≠ [] ∧ file.name.toList = stem ++ '.' :: ending ∧
    ending.map Char.toLower = ['x', 's', 'd']

theorem isSchemaName_iff {file : FilePath} : isSchemaName file = true ↔ HasSchemaSuffix file := by
  have lowered : isSchemaName file = true ↔
      (FilePath.suffixOf file.name.toList).map Char.toLower = ['.', 'x', 's', 'd'] := by
    rw [isSchemaName, beq_iff_eq, ← String.toList_inj, String.toList_map, FilePath.suffix,
      String.toList_ofList]
    rfl
  rw [lowered]
  constructor
  · intro ends
    rcases FilePath.suffixOf_cases file.name.toList with
      none | ⟨stem, ending, filled, -, whole, suffix⟩
    · rw [none] at ends
      cases ends
    · rw [suffix, List.map_cons] at ends
      exact ⟨stem, ending, filled, whole, (List.cons.inj ends).2⟩
  · rintro ⟨stem, ending, filled, whole, ends⟩
    have nonempty : ending ≠ [] := by
      rintro rfl
      cases ends
    have dotless : '.' ∉ ending := by
      intro member
      have lower := List.mem_map_of_mem (f := Char.toLower) member
      rw [ends] at lower
      revert lower
      decide
    rw [whole, FilePath.suffixOf_append filled nonempty dotless, List.map_cons, ends]
    rfl

structure Finds (tree : FileTree) (path : FilePath) (recurse : Bool) (paths : List FilePath) :
    Prop where
  /-- The paths come in the order of their names, and none comes twice. -/
  increasing : paths.Pairwise (fun file other => file.parts < other.parts)
  /-- They are the paths of all files below the directory that have the names of schemas. -/
  mem_iff : ∀ file, file ∈ paths ↔ ∃ names bytes,
    tree.StandsBelow path recurse names (.file bytes) ∧ file = path.join ⟨"", names⟩ ∧
      HasSchemaSuffix file

def filesBelow (tree : FileTree) (path : FilePath) (recurse : Bool) : List Location :=
  (tree.contents path).filterMap (fun (location, entry) =>
    match entry with
    | .file _ => if recurse || location.length == 1 then some location else none
    | .directory => none)

theorem schemasBelow_eq (tree : FileTree) (path : FilePath) (recurse : Bool) :
    schemasBelow tree path recurse =
      (((filesBelow tree path recurse).mergeSort FilePath.precedes).map
        fun names => path.join ⟨"", names⟩).filter isSchemaName := rfl

theorem join_names (path : FilePath) (names : List String) :
    path.join ⟨"", names⟩ = ⟨path.anchor, path.parts ++ names⟩ := rfl

section Distinct

variable (distinct : (tree.entries.map Prod.fst).Nodup)
include distinct

theorem mem_filesBelow {names : List String} :
    names ∈ filesBelow tree path recurse ↔
      ∃ bytes, tree.StandsBelow path recurse names (.file bytes) := by
  rw [filesBelow, List.mem_filterMap]
  constructor
  · rintro ⟨⟨location, entry⟩, member, given⟩
    obtain ⟨below, -, stands⟩ := (mem_contents distinct).1 member
    cases entry with
    | directory => cases given
    | file bytes =>
        dsimp only at given
        split at given
        · next reached =>
            obtain rfl := Option.some.inj given
            exact ⟨bytes, below, by simpa using reached, stands⟩
        · cases given
  · rintro ⟨bytes, below, reached, stands⟩
    refine ⟨(names, .file bytes), (mem_contents distinct).2 ⟨below, .inl rfl, stands⟩, ?_⟩
    exact if_pos (by simpa using reached)

theorem nodup_filesBelow (path : FilePath) (recurse : Bool) :
    (filesBelow tree path recurse).Nodup := by
  rw [filesBelow, List.Nodup, List.pairwise_filterMap]
  -- The names of a file are those with which it is listed.
  have named : ∀ (item : Location × Entry) (names : Location),
      (match item.2 with
        | .file _ => if recurse || item.1.length == 1 then some item.1 else none
        | .directory => none) = some names → names = item.1 := by
    rintro ⟨location, entry⟩ names given
    cases entry with
    | directory => cases given
    | file bytes =>
        dsimp only at given
        split at given
        · exact (Option.some.inj given).symm
        · cases given
  refine (pairwise_contents distinct path).imp fun apart names given others otherGiven => ?_
  rw [named _ _ given, named _ _ otherGiven]
  exact apart

theorem finds_schemasBelow (path : FilePath) (recurse : Bool) :
    Finds tree path recurse (schemasBelow tree path recurse) := by
  rw [schemasBelow_eq]
  constructor
  · have ordered := List.pairwise_mergeSort FilePath.precedes_trans FilePath.precedes_total
      (filesBelow tree path recurse)
    have apart := (nodup_filesBelow distinct path recurse).perm
      (List.mergeSort_perm _ FilePath.precedes).symm
    refine List.Pairwise.filter _ (List.pairwise_map.2 ((ordered.and apart).imp ?_))
    rintro names others ⟨first, different⟩
    exact List.append_left_lt (FilePath.lt_of_precedes first different)
  · intro file
    rw [List.mem_filter, List.mem_map]
    constructor
    · rintro ⟨⟨names, member, rfl⟩, named⟩
      obtain ⟨bytes, stands⟩ := (mem_filesBelow distinct).1 (List.mem_mergeSort.1 member)
      exact ⟨names, bytes, stands, rfl, isSchemaName_iff.1 named⟩
    · rintro ⟨names, bytes, stands, rfl, named⟩
      exact ⟨⟨names, List.mem_mergeSort.2 ((mem_filesBelow distinct).2 ⟨bytes, stands⟩), rfl⟩,
        isSchemaName_iff.2 named⟩

/-- Something below the directory cannot be looked up, since its path is too long. -/
theorem hasOverlongEntry_iff : hasOverlongEntry tree path recurse = true ↔
    ∃ names entry, tree.StandsBelow path recurse names entry ∧
      maxPathSize < (path.join ⟨"", names⟩).toString.utf8ByteSize := by
  rw [hasOverlongEntry, List.any_eq_true]
  constructor
  · rintro ⟨⟨names, entry⟩, member, long⟩
    obtain ⟨below, -, stands⟩ := (mem_contents distinct).1 member
    rw [Bool.and_eq_true, decide_eq_true_iff] at long
    exact ⟨names, entry, ⟨below, by simpa using long.1, stands⟩, long.2⟩
  · rintro ⟨names, entry, ⟨below, reached, stands⟩, long⟩
    refine ⟨(names, entry), (mem_contents distinct).2 ⟨below, .inl rfl, stands⟩, ?_⟩
    rw [Bool.and_eq_true, decide_eq_true_iff]
    exact ⟨by simpa using reached, long⟩

end Distinct

/-- What is found is determined by which files there are. -/
theorem Finds.unique {paths others : List FilePath} (finds : Finds tree path recurse paths)
    (increasing : others.Pairwise (fun file other => file.parts < other.parts))
    (same : ∀ file, file ∈ paths ↔ file ∈ others) : paths = others := by
  have nodup : ∀ {paths : List FilePath},
      paths.Pairwise (fun file other => file.parts < other.parts) → paths.Nodup := by
    intro paths ordered
    refine List.Pairwise.imp (fun before => ?_) ordered
    rintro rfl
    exact List.lt_irrefl _ before
  have perm := (List.perm_ext_iff_of_nodup (nodup finds.increasing) (nodup increasing)).2 same
  refine perm.eq_of_pairwise (fun file other _ _ before after => ?_) finds.increasing increasing
  exact absurd after (List.lt_asymm before)

/-- A path leads out of a directory by one name exactly if it is seen from there by one name. -/
theorem parent_join_iff {names : List String} (below : names ≠ []) :
    (path.join ⟨"", names⟩).parent = path ↔ names.length = 1 := by
  rw [join_names, FilePath.parent]
  constructor
  · intro same
    have lengths := congrArg (fun file : FilePath => file.parts.length) same
    simp only [List.length_dropLast, List.length_append] at lengths
    have positive := List.length_pos_of_ne_nil below
    omega
  · intro single
    obtain ⟨name, rfl⟩ := List.length_eq_one_iff.1 single
    dsimp only
    rw [List.dropLast_concat]

/-- What is found without recursion is what is found with it and has the directory as parent. -/
theorem schemasBelow_direct (distinct : (tree.entries.map Prod.fst).Nodup) (path : FilePath) :
    schemasBelow tree path false =
      (schemasBelow tree path true).filter (fun file => file.parent = path) := by
  have direct := finds_schemasBelow distinct path false
  have all := finds_schemasBelow distinct path true
  refine direct.unique (all.increasing.filter _) fun file => ?_
  rw [List.mem_filter, direct.mem_iff, all.mem_iff, decide_eq_true_iff]
  constructor
  · rintro ⟨names, bytes, ⟨below, reached, stands⟩, rfl, named⟩
    have single := reached.resolve_left Bool.false_ne_true
    exact ⟨⟨names, bytes, ⟨below, .inl rfl, stands⟩, rfl, named⟩, (parent_join_iff below).2 single⟩
  · rintro ⟨⟨names, bytes, ⟨below, -, stands⟩, rfl, named⟩, parent⟩
    exact ⟨names, bytes, ⟨below, .inr ((parent_join_iff below).1 parent), stands⟩, rfl, named⟩

theorem discover_of_file {bytes : List UInt8} (found : tree.lookup? path = some (.file bytes))
    (recurse : Bool) : discover tree path recurse = .ok [path] := by
  unfold FileTree.lookup? at found
  cases located : tree.locate path with
  | error fault =>
      rw [located] at found
      cases found
  | ok place =>
      rw [located] at found
      dsimp only at found
      rw [discover, isFile_of_locate located, found]
      rfl

/-- Where no file is, a path is too long to be looked up, or the directory is searched. -/
theorem discover_of_not_file (noFile : ∀ bytes, tree.lookup? path ≠ some (.file bytes))
    (recurse : Bool) :
    (tree.locate path = .error .nameTooLong ∧
        discover tree path recurse = .error .nameTooLong) ∨
      (tree.locate path ≠ .error .nameTooLong ∧ discover tree path recurse =
        if hasOverlongEntry tree path recurse then .error .nameTooLong
        else .ok (schemasBelow tree path recurse)) := by
  unfold FileTree.lookup? at noFile
  cases located : tree.locate path with
  | error fault =>
      rw [discover, isFile, probe, located]
      cases fault with
      | nameTooLong => exact .inl ⟨rfl, rfl⟩
      | _ => exact .inr ⟨by simp, rfl⟩
  | ok place =>
      rw [located] at noFile
      rw [discover, isFile_of_locate located]
      refine .inr ⟨by simp, ?_⟩
      cases found : tree.entry? place with
      | none => rfl
      | some entry =>
          cases entry with
          | directory => rfl
          | file bytes => exact absurd found (noFile bytes)

/-- Where no file is, a search succeeds if no path in it is too long, and gives the schemas. -/
theorem discover_eq_ok {paths : List FilePath}
    (noFile : ∀ bytes, tree.lookup? path ≠ some (.file bytes)) :
    discover tree path recurse = .ok paths ↔ tree.locate path ≠ .error .nameTooLong ∧
      ¬ hasOverlongEntry tree path recurse = true ∧ paths = schemasBelow tree path recurse := by
  rcases discover_of_not_file noFile recurse with ⟨long, fails⟩ | ⟨short, given⟩
  · rw [fails]
    exact iff_of_false (fun same => by cases same) (fun ⟨short, _⟩ => short long)
  · rw [given]
    split
    · next overlong =>
        exact iff_of_false (fun same => by cases same) (fun ⟨_, fits, _⟩ => fits overlong)
    · next fits =>
        exact ⟨fun same => ⟨short, fits, (Except.ok.inj same).symm⟩,
          fun ⟨_, _, same⟩ => by rw [same]⟩

/-- At a path that leads nowhere nothing is found, unless it is too long to be looked up. -/
theorem discover_of_missing (missing : tree.lookup? path = none)
    (short : tree.locate path ≠ .error .nameTooLong) (recurse : Bool) :
    discover tree path recurse = .ok [] := by
  have nothing : tree.contents path = [] := by
    refine contents_eq_nil ?_
    rintro ⟨place, located, found⟩
    rw [FileTree.lookup?, located] at missing
    have free : tree.entry? place = none := missing
    rw [found] at free
    cases free
  refine (discover_eq_ok fun bytes => by simp [missing]).2 ⟨short, ?_, ?_⟩
  · rw [hasOverlongEntry, nothing, List.any_nil]
    exact Bool.false_ne_true
  · rw [schemasBelow_eq, filesBelow, nothing, List.filterMap_nil, List.mergeSort_nil]
    rfl

/-- Where a search with recursion succeeds, the one without gives those directly below. -/
theorem discover_direct (distinct : (tree.entries.map Prod.fst).Nodup) {paths : List FilePath}
    (noFile : ∀ bytes, tree.lookup? path ≠ some (.file bytes))
    (found : discover tree path true = .ok paths) :
    discover tree path false = .ok (paths.filter (fun file => file.parent = path)) := by
  obtain ⟨short, fits, rfl⟩ := (discover_eq_ok noFile).1 found
  refine (discover_eq_ok noFile).2 ⟨short, ?_, (schemasBelow_direct distinct path).symm⟩
  rw [hasOverlongEntry_iff distinct] at fits ⊢
  rintro ⟨names, entry, ⟨below, -, stands⟩, long⟩
  exact fits ⟨names, entry, ⟨below, .inl rfl, stands⟩, long⟩

/-- A search fails exactly if its path, or one that it comes to, is too long to be looked up. -/
theorem discover_eq_error (distinct : (tree.entries.map Prod.fst).Nodup) {fault : FileFault} :
    discover tree path recurse = .error fault ↔
      fault = .nameTooLong ∧ (tree.locate path = .error .nameTooLong ∨
        hasOverlongEntry tree path recurse = true) := by
  by_cases isFile : ∃ bytes, tree.lookup? path = some (.file bytes)
  · obtain ⟨bytes, found⟩ := isFile
    rw [discover_of_file found]
    refine iff_of_false (by simp) ?_
    unfold FileTree.lookup? at found
    rintro ⟨-, long | overlong⟩
    · rw [long] at found
      cases found
    · obtain ⟨_, _, ⟨-, -, place, leads, -⟩, -⟩ := (hasOverlongEntry_iff distinct).1 overlong
      rw [leads.located] at found
      cases leads.isDirectory.symm.trans found
  · rcases discover_of_not_file (not_exists.1 isFile) recurse with ⟨long, fails⟩ | ⟨short, given⟩
    · rw [fails]
      exact ⟨fun same => ⟨(Except.error.inj same).symm, .inl long⟩, fun same => by rw [same.1]⟩
    · rw [given]
      split
      · next overlong =>
          exact ⟨fun same => ⟨(Except.error.inj same).symm, .inr overlong⟩,
            fun same => by rw [same.1]⟩
      · next fits =>
          exact iff_of_false (by simp) fun ⟨_, either⟩ => either.elim short fits

/-- Which schemas are found at a path. -/
structure DiscoversSchemas (tree : FileTree) (path : FilePath) : Prop where
  /-- A file is found alone, whatever its name is. -/
  ofFile : ∀ bytes recurse, tree.lookup? path = some (.file bytes) →
    discover tree path recurse = .ok [path]
  finds : ∀ recurse paths, (∀ bytes, tree.lookup? path ≠ some (.file bytes)) →
    discover tree path recurse = .ok paths → Finds tree path recurse paths
  missing : ∀ recurse, tree.lookup? path = none → tree.locate path ≠ .error .nameTooLong →
    discover tree path recurse = .ok []
  direct : ∀ paths, (∀ bytes, tree.lookup? path ≠ some (.file bytes)) →
    discover tree path true = .ok paths →
    discover tree path false = .ok (paths.filter (fun file => file.parent = path))
  /-- The search fails only where a path is too long to be looked up. -/
  fails_iff : ∀ recurse fault, discover tree path recurse = .error fault ↔
    fault = .nameTooLong ∧ (tree.locate path = .error .nameTooLong ∨
      ∃ names entry, tree.StandsBelow path recurse names entry ∧
        maxPathSize < (path.join ⟨"", names⟩).toString.utf8ByteSize)
  suffix_iff : ∀ file : FilePath, file.suffix.map Char.toLower = ".xsd" ↔ HasSchemaSuffix file

/-- In every tree and at every path, exactly the schemas are found, in the order of their paths. -/
theorem discoversSchemas (distinct : (tree.entries.map Prod.fst).Nodup) (path : FilePath) :
    DiscoversSchemas tree path where
  ofFile _ recurse found := discover_of_file found recurse
  finds recurse paths noFile found := by
    obtain ⟨-, -, rfl⟩ := (discover_eq_ok noFile).1 found
    exact finds_schemasBelow distinct path recurse
  missing recurse missing short := discover_of_missing missing short recurse
  direct _ noFile found := discover_direct distinct noFile found
  fails_iff recurse fault := by
    rw [← hasOverlongEntry_iff distinct]
    exact discover_eq_error distinct
  suffix_iff file := by
    rw [← isSchemaName_iff, isSchemaName, beq_iff_eq]

/-- A directory named like a schema, a schema in it, and files whose names begin with a dot. -/
def meadowTree : FileTree where
  entries := [(["in"], .directory), (["in", "b.XSD"], .file []), (["in", "a.xsd"], .directory),
    (["in", "a.xsd", "a.xsd"], .file []), (["in", ".xsd"], .file [])]
  workingDirectory := []

theorem schemasBelow_meadowTree : schemasBelow meadowTree (.ofString "in") true =
    [.ofString "in/a.xsd/a.xsd", .ofString "in/b.XSD"] := by
  have files : filesBelow meadowTree (.ofString "in") true =
      [["b.XSD"], ["a.xsd", "a.xsd"], [".xsd"]] := by decide
  have ordered : [["b.XSD"], ["a.xsd", "a.xsd"], [".xsd"]].mergeSort FilePath.precedes =
      [[".xsd"], ["a.xsd", "a.xsd"], ["b.XSD"]] := by
    have same : [["b.XSD"], ["a.xsd", "a.xsd"], [".xsd"]].Perm
        [[".xsd"], ["a.xsd", "a.xsd"], ["b.XSD"]] := by decide
    refine ((List.mergeSort_perm _ _).trans same).eq_of_pairwise
      (fun names others _ _ before after => ?_)
      (List.pairwise_mergeSort FilePath.precedes_trans FilePath.precedes_total _)
      (by decide)
    exact List.le_antisymm ((FilePath.precedes_iff _ _).1 before)
      ((FilePath.precedes_iff _ _).1 after)
  rw [schemasBelow_eq, files, ordered]
  decide +kernel

theorem discoversSchemas_meadowTree :
    (meadowTree.entries.map Prod.fst).Nodup ∧
      DiscoversSchemas meadowTree (.ofString "in") ∧
      discover meadowTree (.ofString "in") true =
        .ok [.ofString "in/a.xsd/a.xsd", .ofString "in/b.XSD"] ∧
      discover meadowTree (.ofString "in") false = .ok [.ofString "in/b.XSD"] := by
  have distinct : (meadowTree.entries.map Prod.fst).Nodup := by decide
  have discovers := discoversSchemas distinct (.ofString "in")
  have noFile : ∀ bytes, meadowTree.lookup? (.ofString "in") ≠ some (.file bytes) := by
    intro bytes found
    cases (show meadowTree.lookup? (.ofString "in") = some .directory by decide).symm.trans
      found
  have all : discover meadowTree (.ofString "in") true =
      .ok [.ofString "in/a.xsd/a.xsd", .ofString "in/b.XSD"] := by
    rw [discover_eq_ok noFile, schemasBelow_meadowTree]
    decide
  refine ⟨distinct, discovers, all, (discovers.direct _ noFile all).trans ?_⟩
  decide

theorem hasNull_singleton {name : String} (named : FilePath.IsEntryName name) :
    FilePath.hasNull ⟨"", [name]⟩ = false := by
  simpa [FilePath.hasNull] using named.noNull

/-- At a path that leads nowhere, since a name in it is too long, the search fails. -/
theorem discover_overlong :
    lookup? ⟨[], []⟩ (.ofString (String.ofList (List.replicate 300 'n'))) = none ∧
      discover ⟨[], []⟩ (.ofString (String.ofList (List.replicate 300 'n'))) true =
        .error .nameTooLong := by
  have named : FilePath.IsEntryName (String.ofList (List.replicate 300 'n')) :=
    FilePath.isEntryName_replicate (by decide) (by decide)
  have long : locate ⟨[], []⟩ ⟨"", [String.ofList (List.replicate 300 'n')]⟩ =
      .error .nameTooLong := by
    rw [locate, hasNull_singleton named]
    decide +kernel
  rw [FilePath.ofString_of_isFileName named.toIsFileName, FileTree.lookup?, discover, isFile,
    probe, long]
  exact ⟨rfl, rfl⟩

end Loader

end SchemaBinding
