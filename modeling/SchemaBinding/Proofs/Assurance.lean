import SchemaBinding.Action

/-!
# What runs and actions assure

Rules for reasoning about computations without opening them: what holds of every
record that is reported and of the value that is returned, step by step.
-/

namespace SchemaBinding

/-- A sequence of results is a value if both parts are. -/
theorem except_bind_eq_ok {ε α β : Type} {first : Except ε α} {next : α → Except ε β}
    {value : β} :
    (first >>= next) = .ok value ↔ ∃ inner, first = .ok inner ∧ next inner = .ok value := by
  cases first with
  | error fault =>
      exact iff_of_false (fun same => by cases same) (fun ⟨_, same, _⟩ => by cases same)
  | ok inner =>
      refine ⟨fun same => ⟨inner, rfl, same⟩, ?_⟩
      rintro ⟨_, given, same⟩
      cases given
      exact same

/-- A fault that is told as another one is no value. -/
theorem eq_ok_of_mapError {ε δ α : Type} {result : Except ε α} {f : ε → δ} {value : α}
    (given : result.mapError f = .ok value) : result = .ok value := by
  cases result with
  | ok other => exact congrArg Except.ok (Except.ok.inj given)
  | error fault => cases given

namespace Logged

variable {α β : Type}

theorem value_bind (first : Logged α) (next : α → Logged β) :
    (first >>= next).value = (next first.value).value := rfl

theorem records_bind (first : Logged α) (next : α → Logged β) :
    (first >>= next).records = first.records ++ (next first.value).records := rfl

theorem records_map (f : α → β) (first : Logged α) : (f <$> first).records = first.records :=
  List.append_nil first.records

/-- A computation over a list, without its records. -/
theorem value_foldlM (step : β → α → Logged β) (items : List α) (start : β) :
    (items.foldlM step start).value =
      items.foldl (fun state item => (step state item).value) start := by
  induction items generalizing start with
  | nil => rfl
  | cons item rest ih =>
      rw [List.foldlM_cons, List.foldl_cons]
      exact ih (step start item).value

/-- A record that one step makes in any state is among those of a computation over a list. -/
theorem mem_records_foldlM {step : β → α → Logged β} {items : List α} {item : α}
    {record : Record} (member : item ∈ items)
    (reports : ∀ state, record ∈ (step state item).records) (start : β) :
    record ∈ (items.foldlM step start).records := by
  induction items generalizing start with
  | nil => simp at member
  | cons first rest ih =>
      rw [List.foldlM_cons, records_bind]
      rcases List.mem_cons.1 member with rfl | later
      · exact List.mem_append_left _ (reports start)
      · exact List.mem_append_right _ (ih later _)

end Logged

namespace Run

variable {α β : Type} {reported : Record → Prop}

theorem outcome_bind (first : Run α) (next : α → Run β) :
    (first >>= next).outcome = first.outcome >>= fun inner => (next inner).outcome := by
  obtain ⟨records, outcome⟩ := first
  cases outcome <;> rfl

/-- A sequence of runs succeeds if both do. -/
theorem outcome_bind_eq_ok {first : Run α} {next : α → Run β} {value : β} :
    (first >>= next).outcome = .ok value ↔
      ∃ inner, first.outcome = .ok inner ∧ (next inner).outcome = .ok value := by
  rw [outcome_bind, except_bind_eq_ok]

/-- What holds of a loop that stops at once and of each step before a loop holds of all loops. -/
theorem relates_of_foldlM (related : List α → β → β → Prop) {step : β → α → Run β}
    (stop : ∀ state, related [] state state)
    (more : ∀ item rest state middle last, (step state item).outcome = .ok middle →
      related rest middle last → related (item :: rest) state last)
    {items : List α} {state last : β} (read : (items.foldlM step state).outcome = .ok last) :
    related items state last := by
  induction items generalizing state with
  | nil =>
      obtain rfl := Except.ok.inj read
      exact stop state
  | cons item rest ih =>
      rw [List.foldlM_cons] at read
      obtain ⟨middle, here, later⟩ := outcome_bind_eq_ok.1 read
      exact more item rest state middle last here (ih later)

/-- Every reported record has one property, and a returned value another one. -/
structure Assures (reported : Record → Prop) (returned : α → Prop) (run : Run α) : Prop where
  records : ∀ record ∈ run.records, reported record
  value : ∀ value, run.outcome = .ok value → returned value

theorem assures_pure {returned : α → Prop} {value : α} (holds : returned value) :
    Assures reported returned (pure value : Run α) where
  records record member := by simp [pure, Run.pure] at member
  value other equal := by
    obtain rfl : value = other := Except.ok.inj equal
    exact holds

theorem Assures.bind {first : Run α} {next : α → Run β} {middle : α → Prop}
    {returned : β → Prop} (start : Assures reported middle first)
    (step : ∀ value, middle value → Assures reported returned (next value)) :
    Assures reported returned (first >>= next) := by
  obtain ⟨records, outcome⟩ := first
  cases outcome with
  | error failure => exact ⟨start.records, fun value equal => by cases equal⟩
  | ok value =>
      have after := step value (start.value value rfl)
      refine ⟨fun record member => ?_, after.value⟩
      rcases List.mem_append.1 member with before | later
      · exact start.records record before
      · exact after.records record later

theorem assures_report {record : Record} (holds : reported record) :
    Assures reported (fun _ => True) (report record) where
  records other member := by
    obtain rfl : other = record := by simpa [report] using member
    exact holds
  value _ _ := trivial

theorem assures_fail {returned : α → Prop} (failure : Failure) :
    Assures reported returned (fail failure) where
  records record member := by simp [fail] at member
  value value equal := by cases equal

theorem assures_ofExcept {returned : α → Prop} {outcome : Except Failure α}
    (holds : ∀ value, outcome = .ok value → returned value) :
    Assures reported returned (ofExcept outcome) where
  records record member := by simp [ofExcept] at member
  value := holds

/-- What every step keeps is kept by all steps together. -/
theorem assures_foldlM {step : β → α → Run β} {kept : β → Prop} (items : List α)
    (keeps : ∀ state item, kept state → Assures reported kept (step state item))
    {state : β} (start : kept state) : Assures reported kept (items.foldlM step state) := by
  induction items generalizing state with
  | nil => exact assures_pure start
  | cons item rest ih =>
      rw [List.foldlM_cons]
      exact (keeps state item start).bind (fun _ => ih)

variable {failed : Failure → Prop}

/-- How a run ends: a returned value has one property, and a failure another one. -/
structure Ends (returned : α → Prop) (failed : Failure → Prop) (run : Run α) : Prop where
  value : ∀ value, run.outcome = .ok value → returned value
  failure : ∀ failure, run.outcome = .error failure → failed failure

theorem ends_pure {returned : α → Prop} {value : α} (holds : returned value) :
    Ends returned failed (pure value : Run α) where
  value other equal := by
    obtain rfl : value = other := Except.ok.inj equal
    exact holds
  failure failure equal := by cases equal

theorem Ends.bind {first : Run α} {next : α → Run β} {middle : α → Prop}
    {returned : β → Prop} (start : Ends middle failed first)
    (step : ∀ value, middle value → Ends returned failed (next value)) :
    Ends returned failed (first >>= next) := by
  obtain ⟨records, outcome⟩ := first
  cases outcome with
  | error failure =>
      constructor
      · intro value equal
        cases equal
      · intro other equal
        obtain rfl : failure = other := Except.error.inj equal
        exact start.failure failure rfl
  | ok value =>
      have after := step value (start.value value rfl)
      exact ⟨after.value, after.failure⟩

theorem ends_report (record : Record) : Ends (fun _ => True) failed (report record) where
  value _ _ := trivial
  failure failure equal := by cases equal

theorem ends_fail {returned : α → Prop} {failure : Failure} (holds : failed failure) :
    Ends returned failed (fail failure) where
  value value equal := by cases equal
  failure other equal := by
    obtain rfl : failure = other := Except.error.inj equal
    exact holds

theorem ends_foldlM {step : β → α → Run β} {kept : β → Prop} (items : List α)
    (keeps : ∀ state item, kept state → Ends kept failed (step state item))
    {state : β} (start : kept state) : Ends kept failed (items.foldlM step state) := by
  induction items generalizing state with
  | nil => exact ends_pure start
  | cons item rest ih =>
      rw [List.foldlM_cons]
      exact (keeps state item start).bind (fun _ => ih)

end Run

namespace Action

variable {σ α β : Type} {before : σ} {failed : Prop}

/--
What an action ensures when it is done in a state: one thing of the reported
records, the returned value and the state that is left, or another thing if the
action fails.
-/
structure Ensures (action : Action σ α) (before : σ)
    (returned : List Record → α → σ → Prop) (failed : Prop) : Prop where
  value : ∀ records value after, action before = (⟨records, .ok value⟩, after) →
    returned records value after
  failure : ∀ records failure after, action before = (⟨records, .error failure⟩, after) →
    failed

theorem ensures_pure {returned : List Record → α → σ → Prop} {value : α}
    (holds : returned [] value before) :
    Ensures (pure value : Action σ α) before returned failed where
  value records other after equal := by
    cases equal
    exact holds
  failure records failure after equal := by cases equal

theorem Ensures.bind {first : Action σ α} {next : α → Action σ β}
    {returned : List Record → β → σ → Prop}
    (start : Ensures first before (fun records value middle =>
      Ensures (next value) middle (fun more => returned (records ++ more)) failed) failed) :
    Ensures (first >>= next) before returned failed := by
  have unfolded : (first >>= next) before = Action.bind first next before := rfl
  rcases result : first before with ⟨⟨records, outcome⟩, middle⟩
  cases outcome with
  | error failure =>
      have holds := start.failure records failure middle result
      simp only [Action.bind, result] at unfolded
      constructor
      · intro others value after equal
        rw [unfolded] at equal
        cases equal
      · intro others other after equal
        exact holds
  | ok value =>
      have more := start.value records value middle result
      simp only [Action.bind, result] at unfolded
      rcases second : next value middle with ⟨⟨later, outcome⟩, after⟩
      rw [second] at unfolded
      constructor
      · intro others other left equal
        rw [unfolded] at equal
        cases equal
        exact more.value later other after second
      · intro others failure left equal
        rw [unfolded] at equal
        cases equal
        exact more.failure later failure after second

theorem Ensures.mono {action : Action σ α} {returned weaker : List Record → α → σ → Prop}
    {failedWeaker : Prop} (ensures : Ensures action before returned failed)
    (weaken : ∀ records value after, returned records value after → weaker records value after)
    (weakenFailed : failed → failedWeaker) : Ensures action before weaker failedWeaker where
  value records value after equal := weaken _ _ _ (ensures.value records value after equal)
  failure records failure after equal :=
    weakenFailed (ensures.failure records failure after equal)

theorem ensures_state {returned : List Record → σ → σ → Prop}
    (holds : returned [] before before) :
    Ensures (Action.state : Action σ σ) before returned failed := by
  constructor
  · intro records value after equal
    cases equal
    exact holds
  · intro records failure after equal
    cases equal

theorem ensures_change {returned : List Record → Unit → σ → Prop} {next : σ → σ}
    (holds : returned [] () (next before)) :
    Ensures (Action.change next) before returned failed := by
  constructor
  · intro records value after equal
    cases equal
    exact holds
  · intro records failure after equal
    cases equal

theorem ensures_ofRun {returned : List Record → α → σ → Prop} {run : Run α}
    (holds : ∀ value, run.outcome = .ok value → returned run.records value before)
    (fails : ∀ failure, run.outcome = .error failure → failed) :
    Ensures (Action.ofRun run) before returned failed := by
  constructor
  · intro records value after equal
    obtain ⟨rfl, rfl⟩ := Prod.mk.inj equal
    exact holds value rfl
  · intro records failure after equal
    obtain ⟨rfl, rfl⟩ := Prod.mk.inj equal
    exact fails failure rfl

theorem ensures_report {returned : List Record → Unit → σ → Prop} {record : Record}
    (holds : returned [record] () before) :
    Ensures (Action.report record) before returned failed :=
  ensures_ofRun (fun _ _ => holds) (fun failure equal => by cases equal)

theorem Ensures.discard {action : Action σ α} {returned : List Record → Unit → σ → Prop}
    (ensures : Ensures action before (fun records _ after => returned records () after) failed) :
    Ensures (Functor.discard action) before returned failed := by
  show Ensures (action >>= fun _ => pure ()) before returned failed
  refine Ensures.bind (ensures.mono (fun records value middle holds => ?_) id)
  refine ensures_pure ?_
  rw [List.append_nil]
  exact holds

/-- After an action that succeeds, the next one goes on from the state that is left. -/
theorem bind_of_ok {first : Action σ α} {next : α → Action σ β} {records : List Record}
    {value : α} {middle : σ} (given : first before = (⟨records, .ok value⟩, middle)) :
    (first >>= next) before =
      (⟨records ++ (next value middle).1.records, (next value middle).1.outcome⟩,
        (next value middle).2) := by
  show Action.bind first next before = _
  rw [Action.bind, given]

/-- After an action that fails, nothing else is done. -/
theorem bind_of_error {first : Action σ α} {next : α → Action σ β} {records : List Record}
    {failure : Failure} {middle : σ}
    (given : first before = (⟨records, .error failure⟩, middle)) :
    (first >>= next) before = (⟨records, .error failure⟩, middle) := by
  show Action.bind first next before = _
  rw [Action.bind, given]

/-- A sequence that succeeds consists of two actions that succeed. -/
theorem bind_eq_ok {first : Action σ α} {next : α → Action σ β} {records : List Record}
    {value : β} {after : σ} (result : (first >>= next) before = (⟨records, .ok value⟩, after)) :
    ∃ early inner middle late, first before = (⟨early, .ok inner⟩, middle) ∧
      next inner middle = (⟨late, .ok value⟩, after) ∧ records = early ++ late := by
  rcases given : first before with ⟨⟨early, outcome⟩, middle⟩
  cases outcome with
  | error failure =>
      rw [bind_of_error given] at result
      cases result
  | ok inner =>
      rw [bind_of_ok given] at result
      rcases later : next inner middle with ⟨⟨late, outcome⟩, left⟩
      rw [later] at result
      cases result
      exact ⟨early, inner, middle, late, rfl, later, rfl⟩

/-- Two sequences do the same in a state where their parts do. -/
theorem bind_congr_at {first other : Action σ α} {next otherNext : α → Action σ β}
    (same : first before = other before)
    (more : ∀ records value after, first before = (⟨records, .ok value⟩, after) →
      next value after = otherNext value after) :
    (first >>= next) before = (other >>= otherNext) before := by
  show Action.bind first next before = Action.bind other otherNext before
  unfold Action.bind
  rw [← same]
  rcases result : first before with ⟨⟨records, outcome⟩, after⟩
  cases outcome with
  | error failure => rfl
  | ok value => simp only [more records value after result]

end Action

end SchemaBinding
