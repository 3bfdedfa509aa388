import SchemaBinding.Failure

/-!
# Actions

An action computes on a state.  What it did to the state before it failed
remains done, and so do the records that it reported.
-/

namespace SchemaBinding

/-- A computation on a state that may report records and may fail. -/
def Action (σ α : Type) : Type :=
  σ → Run α × σ

namespace Action

variable {σ α β : Type}

protected def pure (value : α) : Action σ α :=
  fun state => (Run.pure value, state)

/-- The second action goes on from the state that the first one leaves, if that succeeds. -/
protected def bind (first : Action σ α) (next : α → Action σ β) : Action σ β :=
  fun state =>
    match first state with
    | (⟨records, .error failure⟩, state) => (⟨records, .error failure⟩, state)
    | (⟨records, .ok value⟩, state) =>
        let (run, state) := next value state
        (⟨records ++ run.records, run.outcome⟩, state)

instance : Monad (Action σ) where
  pure := Action.pure
  bind := Action.bind

/-- A computation that does not touch the state. -/
def ofRun (run : Run α) : Action σ α :=
  fun state => (run, state)

def report (record : Record) : Action σ Unit :=
  ofRun (Run.report record)

def fail (failure : Failure) : Action σ α :=
  ofRun (Run.fail failure)

def state : Action σ σ :=
  fun state => (Run.pure state, state)

def change (next : σ → σ) : Action σ Unit :=
  fun state => (Run.pure (), next state)

def onPart {τ : Type} (part : σ → τ) (put : τ → σ → σ) (action : Action τ α) : Action σ α :=
  fun state =>
    let (run, inner) := action (part state)
    (run, put inner state)

theorem pure_bind (value : α) (next : α → Action σ β) :
    Action.bind (Action.pure value) next = next value := by
  funext state
  simp [Action.bind, Action.pure, Run.pure]

theorem bind_pure (first : Action σ α) : Action.bind first Action.pure = first := by
  funext state
  rcases result : first state with ⟨⟨records, outcome⟩, left⟩
  cases outcome <;> simp [Action.bind, Action.pure, Run.pure, result]

theorem bind_assoc {γ : Type} (first : Action σ α) (next : α → Action σ β)
    (last : β → Action σ γ) :
    Action.bind (Action.bind first next) last =
      Action.bind first (fun value => Action.bind (next value) last) := by
  funext state
  rcases result : first state with ⟨⟨records, outcome⟩, left⟩
  cases outcome with
  | error failure => simp [Action.bind, result]
  | ok value =>
      rcases second : next value left with ⟨⟨others, outcome⟩, left⟩
      cases outcome <;> simp [Action.bind, result, second]

instance : LawfulMonad (Action σ) :=
  LawfulMonad.mk' (Action σ) bind_pure pure_bind bind_assoc

end Action

end SchemaBinding
