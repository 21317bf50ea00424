import ImportAtlas.Log.Event

/-! # Reporting computations

A computation that may fail and reports events on its way. Failing keeps the events
reported so far, and what is reported has no influence on the outcome.
-/

namespace ImportAtlas

/-- The outcome of a computation with the events it reported, in order. -/
structure Reported (ε α : Type) where
  outcome : Except ε α
  events : List Log.Event

namespace Reported

variable {ε ε' α β γ : Type}

def ofExcept (outcome : Except ε α) : Reported ε α := ⟨outcome, []⟩

def value (value : α) : Reported ε α := ⟨.ok value, []⟩

def fail (failure : ε) : Reported ε α := ⟨.error failure, []⟩

def report (event : Log.Event) : Reported ε Unit := ⟨.ok (), [event]⟩

def andThen (first : Reported ε α) (next : α → Reported ε β) : Reported ε β :=
  match first.outcome with
  | .error failure => ⟨.error failure, first.events⟩
  | .ok value => ⟨(next value).outcome, first.events ++ (next value).events⟩

instance : Monad (Reported ε) where
  pure := value
  bind := andThen

instance : MonadExceptOf ε (Reported ε) where
  throw := fail
  tryCatch first handle :=
    match first.outcome with
    | .ok _ => first
    | .error failure => ⟨(handle failure).outcome, first.events ++ (handle failure).events⟩

def mapError (change : ε → ε') (computation : Reported ε α) : Reported ε' α :=
  ⟨computation.outcome.mapError change, computation.events⟩

@[simp] theorem outcome_pure (value : α) : (pure value : Reported ε α).outcome = .ok value := rfl

@[simp] theorem events_pure (value : α) : (pure value : Reported ε α).events = [] := rfl

/-- The outcome of a sequence depends on the outcomes of its parts alone. -/
@[simp] theorem outcome_bind (first : Reported ε α) (next : α → Reported ε β) :
    (first >>= next).outcome = first.outcome.bind fun value => (next value).outcome := by
  cases found : first.outcome <;> simp [bind, andThen, found, Except.bind]

theorem outcome_bind_eq_ok_iff {first : Reported ε α} {next : α → Reported ε β} {result : β} :
    (first >>= next).outcome = .ok result ↔
      ∃ value, first.outcome = .ok value ∧ (next value).outcome = .ok result := by
  cases found : first.outcome <;> simp [found, Except.bind]

theorem exists_outcome_bind {first : Reported ε α} {next : α → Reported ε β} {value : α}
    (given : first.outcome = .ok value) (rest : ∃ result, (next value).outcome = .ok result) :
    ∃ result, (first >>= next).outcome = .ok result := by
  rcases rest with ⟨result, succeeded⟩
  exact ⟨result, outcome_bind_eq_ok_iff.mpr ⟨value, given, succeeded⟩⟩

@[simp] theorem outcome_report (event : Log.Event) :
    (report event : Reported ε Unit).outcome = .ok () := rfl

@[simp] theorem outcome_ofExcept (outcome : Except ε α) :
    (ofExcept outcome).outcome = outcome := rfl

@[simp] theorem outcome_mapError (change : ε → ε') (computation : Reported ε α) :
    (mapError change computation).outcome = computation.outcome.mapError change := rfl

theorem outcome_mapError_eq_ok_iff {change : ε → ε'} {computation : Reported ε α} {result : α} :
    (mapError change computation).outcome = .ok result ↔ computation.outcome = .ok result := by
  rw [outcome_mapError]
  cases computation.outcome with
  | error failure =>
      have changed : (Except.error failure : Except ε α).mapError change =
        .error (change failure) :=
        rfl
      rw [changed]
      exact iff_of_false (by simp) (by simp)
  | ok value =>
      have kept : (Except.ok value : Except ε α).mapError change = .ok value := rfl
      rw [kept, Except.ok.injEq, Except.ok.injEq]

/-! ## Sequences of reports -/

theorem map_id (computation : Reported ε α) : id <$> computation = computation := by
  rcases computation with ⟨outcome, events⟩
  cases outcome <;> simp [Functor.map, andThen, value]

private theorem value_andThen (given : α) (next : α → Reported ε β) :
    (value given).andThen next = next given := by
  simp [value, andThen]

theorem andThen_assoc (first : Reported ε α) (next : α → Reported ε β)
    (last : β → Reported ε γ) :
    (first.andThen next).andThen last = first.andThen fun given => (next given).andThen last := by
  rcases first with ⟨outcome, events⟩
  cases outcome with
  | error failure => rfl
  | ok given => cases further : (next given).outcome <;> simp [andThen, further]

scoped instance : LawfulMonad (Reported ε) :=
  .mk' (Reported ε) map_id value_andThen andThen_assoc

end Reported

end ImportAtlas
