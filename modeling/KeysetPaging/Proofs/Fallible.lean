/-!
# Fallible steps

A sequence of fallible steps succeeds when every step does, and has the fault of
the first one that does not.  The equations here open the sequences that the
library's functions are written as.
-/

namespace KeysetPaging.Fallible

variable {ε α β : Type}

@[simp] theorem ok_bind (value : α) (next : α → Except ε β) :
    (Except.ok value >>= next) = next value := rfl

@[simp] theorem error_bind (fault : ε) (next : α → Except ε β) :
    (Except.error fault >>= next) = .error fault := rfl

theorem bind_eq_ok_iff {step : Except ε α} {next : α → Except ε β}
    {result : β} :
    (step >>= next) = .ok result ↔
      ∃ value, step = .ok value ∧ next value = .ok result := by
  cases step with
  | error fault => simp
  | ok value => simp

theorem map_eq_ok_iff {step : Except ε α} {change : α → β} {result : β} :
    step.map change = .ok result ↔
      ∃ value, step = .ok value ∧ change value = result := by
  cases step with
  | error fault => simp [Except.map]
  | ok value => simp [Except.map]

theorem mapError_eq_ok_iff {step : Except ε α} {retell : ε → β} {value : α} :
    step.mapError retell = .ok value ↔ step = .ok value := by
  cases step with
  | error fault =>
      constructor
      · rintro ⟨⟩
      · rintro ⟨⟩
  | ok held =>
      constructor
      · rintro ⟨⟩
        rfl
      · rintro ⟨⟩
        rfl

/-- The fault of a step, if it has one. -/
def fault? : Except ε α → Option ε
  | .error fault => some fault
  | .ok _ => none

theorem fault?_eq_some_iff {step : Except ε α} {fault : ε} :
    fault? step = some fault ↔ step = .error fault := by
  cases step with
  | error held => simp [fault?]
  | ok value => simp [fault?]

theorem fault?_eq_none_iff {step : Except ε α} :
    fault? step = none ↔ ∃ value, step = .ok value := by
  cases step with
  | error fault => simp [fault?]
  | ok value => simp [fault?]

theorem fault?_map (step : Except ε α) (change : α → β) :
    fault? (step.map change) = fault? step := by
  cases step <;> rfl

theorem fault?_mapError {ζ : Type} (step : Except ε α) (retell : ε → ζ) :
    fault? (step.mapError retell) = (fault? step).map retell := by
  cases step <;> rfl

theorem fault?_bind_ok (step : Except ε α) (change : α → β) :
    fault? (step >>= fun value => .ok (change value)) = fault? step := by
  cases step <;> rfl

/-- Of two steps of which both are taken, the first one with a fault counts. -/
theorem fault?_both {γ : Type} (first : Except ε α) (second : Except ε β)
    (join : α → β → γ) :
    fault? (first >>= fun left => second >>= fun right => .ok (join left right)) =
      (fault? first).or (fault? second) := by
  cases first with
  | error fault => rfl
  | ok value => exact fault?_bind_ok second (join value)

/-- Two steps end alike when both have the same fault, or both succeed with
values that are alike. -/
inductive EndsAlike (alike : α → α → Prop) :
    Except ε α → Except ε α → Prop where
  | fault (fault : ε) : EndsAlike alike (.error fault) (.error fault)
  | value {left right : α} :
      alike left right → EndsAlike alike (.ok left) (.ok right)

namespace EndsAlike

variable {alike : α → α → Prop}

theorem refl (each : ∀ value, alike value value) (step : Except ε α) :
    EndsAlike alike step step := by
  cases step with
  | error fault => exact .fault fault
  | ok value => exact .value (each value)

theorem trans
    (transitive : ∀ left middle right, alike left middle →
      alike middle right → alike left right)
    {left middle right : Except ε α} (first : EndsAlike alike left middle)
    (second : EndsAlike alike middle right) : EndsAlike alike left right := by
  cases first with
  | fault fault => exact second
  | value near =>
      cases second with
      | value far => exact .value (transitive _ _ _ near far)

theorem bind {left right : Except ε α} {leftNext rightNext : α → Except ε α}
    (ends : EndsAlike alike left right)
    (next : ∀ {left right}, alike left right →
      EndsAlike alike (leftNext left) (rightNext right)) :
    EndsAlike alike (left >>= leftNext) (right >>= rightNext) := by
  cases ends with
  | fault fault => exact .fault fault
  | value related => exact next related

theorem exists_of_ok {left : Except ε α} {right : α}
    (ends : EndsAlike alike left (.ok right)) :
    ∃ value, left = .ok value ∧ alike value right := by
  cases ends with
  | value related => exact ⟨_, rfl, related⟩

/-- A loop that is started at values that are alike ends alike, if its step
does. -/
theorem foldlM {step : α → β → Except ε α}
    (respects : ∀ {left right} item, alike left right →
      EndsAlike alike (step left item) (step right item))
    (items : List β) {left right : α} (start : alike left right) :
    EndsAlike alike (items.foldlM step left) (items.foldlM step right) := by
  induction items generalizing left right with
  | nil => exact .value start
  | cons item items induction =>
      rw [List.foldlM_cons, List.foldlM_cons]
      exact (respects item start).bind induction

end EndsAlike

end KeysetPaging.Fallible
