set_option autoImplicit false

/-!
# Results of steps that may fail

What is known of the parts of a step when the whole of it has succeeded, and how steps that
follow each other are told in other words.
-/

namespace CoreArray

/-- A step that succeeds after another: the other has succeeded. -/
theorem ok_of_bind {ε α β : Type} {first : Except ε α} {next : α → Except ε β} {result : β}
    (h : (first >>= next) = .ok result) : ∃ value, first = .ok value ∧ next value = .ok result := by
  cases first with
  | error fault => simp [bind, Except.bind] at h
  | ok value => exact ⟨value, rfl, h⟩

theorem ok_of_map {ε α β : Type} {first : Except ε α} {f : α → β} {result : β}
    (h : first.map f = .ok result) : ∃ value, first = .ok value ∧ f value = result := by
  cases first with
  | error fault => simp [Except.map] at h
  | ok value =>
      rw [Except.map, Except.ok.injEq] at h
      exact ⟨value, rfl, h⟩

theorem ok_of_mapError {ε δ α : Type} {first : Except ε α} {f : ε → δ} {result : α}
    (h : first.mapError f = .ok result) : first = .ok result := by
  cases first with
  | error fault => nomatch h
  | ok value => exact congrArg Except.ok (Except.ok.inj h)

theorem error_of_mapError {ε δ α : Type} {first : Except ε α} {f : ε → δ} {fault : δ}
    (h : first.mapError f = .error fault) : ∃ reason, first = .error reason ∧ f reason = fault := by
  cases first with
  | error reason => exact ⟨reason, rfl, Except.error.inj h⟩
  | ok value => nomatch h

/-- Faults may be told in other words at the end or at each step. -/
theorem mapError_bind {ε δ α β : Type} (first : Except ε α) (next : α → Except ε β) (f : ε → δ) :
    (first >>= next).mapError f = first.mapError f >>= fun value => (next value).mapError f := by
  cases first <;> rfl

theorem mapError_map {ε δ α β : Type} (first : Except ε α) (g : α → β) (f : ε → δ) :
    (first.map g).mapError f = (first.mapError f).map g := by
  cases first <;> rfl

theorem toOption_mapError {ε δ α : Type} (first : Except ε α) (f : ε → δ) :
    (first.mapError f).toOption = first.toOption := by
  cases first <;> rfl

theorem toOption_map {ε α β : Type} (first : Except ε α) (f : α → β) :
    (first.map f).toOption = first.toOption.map f := by
  cases first <;> rfl

theorem toOption_bind {ε α β : Type} (first : Except ε α) (next : α → Except ε β) :
    (first >>= next).toOption = first.toOption.bind fun value => (next value).toOption := by
  cases first <;> rfl

theorem toOption_eq_some_iff {ε α : Type} {result : Except ε α} {value : α} :
    result.toOption = some value ↔ result = .ok value := by
  cases result <;> simp [Except.toOption]

theorem eq_ok_getD {ε α : Type} {result : Except ε α} (h : result.isOk = true) (other : α) :
    result = .ok (result.toOption.getD other) := by
  cases result with
  | error fault => simp [Except.isOk, Except.toBool] at h
  | ok value => rfl

end CoreArray
