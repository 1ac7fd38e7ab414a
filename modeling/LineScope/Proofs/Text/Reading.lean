set_option autoImplicit false

namespace LineScope

variable {ε α β : Type} {action : Except ε α} {next : α → Except ε β}

theorem bind_ok {result : β} (bound : action >>= next = .ok result) :
    ∃ value, action = .ok value ∧ next value = .ok result := by
  cases action with
  | error error => cases bound
  | ok value => exact ⟨value, rfl, bound⟩

theorem bind_error {error : ε} (bound : action >>= next = .error error) :
    action = .error error ∨ ∃ value, action = .ok value ∧ next value = .error error := by
  cases action with
  | error other =>
      cases bound
      exact .inl rfl
  | ok value => exact .inr ⟨value, rfl, bound⟩

theorem ok_bind (value : α) (next : α → Except ε β) : Except.ok value >>= next = next value := rfl

end LineScope
