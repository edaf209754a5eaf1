namespace Turnstile.Except

/-!
# Checks in a row

What a result says about the checks that were made for it one after another.
-/

variable {ε α β : Type} {x : Except ε α} {f : α → Except ε β}

/-- Two checks in a row succeed only if both do. -/
theorem ok_of_bind {b : β} (h : (x >>= f) = .ok b) : ∃ a, x = .ok a ∧ f a = .ok b := by
  cases x with
  | error e => cases h
  | ok a => exact ⟨a, rfl, h⟩

/-- Two checks in a row fail as the first one does, or as the second one. -/
theorem error_of_bind {e : ε} (h : (x >>= f) = .error e) :
    x = .error e ∨ ∃ a, x = .ok a ∧ f a = .error e := by
  cases x with
  | error e' =>
    cases h
    exact .inl rfl
  | ok a => exact .inr ⟨a, rfl, h⟩

/-! ### Results of which only the success counts -/

theorem map_unit_eq_ok_iff : (x.map fun _ => ()) = .ok () ↔ ∃ a, x = .ok a := by
  cases x <;> simp [Except.map]

theorem map_eq_error_iff {e : ε} {tell : α → β} : x.map tell = .error e ↔ x = .error e := by
  cases x <;> simp [Except.map]

/-! ### Reasons told in another way -/

variable {tell : ε → β}

theorem mapError_eq_ok_iff {a : α} : x.mapError tell = .ok a ↔ x = .ok a := by
  cases x with
  | error e => exact ⟨nofun, nofun⟩
  | ok b =>
    show Except.ok b = Except.ok a ↔ _
    rw [Except.ok.injEq, Except.ok.injEq]

theorem mapError_eq_error_iff {b : β} : x.mapError tell = .error b ↔ ∃ e, x = .error e ∧ b = tell e := by
  cases x with
  | error e =>
    show Except.error (tell e) = Except.error b ↔ _
    simp [eq_comm]
  | ok a => exact ⟨nofun, fun ⟨_, h, _⟩ => nomatch h⟩

end Turnstile.Except
