import XmlGraft.Fault

/-!
# Outcomes — taking a chain of operations apart

Operations that can be refused are chained, and the chain succeeds exactly when each link does. The
laws here take a successful chain apart into its links, and put links together again.
-/

namespace XmlGraft

/-- A chain succeeds when its first link does and the rest does with what that gave. -/
theorem bind_eq_ok {ε α β : Type _} {x : Except ε α} {f : α → Except ε β} {b : β} :
    x >>= f = .ok b ↔ ∃ a, x = .ok a ∧ f a = .ok b := by
  cases x with
  | error e =>
    constructor
    · intro h
      cases h
    · rintro ⟨_, h, _⟩
      cases h
  | ok a =>
    constructor
    · intro h
      exact ⟨a, rfl, h⟩
    · rintro ⟨_, h, rest⟩
      cases h
      exact rest

/-- A result is changed only where there is one. -/
theorem map_eq_ok {ε α β : Type _} {x : Except ε α} {f : α → β} {b : β} :
    x.map f = .ok b ↔ ∃ a, x = .ok a ∧ f a = b := by
  cases x with
  | error e =>
    constructor
    · intro h
      cases h
    · rintro ⟨_, h, _⟩
      cases h
  | ok a =>
    constructor
    · intro h
      exact ⟨a, rfl, Except.ok.inj h⟩
    · rintro ⟨_, h, rfl⟩
      cases h
      rfl

/-- A chain is refused where its first link is, or where the rest is with what that gave. -/
theorem bind_eq_error {ε α β : Type _} {x : Except ε α} {f : α → Except ε β} {e : ε} :
    x >>= f = .error e ↔ x = .error e ∨ ∃ a, x = .ok a ∧ f a = .error e := by
  cases x with
  | error other =>
    constructor
    · exact fun refused => .inl (congrArg _ (Except.error.inj refused))
    · rintro (refused | ⟨_, none, _⟩)
      · exact congrArg _ (Except.error.inj refused)
      · cases none
  | ok a =>
    constructor
    · exact fun refused => .inr ⟨a, rfl, refused⟩
    · rintro (none | ⟨_, same, refused⟩)
      · cases none
      · cases same
        exact refused

/-- Where there is no result, none is changed. -/
theorem map_eq_error {ε α β : Type _} {x : Except ε α} {f : α → β} {e : ε} :
    x.map f = .error e ↔ x = .error e := by
  cases x with
  | error other => exact ⟨fun same => congrArg _ (Except.error.inj same), fun same => by
      rw [same]; rfl⟩
  | ok a => exact iff_of_false nofun nofun

/-- Two results are put together where there are both. -/
theorem both_eq_ok {ε α β γ : Type _} {x : Except ε α} {y : Except ε β} {f : α → β → γ} {c : γ} :
    (x >>= fun a => y >>= fun b => .ok (f a b)) = .ok c ↔
      ∃ a b, x = .ok a ∧ y = .ok b ∧ c = f a b := by
  constructor
  · intro h
    obtain ⟨a, first, rest⟩ := bind_eq_ok.mp h
    obtain ⟨b, second, same⟩ := bind_eq_ok.mp rest
    exact ⟨a, b, first, second, (Except.ok.inj same).symm⟩
  · rintro ⟨a, b, rfl, rfl, rfl⟩
    rfl

@[simp] theorem ok_bind {ε α β : Type _} (a : α) (f : α → Except ε β) :
    (Except.ok a >>= f) = f a := rfl

@[simp] theorem error_bind {ε α β : Type _} (e : ε) (f : α → Except ε β) :
    ((Except.error e : Except ε α) >>= f) = .error e := rfl

@[simp] theorem ok_map {ε α β : Type _} (a : α) (f : α → β) :
    (Except.ok a : Except ε α).map f = .ok (f a) := rfl

@[simp] theorem error_map {ε α β : Type _} (e : ε) (f : α → β) :
    (Except.error e : Except ε α).map f = .error e := rfl

end XmlGraft
