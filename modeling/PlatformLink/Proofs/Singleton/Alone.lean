import PlatformLink.Singleton.Lazy

/-!
# A caller who meets nobody

`Got` says once what getting a value alone can do to a cell; what holds of a cell between two
callers is a case analysis over it.
-/

namespace PlatformLink.Singleton.LazyCell

variable {τ α : Type}

/-- A published value is given back; otherwise the factory runs once, and what it makes is
published. -/
inductive Got (make : τ → Outcome α × τ) (c : LazyCell τ α) :
    Outcome (Instance α) → LazyCell τ α → Prop where
  | found {i : Instance α} (h : c.published = some i) : Got make c (.ok i) c
  | made {x : α} {t : τ} (h : c.published = none) (hmake : make c.factoryState = (.ok x, t)) :
      Got make c (.ok ⟨c.runs + 1, x⟩) ⟨t, some ⟨c.runs + 1, x⟩, c.holder, c.runs + 1⟩
  | failed {e : LinkError} {t : τ} (h : c.published = none)
      (hmake : make c.factoryState = (.error e, t)) :
      Got make c (.error e) ⟨t, none, c.holder, c.runs + 1⟩

theorem got_getAlone (make : τ → Outcome α × τ) (c : LazyCell τ α) :
    Got make c (c.getAlone make).1 (c.getAlone make).2 := by
  cases hp : c.published with
  | some i =>
    rw [getAlone_of_published make hp]
    exact .found hp
  | none =>
    rcases hmake : make c.factoryState with ⟨e | x, t⟩
    · rw [getAlone_of_failed hp hmake]
      exact .failed hp hmake
    · rw [getAlone_of_made hp hmake]
      exact .made hp hmake

namespace Got

variable {make : τ → Outcome α × τ} {c c' : LazyCell τ α} {r : Outcome (Instance α)}

theorem published_of_ok {i : Instance α} (h : Got make c (.ok i) c') : c'.published = some i := by
  cases h with
  | found h => exact h
  | made h hmake => rfl

theorem published_of_error {e : LinkError} (h : Got make c (.error e) c') :
    c'.published = none := by
  cases h with
  | failed h hmake => rfl

theorem make_of_error {e : LinkError} (h : Got make c (.error e) c') :
    (make c.factoryState).1 = .error e := by
  cases h with
  | failed h hmake => rw [hmake]

/-- What was published stays. -/
theorem published_of_published {i : Instance α} (h : Got make c r c')
    (hi : c.published = some i) : c'.published = some i := by
  cases h with
  | found h => exact hi
  | made h hmake
  | failed h hmake =>
    rw [h] at hi
    cases hi

/-- What is published was there, or the factory has just made it. -/
theorem make_of_published {i : Instance α} (h : Got make c r c') (hi : c'.published = some i) :
    c.published = some i ∨ (make c.factoryState).1 = .ok i.value := by
  cases h with
  | found h => exact .inl hi
  | made h hmake =>
    rw [← Option.some.inj hi, hmake]
    exact .inr rfl
  | failed h hmake => cases hi

theorem holder_eq (h : Got make c r c') : c'.holder = c.holder := by
  cases h <;> rfl

theorem runs_of_ok {i : Instance α} (h : Got make c (.ok i) c') :
    c'.runs + c.isInitialized.toNat = c.runs + c'.isInitialized.toNat := by
  cases h with
  | found h => rfl
  | made h hmake => simp [isInitialized, h]

theorem runs_of_error {e : LinkError} (h : Got make c (.error e) c') :
    c'.runs + c.isInitialized.toNat = c.runs + c'.isInitialized.toNat + 1 := by
  cases h with
  | failed h hmake => simp [isInitialized, h]

end Got

end PlatformLink.Singleton.LazyCell
