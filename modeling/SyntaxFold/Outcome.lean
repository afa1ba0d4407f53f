/-!
# Outcomes

Computations that can fail end in `Except`. These lemmas say when a chain of such computations
succeeds.
-/

namespace SyntaxFold

variable {ε α β : Type}

/-- A sequence succeeds exactly when its first step does and then its second on that result. -/
theorem bind_eq_ok_iff {first : Except ε α} {next : α → Except ε β} {result : β} :
    (first >>= next) = .ok result ↔ ∃ value, first = .ok value ∧ next value = .ok result := by
  cases first <;> simp [bind, Except.bind]

/-- A mapped computation succeeds exactly when the computation does. -/
theorem map_eq_ok_iff {first : Except ε α} {image : α → β} {result : β} :
    (image <$> first) = .ok result ↔ ∃ value, first = .ok value ∧ image value = result := by
  cases first <;> simp [Functor.map, Except.map]

/-- A pure computation succeeds with its value. -/
theorem pure_eq_ok_iff {value result : α} :
    (pure value : Except ε α) = .ok result ↔ value = result := by
  simp [pure, Except.pure]

end SyntaxFold
