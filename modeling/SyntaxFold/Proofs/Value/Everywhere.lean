import SyntaxFold.Proofs.Entries
import SyntaxFold.Proofs.Operator
import SyntaxFold.Proofs.Outcome
import SyntaxFold.Reduction.Member

/-!
# Properties that hold everywhere in a value

A value contains others: the items of a sequence, the values of a mapping, and what a function has
captured. `Value.Everywhere` says that a property holds of a value and of all that it contains, to
any depth. An `Invariant` is a property of single values that all values have which a reduction
makes on its own, numbers included; the operations on values keep it everywhere.
-/

namespace SyntaxFold

open Outcome

/-- The values that a function has captured. -/
def Callable.captured : Callable → List Value
  | mapItems items => items
  | constant _ entries => Entries.values entries
  | _ => []

/-- A foreign function, of which nothing is known. -/
def Callable.IsForeign : Callable → Prop
  | custom _ _ (.foreign _) => True
  | _ => False

namespace Value

/-- The values directly inside a value. -/
def inner : Value → List Value
  | sequence items => items
  | mapping entries => Entries.values entries
  | function _ body => body.captured
  | _ => []

/-- A property holds of a value and of every value inside it. -/
inductive Everywhere (holds : Value → Prop) : Value → Prop
  | intro {value : Value} :
      holds value → (∀ part ∈ value.inner, Everywhere holds part) → Everywhere holds value

variable {holds : Value → Prop}

theorem Everywhere.here {value : Value} (everywhere : Everywhere holds value) : holds value := by
  cases everywhere with
  | intro here _ => exact here

theorem Everywhere.inside {value part : Value} (everywhere : Everywhere holds value)
    (member : part ∈ value.inner) : Everywhere holds part := by
  cases everywhere with
  | intro _ inside => exact inside part member

theorem Everywhere.imp {weaker : Value → Prop} {value : Value}
    (everywhere : Everywhere holds value) (imp : ∀ value, holds value → weaker value) :
    Everywhere weaker value := by
  induction everywhere with
  | intro here _ ih => exact .intro (imp _ here) ih

/-- The second value is the first one or lies inside it, to any depth. -/
inductive Contains : Value → Value → Prop
  | self (value : Value) : Contains value value
  | inside {value part other : Value} :
      part ∈ value.inner → Contains part other → Contains value other

theorem Everywhere.of_contains {value part : Value} (everywhere : Everywhere holds value)
    (contains : value.Contains part) : Everywhere holds part := by
  induction contains with
  | self value => exact everywhere
  | inside member _ ih => exact ih (everywhere.inside member)

/-- A property of single values that a reduction never breaks on its own: only floats, nodes and
foreign functions can fail it, and no number that a reduction computes does. -/
structure Invariant (holds : Value → Prop) : Prop where
  null : holds .null
  bool : ∀ value, holds (.bool value)
  integer : ∀ value, holds (.integer value)
  string : ∀ text, holds (.string text)
  sequence : ∀ items, holds (.sequence items)
  mapping : ∀ entries, holds (.mapping entries)
  number : ∀ value, holds (.number value)
  overflow : ∀ value : Int64, Numeral.int64OfInt? (-value.toInt) = none →
    holds (.float (-floatOfInt64 value))
  function : ∀ stamp body, ¬ body.IsForeign → holds (.function stamp body)
  foreign : ∀ stamp body, body.IsForeign → ¬ holds (.function stamp body)

namespace Invariant

variable (invariant : Invariant holds)
include invariant

theorem everywhere_null : Everywhere holds .null :=
  .intro invariant.null fun _ member => by cases member

theorem everywhere_bool (value : Bool) : Everywhere holds (.bool value) :=
  .intro (invariant.bool value) fun _ member => by cases member

theorem everywhere_integer (value : Int64) : Everywhere holds (.integer value) :=
  .intro (invariant.integer value) fun _ member => by cases member

theorem everywhere_string (text : String) : Everywhere holds (.string text) :=
  .intro (invariant.string text) fun _ member => by cases member

theorem everywhere_number (value : Float) : Everywhere holds (.number value) := by
  refine .intro (invariant.number value) fun part member => ?_
  unfold Value.number at member
  split at member <;> cases member

theorem everywhere_sequence {items : List Value}
    (every : ∀ item ∈ items, Everywhere holds item) : Everywhere holds (.sequence items) :=
  .intro (invariant.sequence items) every

theorem everywhere_mapping {entries : List (String × Value)}
    (every : ∀ value ∈ Entries.values entries, Everywhere holds value) :
    Everywhere holds (.mapping entries) :=
  .intro (invariant.mapping entries) every

theorem everywhere_function (body : Callable) (known : ¬ body.IsForeign)
    (every : ∀ value ∈ body.captured, Everywhere holds value) (stamp : Nat) :
    Everywhere holds (.function stamp body) :=
  .intro (invariant.function stamp body known) every

theorem everywhere_computed {value : Value} (computed : Computed value) :
    Everywhere holds value := by
  cases computed with
  | integer value => exact invariant.everywhere_integer value
  | string text => exact invariant.everywhere_string text
  | number value => exact invariant.everywhere_number value
  | overflow value overflows =>
      refine .intro (invariant.overflow value overflows) ?_
      intro part member
      cases member

/-! ## Members and elements -/

theorem sequenceMember {items : List Value} (every : ∀ item ∈ items, Everywhere holds item)
    (name : String) : Ensures (Everywhere holds) (SyntaxFold.sequenceMember items name) := by
  unfold SyntaxFold.sequenceMember
  split
  · exact ensures_ok (invariant.everywhere_integer _)
  · exact ensures_ok (invariant.everywhere_function (.mapItems items) id every 0)
  · exact ensures_error _

theorem mappingMember {entries : List (String × Value)}
    (every : ∀ value ∈ Entries.values entries, Everywhere holds value) (name : String) :
    Ensures (Everywhere holds) (SyntaxFold.mappingMember entries name) := by
  unfold SyntaxFold.mappingMember
  split
  · exact ensures_ok (invariant.everywhere_integer _)
  · exact ensures_ok (invariant.everywhere_function (.constant _ entries) id every 0)
  · exact ensures_ok (invariant.everywhere_function (.constant _ entries) id every 0)
  · exact ensures_error _

omit invariant in
theorem elementOf {base : Value} (every : Everywhere holds base) (index : Value) :
    Ensures (Everywhere holds) (SyntaxFold.elementOf base index) := by
  unfold SyntaxFold.elementOf
  split
  · split
    · next found =>
        refine ensures_ok (every.inside ?_)
        split at found
        · exact List.mem_of_getElem? found
        · cases found
    · exact ensures_error _
  case h_2 | h_3 =>
    dsimp only
    split
    · next found => exact ensures_ok (every.inside (Entries.mem_values_of_get? found))
    · exact ensures_error _
  · exact ensures_error _

end Invariant

end Value

end SyntaxFold
