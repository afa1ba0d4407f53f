import SyntaxFold.Proofs.Function.Call
import SyntaxFold.Proofs.Value.Everywhere

/-!
# Calls keep what holds everywhere

A function that is not foreign returns a number, one of its arguments or something that it has
captured, or puts such values together anew. So a property that holds everywhere in the function and
in its arguments holds everywhere in the result. The proof follows the recursion of calls: the only
function that calls others is `map`.
-/

namespace SyntaxFold

open Outcome

variable {holds : Value → Prop}

namespace NameMap

open Value

theorem everywhere_entryOf (invariant : Invariant holds) {record : Value}
    (every : Everywhere holds record) (index : Nat) :
    Ensures (fun entry : String × Value => Everywhere holds entry.2) (entryOf index record) := by
  unfold entryOf
  split
  · next fields =>
      split
      · refine ensures_ok (invariant.everywhere_mapping ?_)
        intro value member
        exact every.inside (Entries.mem_values_remove member)
      · exact ensures_error _
      · exact ensures_error _
  · exact ensures_error _

theorem everywhere_entriesFrom (invariant : Invariant holds) {records : List Value}
    (every : ∀ record ∈ records, Everywhere holds record) (index : Nat) :
    Ensures (fun entries => ∀ value ∈ Entries.values entries, Everywhere holds value)
      (entriesFrom index records) := by
  induction records generalizing index with
  | nil => exact ensures_ok fun _ member => by cases member
  | cons record rest ih =>
      refine ensures_bind fun entry entryOk => ensures_bind fun entries entriesOk => ?_
      refine ensures_ok ?_
      intro value member
      rcases List.mem_cons.1 member with rfl | inRest
      · exact everywhere_entryOf invariant (every record List.mem_cons_self) index entry entryOk
      · have everyRest := fun other inRest => every other (List.mem_cons_of_mem _ inRest)
        exact ih everyRest (index + 1) entries entriesOk value inRest

theorem everywhere_ofValue (invariant : Invariant holds) {argument : Value}
    (every : Everywhere holds argument) : Ensures (Everywhere holds) (ofValue argument) := by
  cases argument with
  | sequence records =>
      refine ensures_map ?_
      intro entries entriesOk
      refine invariant.everywhere_mapping ?_
      intro value member
      have fromRecords := everywhere_entriesFrom invariant (fun _ => every.inside) 0 entries
      exact fromRecords entriesOk value (Entries.mem_values_ofPairs member)
  | _ => exact ensures_error _

end NameMap

open Value

theorem everywhere_ofValues (invariant : Invariant holds) (extremum : Extremum) (best : Float)
    (arguments : List Value) :
    Ensures (Everywhere holds) (extremum.ofValues best arguments) := by
  induction arguments generalizing best with
  | nil => exact ensures_ok (invariant.everywhere_number best)
  | cons argument rest ih =>
      simp only [Extremum.ofValues]
      split
      · exact ih _
      · exact ensures_error _

theorem everywhere_run [Host] (invariant : Invariant holds) {arguments : List Value}
    (every : ∀ argument ∈ arguments, Everywhere holds argument) (name : String)
    {behaviour : Behaviour} (known : ∀ index, behaviour ≠ .foreign index) :
    Ensures (Everywhere holds) (behaviour.run name arguments) := by
  cases behaviour with
  | collect => exact ensures_ok (invariant.everywhere_sequence every)
  | first =>
      cases arguments with
      | nil => exact ensures_ok invariant.everywhere_null
      | cons argument rest => exact ensures_ok (every argument List.mem_cons_self)
  | refuse => exact ensures_error _
  | foreign index => exact absurd rfl (known index)

variable [Host]

/-- A call keeps what holds everywhere in the function and in its arguments. -/
theorem Callable.everywhere_call (invariant : Invariant holds) (function : Callable)
    (arguments : List Value) :
    ¬ function.IsForeign → (∀ value ∈ function.captured, Everywhere holds value) →
      (∀ argument ∈ arguments, Everywhere holds argument) →
        Ensures (Everywhere holds) (function.call arguments) := by
  induction function, arguments using Callable.call_induction with
  | step function arguments ih =>
      intro known captured every
      unfold Callable.call
      split
      · next argument =>
          have argumentEvery := every argument List.mem_cons_self
          exact ensures_mapError (NameMap.everywhere_ofValue invariant argumentEvery) _
      · next argument => exact ensures_ok (every argument List.mem_cons_self)
      · exact ensures_bind fun number _ => ensures_ok (invariant.everywhere_number _)
      · refine ensures_bind fun left _ => ensures_bind fun right _ => ?_
        exact ensures_ok (invariant.everywhere_number _)
      · exact everywhere_ofValues invariant _ _ _
      · exact ensures_bind fun number _ => ensures_ok (invariant.everywhere_number _)
      · next items callee =>
          have calleeEvery := every callee List.mem_cons_self
          rw [Value.callEach_eq_mapM]
          refine ensures_map fun results resultsOk => invariant.everywhere_sequence ?_
          refine ensures_mapM (fun item member => ?_) results resultsOk
          unfold Value.call
          split
          · next stamp body =>
              have bodyKnown : ¬ body.IsForeign := fun foreign =>
                invariant.foreign stamp body foreign calleeEvery.here
              refine ih items stamp body rfl rfl item member bodyKnown ?_ ?_
              · exact fun value => calleeEvery.inside
              · intro argument single
                obtain rfl := List.mem_singleton.1 single
                exact captured argument member
          · exact ensures_error _
      · exact ensures_ok (invariant.everywhere_mapping captured)
      · next name arity behaviour =>
          split
          · exact ensures_error _
          · refine everywhere_run invariant every name ?_
            rintro index rfl
            exact known trivial
      · exact ensures_error _

end SyntaxFold
