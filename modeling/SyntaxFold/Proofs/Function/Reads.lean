import SyntaxFold.Proofs.Function.Termination

/-!
# What calls read

A call gets the arguments as a list, and the body of a function takes those that it needs by their
positions. That they are there is for the arity to ensure, which is recorded apart from the body and
compared with the number of arguments before the body starts. Here calls are carried out in this
way, with a record of what happens: which bodies start, on how many arguments, and which positions
they read. A position without an argument would end such a run in a halt of its own, which no call
has an outcome for.

The runs give what calls give, so no position is missing. `map` is where this is not only a matter
of one function: it calls any value on one argument, also one that takes two or any number.
-/

namespace SyntaxFold

open Outcome

/-- A function of a fixed arity and another number of arguments. -/
def Callable.Mismatched (function : Callable) (arguments : List Value) : Prop :=
  0 ≤ function.arity ∧ arguments.length ≠ function.arity.toNat

instance (function : Callable) (arguments : List Value) :
    Decidable (function.Mismatched arguments) :=
  inferInstanceAs (Decidable (_ ∧ _))

namespace Callable

/-- The arguments that the body of a function is written for. -/
inductive Takes : Callable → List Value → Prop
  | nameMap (argument : Value) : Takes .nameMap [argument]
  | standIn (name : String) (argument : Value) : Takes (.standIn name) [argument]
  | unaryMath (math : UnaryMath) (argument : Value) : Takes (.unaryMath math) [argument]
  | binaryMath (math : BinaryMath) (left right : Value) : Takes (.binaryMath math) [left, right]
  | extremum (extremum : Extremum) (arguments : List Value) : Takes (.extremum extremum) arguments
  | logarithm (base : LogBase) (scale : Float) (argument : Value) :
      Takes (.logarithm base scale) [argument]
  | mapItems (items : List Value) (callee : Value) : Takes (.mapItems items) [callee]
  | constant (name : String) (entries : List (String × Value)) (arguments : List Value) :
      Takes (.constant name entries) arguments
  | custom (name : String) (arity : Int) (behaviour : Behaviour) (arguments : List Value) :
      ¬ (Callable.custom name arity behaviour).Mismatched arguments →
        Takes (.custom name arity behaviour) arguments

/-- A call whose number of arguments is right gives a body what it is written for. -/
theorem takes_of_not_mismatched {function : Callable} {arguments : List Value}
    (matched : ¬ function.Mismatched arguments) : function.Takes arguments := by
  have length {expected : Nat} (fixed : function.arity = expected) :
      arguments.length = expected := by
    unfold Mismatched at matched
    rw [fixed] at matched
    exact Decidable.byContradiction fun different => matched ⟨Int.natCast_nonneg _, different⟩
  have one (fixed : function.arity = (1 : Nat)) : ∃ argument, arguments = [argument] :=
    List.length_eq_one_iff.1 (length fixed)
  cases function with
  | nameMap | standIn _ | unaryMath _ | logarithm _ _ | mapItems _ =>
      obtain ⟨argument, rfl⟩ := one rfl
      constructor
  | binaryMath math =>
      have two : arguments.length = 2 := length rfl
      obtain ⟨left, right, rfl⟩ := List.length_eq_two.1 two
      constructor
  | extremum extremum | constant name entries => constructor
  | custom name arity behaviour => exact .custom name arity behaviour arguments matched

end Callable

/-! ## Traces -/

/-- What happens during a call. -/
inductive CallEvent where
  /-- The body of a function starts, on so many arguments. -/
  | starts (function : Callable) (given : Nat)
  /-- A body reads the argument at a position, of so many. -/
  | reads (position given : Nat)

/-- Why a traced call has no value. -/
inductive Halt where
  | failed (error : FoldError)
  /-- No argument is at the position that is read. -/
  | missing (position : Nat)

/-- A computation with what happens during it, in order. -/
structure Trace (α : Type) where
  events : List CallEvent
  outcome : Except Halt α

namespace Trace

variable {α β : Type}

/-- One computation after the other, which does not begin if the first one halts. -/
def bind (first : Trace α) (next : α → Trace β) : Trace β :=
  match first.outcome with
  | .ok value => ⟨first.events ++ (next value).events, (next value).outcome⟩
  | .error halt => ⟨first.events, .error halt⟩

instance : Monad Trace where
  pure value := ⟨[], .ok value⟩
  bind := bind

/-- A computation during which nothing happens. -/
def lift (outcome : Except FoldError α) : Trace α := ⟨[], outcome.mapError .failed⟩

/-- An event by itself. -/
def log (event : CallEvent) : Trace Unit := ⟨[event], .ok ()⟩

/-- Reads the argument at a position. -/
def read (arguments : List Value) (position : Nat) : Trace {value // value ∈ arguments} where
  events := [.reads position arguments.length]
  outcome :=
    if inside : position < arguments.length then
      .ok ⟨arguments[position], List.getElem_mem inside⟩
    else .error (.missing position)

/-- Reads the argument at a position, which must be a number. -/
def readNumber (name : String) (arguments : List Value) (position : Nat) : Trace Float := do
  let argument ← read arguments position
  lift (numberArgument name argument.1)

/-- The extremum of the best number so far and the arguments from a position on. -/
def extremumFrom (extremum : Extremum) (arguments : List Value) (position : Nat) (best : Float) :
    Trace Value :=
  if position < arguments.length then do
    let number ← readNumber (mathName extremum.name) arguments position
    extremumFrom extremum arguments (position + 1) (extremum.pick best number)
  else
    return .number best
termination_by arguments.length - position

/-- Starts the body of a function, once the number of arguments is known to be right. -/
def checked (function : Callable) (arguments : List Value) (body : Trace Value) : Trace Value :=
  if function.Mismatched arguments then
    lift (.error (function.mismatch arguments))
  else do
    log (.starts function arguments.length)
    body

end Trace

section Calls

variable [Host]

mutual

/-- The body of a function. One of the caller's own is handed all of its arguments. -/
def Callable.traceBody (function : Callable) (arguments : List Value) : Trace Value :=
  match function with
  | .nameMap => do
    let argument ← Trace.read arguments 0
    Trace.lift ((NameMap.ofValue argument.1).mapError (.callFailed "toNameMap"))
  | .standIn _ => do
    let argument ← Trace.read arguments 0
    return argument.1
  | .unaryMath math => do
    let number ← Trace.readNumber (mathName math.name) arguments 0
    return .number (math.apply number)
  | .binaryMath math => do
    let left ← Trace.readNumber (mathName math.name) arguments 0
    let right ← Trace.readNumber (mathName math.name) arguments 1
    return .number (math.apply left right)
  | .extremum extremum => Trace.extremumFrom extremum arguments 0 extremum.start
  | .logarithm base scale => do
    let number ← Trace.readNumber base.formulaName arguments 0
    return .number (scale * base.log number)
  | .mapItems items => do
    let results ← Value.traceEach arguments items
    return .sequence results
  | .constant _ entries => return .mapping entries
  | .custom name _ behaviour => Trace.lift (behaviour.run name arguments)
termination_by sizeOf function + sizeOf arguments

/-- A call of a value, which must be a function. -/
def Value.trace (callee : Value) (arguments : List Value) : Trace Value :=
  match callee with
  | .function _ body => Trace.checked body arguments (Callable.traceBody body arguments)
  | other => Trace.lift (.error (.notCallable (.ofType other.type)))
termination_by sizeOf callee + sizeOf arguments

/-- Calls of the first argument on each item, for each of which it is read anew. -/
def Value.traceEach (arguments : List Value) (items : List Value) : Trace (List Value) :=
  match items with
  | [] => return []
  | item :: rest => do
    let callee ← Trace.read arguments 0
    let result ← Value.trace callee.1 [item]
    let results ← Value.traceEach arguments rest
    return result :: results
termination_by sizeOf arguments + sizeOf items
decreasing_by
  · have smaller := List.sizeOf_lt_of_mem callee.2
    have := one_le_sizeOf rest
    simp only [List.cons.sizeOf_spec, List.nil.sizeOf_spec]
    omega
  · simp only [List.cons.sizeOf_spec]
    omega

end

/-- A call of a function. -/
def Callable.trace (function : Callable) (arguments : List Value) : Trace Value :=
  Trace.checked function arguments (function.traceBody arguments)

end Calls

theorem Extremum.ofValues_cons (extremum : Extremum) (best : Float) (argument : Value)
    (rest : List Value) :
    extremum.ofValues best (argument :: rest) =
      numberArgument (mathName extremum.name) argument >>= fun number =>
        extremum.ofValues (extremum.pick best number) rest := by
  rw [ofValues]
  cases numberArgument (mathName extremum.name) argument <;> rfl

/-! ## Traces that follow an outcome -/

/-- A computation has the given outcome, and in it every position that is read has an argument, and
every body that starts has one argument. -/
structure Trace.Follows {α : Type} (trace : Trace α) (outcome : Except FoldError α) : Prop where
  erased : trace.outcome = outcome.mapError .failed
  inRange : ∀ position given, .reads position given ∈ trace.events → position < given
  single : ∀ function given, .starts function given ∈ trace.events → given = 1

namespace Trace

variable {α β : Type}

theorem follows_lift (outcome : Except FoldError α) : (lift outcome).Follows outcome where
  erased := rfl
  inRange _ _ absent := by cases absent
  single _ _ absent := by cases absent

theorem follows_pure (value : α) : (pure value : Trace α).Follows (.ok value) :=
  follows_lift (.ok value)

theorem mem_events_bind {first : Trace α} {next : α → Trace β} {event : CallEvent}
    (member : event ∈ (first >>= next).events) :
    event ∈ first.events ∨ ∃ value, first.outcome = .ok value ∧ event ∈ (next value).events := by
  change event ∈ (bind first next).events at member
  unfold bind at member
  split at member
  · next value ended =>
      rcases List.mem_append.1 member with here | later
      · exact .inl here
      · exact .inr ⟨value, ended, later⟩
  · exact .inl member

theorem follows_bind {first : Trace α} {outcome : Except FoldError α} {next : α → Trace β}
    {rest : α → Except FoldError β} (follows : first.Follows outcome)
    (onward : ∀ value, outcome = .ok value → (next value).Follows (rest value)) :
    (first >>= next).Follows (outcome >>= rest) := by
  have later (event : CallEvent) (member : event ∈ (first >>= next).events) :
      event ∈ first.events ∨ ∃ value, outcome = .ok value ∧ event ∈ (next value).events := by
    refine (mem_events_bind member).imp_right ?_
    rintro ⟨value, ended, member⟩
    rw [follows.erased] at ended
    cases outcome with
    | ok value =>
        cases ended
        exact ⟨value, rfl, member⟩
    | error error => cases ended
  constructor
  · change (bind first next).outcome = _
    rw [bind, follows.erased]
    cases outcome with
    | ok value => exact (onward value rfl).erased
    | error error => rfl
  · intro position given member
    rcases later _ member with here | ⟨value, ended, member⟩
    · exact follows.inRange position given here
    · exact (onward value ended).inRange position given member
  · intro function given member
    rcases later _ member with here | ⟨value, ended, member⟩
    · exact follows.single function given here
    · exact (onward value ended).single function given member

theorem follows_read {arguments : List Value} {position : Nat}
    (inside : position < arguments.length) :
    (read arguments position).Follows (.ok ⟨arguments[position], List.getElem_mem inside⟩) where
  erased := dif_pos inside
  inRange _ _ member := by
    cases List.mem_singleton.1 member
    exact inside
  single _ _ absent := by cases List.mem_singleton.1 absent

/-- After a computation whose value is known, only what is done with the value matters. -/
theorem follows_ok_bind {first : Trace α} {value : α} {next : α → Trace β}
    {outcome : Except FoldError β} (follows : first.Follows (.ok value))
    (onward : (next value).Follows outcome) : (first >>= next).Follows outcome := by
  refine @follows_bind α β first (.ok value) next (fun _ => outcome) follows ?_
  intro _ same
  cases same
  exact onward

/-- A body may start on one argument. -/
theorem follows_starts (function : Callable) : (log (.starts function 1)).Follows (.ok ()) where
  erased := rfl
  inRange _ _ absent := by cases List.mem_singleton.1 absent
  single _ _ member := by
    cases List.mem_singleton.1 member
    rfl

theorem follows_readNumber (name : String) {arguments : List Value} {position : Nat}
    (inside : position < arguments.length) :
    (readNumber name arguments position).Follows (numberArgument name arguments[position]) :=
  follows_ok_bind (follows_read inside) (follows_lift _)

theorem follows_extremumFrom (extremum : Extremum) (arguments : List Value) (position : Nat)
    (best : Float) :
    (extremumFrom extremum arguments position best).Follows
      (extremum.ofValues best (arguments.drop position)) := by
  fun_induction extremumFrom with
  | case1 position best inside ih =>
      rw [List.drop_eq_getElem_cons inside, Extremum.ofValues_cons]
      exact follows_bind (follows_readNumber _ inside) fun number _ => ih number
  | case2 position best outside =>
      rw [List.drop_eq_nil_of_le (Nat.le_of_not_lt outside)]
      exact follows_pure _

end Trace

/-! ## Errors about a number of arguments -/

/-- If an error is about a number of arguments, then of a call that a function made on one
argument. -/
def FoldError.FromWithin (function : Callable) (error : FoldError) : Prop :=
  ∀ name expected given, error = .arityMismatch name expected given →
    function.arity = 1 ∧ expected ≠ 1 ∧ given = 1

namespace Callable

theorem fromWithin_callFailed (function : Callable) (name : String) (fault : CallFault) :
    (FoldError.callFailed name fault).FromWithin function := by
  intro _ _ _ impossible
  cases impossible

theorem failsOnly_numberArgument (function : Callable) (name : String) (argument : Value) :
    FailsOnly (FoldError.FromWithin function) (numberArgument name argument) := by
  unfold numberArgument
  split
  · exact failsOnly_ok _
  · exact failsOnly_error (fromWithin_callFailed function _ _)

theorem failsOnly_ofValues (function : Callable) (extremum : Extremum) (best : Float)
    (arguments : List Value) :
    FailsOnly (FoldError.FromWithin function) (extremum.ofValues best arguments) := by
  induction arguments generalizing best with
  | nil => exact failsOnly_ok _
  | cons argument rest ih =>
      rw [Extremum.ofValues_cons]
      exact failsOnly_bind (failsOnly_numberArgument function _ _) fun number _ => ih _

end Callable

/-! ## Calls -/

section Calls

variable [Host]

namespace Callable

/-- A wrong number of arguments is the first thing that a call fails for. -/
theorem call_of_mismatched {function : Callable} {arguments : List Value}
    (mismatched : function.Mismatched arguments) :
    function.call arguments = .error (function.mismatch arguments) := by
  obtain ⟨fixed, different⟩ := mismatched
  rw [call_eq_rule]
  unfold rule
  split
  case h_9 => exact if_pos ⟨fixed, different⟩
  case h_10 => rfl
  case h_5 | h_8 => cases fixed
  all_goals exact absurd rfl different

/-- A call on one argument follows what its body follows. -/
theorem follows_trace_singleton {function : Callable} {item : Value}
    (body : ¬ function.Mismatched [item] →
      (function.traceBody [item]).Follows (function.call [item])) :
    (function.trace [item]).Follows (function.call [item]) := by
  unfold trace Trace.checked
  split
  · next mismatched =>
      rw [call_of_mismatched mismatched]
      exact Trace.follows_lift _
  · next matched => exact Trace.follows_ok_bind (Trace.follows_starts function) (body matched)

theorem follows_traceEach {items : List Value} {callee : Value}
    (each : ∀ item ∈ items, (callee.trace [item]).Follows (callee.call [item])) :
    (Value.traceEach [callee] items).Follows (items.mapM fun item => callee.call [item]) := by
  induction items with
  | nil =>
      rw [Value.traceEach]
      exact Trace.follows_pure []
  | cons item rest ih =>
      rw [Value.traceEach, List.mapM_cons]
      refine Trace.follows_ok_bind (Trace.follows_read Nat.one_pos) ?_
      refine Trace.follows_bind (each item List.mem_cons_self) fun result _ => ?_
      refine Trace.follows_bind (ih fun item member => each item (List.mem_cons_of_mem _ member)) ?_
      intro results _
      exact Trace.follows_pure _

theorem rule_mapItems (apply : Value → Value → Except FoldError Value) (items : List Value)
    (callee : Value) :
    (mapItems items).rule apply [callee] =
      items.mapM (apply callee) >>= fun results => .ok (.sequence results) := by
  rw [rule]
  cases items.mapM (apply callee) <;> rfl

theorem rule_custom {name : String} {arity : Int} {behaviour : Behaviour} {arguments : List Value}
    (matched : ¬ (custom name arity behaviour).Mismatched arguments)
    (apply : Value → Value → Except FoldError Value) :
    (custom name arity behaviour).rule apply arguments = behaviour.run name arguments :=
  if_neg matched

/-- Where the number of arguments is right, the body does what the call does. -/
theorem follows_traceBody (function : Callable) (arguments : List Value)
    (matched : ¬ function.Mismatched arguments) :
    (function.traceBody arguments).Follows (function.call arguments) := by
  induction function, arguments using call_induction with
  | step function arguments ih =>
      rw [call_eq_rule, traceBody.eq_def]
      cases takes_of_not_mismatched matched with
      | nameMap argument =>
          exact Trace.follows_ok_bind (Trace.follows_read Nat.one_pos) (Trace.follows_lift _)
      | standIn name argument =>
          exact Trace.follows_ok_bind (Trace.follows_read Nat.one_pos) (Trace.follows_pure _)
      | unaryMath math argument =>
          refine Trace.follows_bind (Trace.follows_readNumber _ Nat.one_pos) fun number _ => ?_
          exact Trace.follows_pure _
      | binaryMath math left right =>
          refine Trace.follows_bind (Trace.follows_readNumber _ Nat.two_pos) fun left _ => ?_
          refine Trace.follows_bind (Trace.follows_readNumber _ Nat.one_lt_two) fun right _ => ?_
          exact Trace.follows_pure _
      | extremum extremum =>
          exact Trace.follows_extremumFrom extremum arguments 0 extremum.start
      | logarithm base scale argument =>
          refine Trace.follows_bind (Trace.follows_readNumber _ Nat.one_pos) fun number _ => ?_
          exact Trace.follows_pure _
      | mapItems items callee =>
          rw [rule_mapItems]
          refine Trace.follows_bind (follows_traceEach ?_) fun results _ => Trace.follows_pure _
          intro item member
          rw [Value.trace.eq_def, Value.call.eq_def]
          cases callee with
          | function stamp body =>
              exact follows_trace_singleton (ih items stamp body rfl rfl item member)
          | _ => exact Trace.follows_lift _
      | constant name entries => exact Trace.follows_pure _
      | custom name arity behaviour =>
          rw [rule_custom matched]
          exact Trace.follows_lift _

/-! ## Which calls fail for a number of arguments -/

/-- No foreign function fails for a number of arguments. -/
def Host.NeverMismatches : Prop :=
  ∀ index arguments name expected given,
    Host.run index arguments ≠ .error (.arityMismatch name expected given)

theorem failsOnly_run (regular : Host.NeverMismatches) (function : Callable) (name : String)
    (behaviour : Behaviour) (arguments : List Value) :
    FailsOnly (FoldError.FromWithin function) (behaviour.run name arguments) := by
  cases behaviour with
  | collect | first => exact failsOnly_ok _
  | refuse => exact failsOnly_error (fromWithin_callFailed function _ _)
  | foreign index =>
      rintro error failed name expected given rfl
      exact absurd failed (regular index arguments name expected given)

/-- A call on one argument that fails for the number does so for a call that `map` makes. -/
theorem failsOnly_call_singleton {function : Callable} {item : Value} (items : List Value)
    (right : ¬ function.Mismatched [item] →
      FailsOnly (FoldError.FromWithin function) (function.call [item])) :
    FailsOnly (FoldError.FromWithin (mapItems items)) (function.call [item]) := by
  by_cases mismatched : function.Mismatched [item]
  · rw [call_of_mismatched mismatched]
    refine failsOnly_error ?_
    rintro _ _ _ ⟨⟩
    exact ⟨rfl, mismatched.2.symm, rfl⟩
  · intro error failed name expected given same
    exact ⟨rfl, (right mismatched error failed name expected given same).2⟩

/-- Where the number of arguments of a call is right, only calls from within it can fail for
theirs. -/
theorem failsOnly_call (regular : Host.NeverMismatches) (function : Callable)
    (arguments : List Value) (matched : ¬ function.Mismatched arguments) :
    FailsOnly (FoldError.FromWithin function) (function.call arguments) := by
  induction function, arguments using call_induction with
  | step function arguments ih =>
      rw [call_eq_rule]
      cases takes_of_not_mismatched matched with
      | nameMap argument =>
          exact failsOnly_mapError (fun fault => fromWithin_callFailed _ _ fault) _
      | standIn name argument => exact failsOnly_ok _
      | unaryMath math argument =>
          exact failsOnly_bind (failsOnly_numberArgument _ _ _) fun number _ => failsOnly_ok _
      | binaryMath math left right =>
          refine failsOnly_bind (failsOnly_numberArgument _ _ _) fun left _ => ?_
          exact failsOnly_bind (failsOnly_numberArgument _ _ _) fun right _ => failsOnly_ok _
      | extremum extremum => exact failsOnly_ofValues _ _ _ _
      | logarithm base scale argument =>
          exact failsOnly_bind (failsOnly_numberArgument _ _ _) fun number _ => failsOnly_ok _
      | mapItems items callee =>
          rw [rule_mapItems]
          refine failsOnly_bind (failsOnly_mapM ?_) fun results _ => failsOnly_ok _
          intro item member
          rw [Value.call.eq_def]
          cases callee with
          | function stamp body =>
              exact failsOnly_call_singleton items (ih items stamp body rfl rfl item member)
          | _ =>
              refine failsOnly_error ?_
              rintro _ _ _ ⟨⟩
      | constant name entries => exact failsOnly_ok _
      | custom name arity behaviour =>
          rw [rule_custom matched]
          exact failsOnly_run regular _ name behaviour arguments

/-- Calls read only arguments that they are given. A wrong number of arguments is found before the
body starts, and is what the call then fails for. Otherwise the body starts, on a right number, and
whatever starts after it, in calls that `map` makes, starts on one argument. In all of this each
position that is read is within the list, so a call never halts for a missing argument: its trace
has the outcome that the call has. -/
theorem call_reads_given (function : Callable) (arguments : List Value) :
    (function.trace arguments).outcome = (function.call arguments).mapError .failed ∧
    (∀ position given, .reads position given ∈ (function.trace arguments).events →
      position < given) ∧
    (function.Mismatched arguments →
      function.trace arguments = ⟨[], .error (.failed
        (.arityMismatch function.name function.arity.toNat arguments.length))⟩) ∧
    (¬ function.Mismatched arguments →
      ∃ inner, (function.trace arguments).events = .starts function arguments.length :: inner ∧
        ∀ callee given, .starts callee given ∈ inner → given = 1) ∧
    (Host.NeverMismatches →
      (function.call arguments =
          .error (.arityMismatch function.name function.arity.toNat arguments.length) ↔
        function.Mismatched arguments)) := by
  by_cases mismatched : function.Mismatched arguments
  · have traced : function.trace arguments = Trace.lift (.error (function.mismatch arguments)) :=
      if_pos mismatched
    have called := call_of_mismatched mismatched
    rw [traced, called]
    refine ⟨rfl, ?_, fun _ => rfl, fun matched => absurd mismatched matched, ?_⟩
    · intro position given absent
      cases absent
    · exact fun _ => iff_of_true rfl mismatched
  · have follows := follows_traceBody function arguments mismatched
    have traced : function.trace arguments =
        ⟨.starts function arguments.length :: (function.traceBody arguments).events,
          (function.traceBody arguments).outcome⟩ := if_neg mismatched
    rw [traced]
    refine ⟨follows.erased, ?_, fun wrong => absurd wrong mismatched, ?_, ?_⟩
    · intro position given member
      rcases List.mem_cons.1 member with impossible | later
      · cases impossible
      · exact follows.inRange position given later
    · exact fun _ => ⟨_, rfl, follows.single⟩
    · intro regular
      refine iff_of_false ?_ mismatched
      intro failed
      obtain ⟨one, different, -⟩ :=
        failsOnly_call regular function arguments mismatched _ failed _ _ _ rfl
      rw [one] at different
      exact different rfl

end Callable

end Calls

section Mapped

attribute [local instance] Host.closed

/-- `map` on no function, and on one that takes two arguments but gets the items one by one. -/
theorem Callable.call_reads_given_pow :
    let map : Callable := .mapItems [.integer 4, .integer 9]
    let pow : Value := .function 0 (.binaryMath .pow)
    (map.Mismatched [] ∧ ¬ map.Mismatched [pow] ∧ Host.NeverMismatches) ∧
      map.trace [] = ⟨[], .error (.failed (.arityMismatch "map" 1 0))⟩ ∧
        (∃ inner, (map.trace [pow]).events = .starts map 1 :: inner ∧
          ∀ callee given, .starts callee given ∈ inner → given = 1) ∧
          (.reads 0 1 ∈ (map.trace [pow]).events ∧ 0 < 1) ∧
            map.call [pow] = .error (.arityMismatch "pow" 2 1) ∧
              map.call [pow] ≠ .error (.arityMismatch "map" 1 1) := by
  intro map pow
  have wrong : map.Mismatched [] := by decide +kernel
  have right : ¬ map.Mismatched [pow] := by decide +kernel
  have regular : Host.NeverMismatches := by
    rintro _ _ _ _ _ ⟨⟩
  have read : .reads 0 1 ∈ (map.trace [pow]).events := by
    rw [trace, traceBody, Value.traceEach]
    simp only [Value.trace.eq_def]
    exact List.mem_cons_of_mem _ List.mem_cons_self
  have called : map.call [pow] = .error (.arityMismatch "pow" 2 1) := by
    have first : (binaryMath .pow).call [.integer 4] = .error (.arityMismatch "pow" 2 1) :=
      call_of_mismatched (by decide +kernel)
    rw [call_eq_rule, rule_mapItems, List.mapM_cons, Value.call, first]
    rfl
  obtain ⟨-, -, early, -, -⟩ := call_reads_given map []
  obtain ⟨-, inRange, -, starts, fails⟩ := call_reads_given map [pow]
  refine ⟨⟨wrong, right, regular⟩, early wrong, starts right, ⟨read, inRange 0 1 read⟩, called, ?_⟩
  exact fun same => right ((fails regular).1 same)

end Mapped

end SyntaxFold
