import SyntaxFold.Function.Arithmetic
import SyntaxFold.Function.NameMap
import SyntaxFold.Value.Display

/-!
# Calls

Calling a function on values. A function of a fixed arity that is given another number of arguments
fails before anything else. The only function that calls others is `map`: it calls its argument on
each item that it has captured, and both of these are parts of what the call started with. So the
function and its arguments together become smaller, and every call ends, even of a function on
itself.
-/

namespace SyntaxFold

/-- The error of a wrong number of arguments. -/
def Callable.mismatch (function : Callable) (arguments : List Value) : FoldError :=
  .arityMismatch function.name function.arity.toNat arguments.length

/-- An argument that must be a number. -/
def numberArgument (name : String) (argument : Value) : Except FoldError Float :=
  match argument.float? with
  | some number => .ok number
  | none => .error (.callFailed name (.expectedNumber argument.type))

/-- The name under which a mathematical function reports its failures. -/
def mathName (name : String) : String := "Math." ++ name

/-- The extremum of numbers, one after the other. -/
def Extremum.ofValues (extremum : Extremum) (best : Float) : List Value → Except FoldError Value
  | [] => .ok (.number best)
  | argument :: rest =>
    match numberArgument (mathName extremum.name) argument with
    | .ok number => ofValues extremum (extremum.pick best number) rest
    | .error error => .error error

/-- The logarithm of a formula. -/
def LogBase.log : LogBase → Float → Float
  | natural => Float.log
  | two => Float.log2

theorem one_le_sizeOf {α : Type} [SizeOf α] (items : List α) : 1 ≤ sizeOf items := by
  cases items <;> simp only [List.nil.sizeOf_spec, List.cons.sizeOf_spec] <;> omega

/-- The program that uses this library. Foreign functions are known here by an index only; what
they do is for that program to say. -/
class Host where
  /-- What the foreign function of an index does with its arguments. -/
  run (index : Nat) (arguments : List Value) : Except FoldError Value

/-- A program without foreign functions. -/
abbrev Host.closed : Host where
  run _ arguments := .error (.callFailed "foreign" (.refused arguments.length))

variable [Host]

/-- What a function of the caller's own does. -/
def Behaviour.run (name : String) (arguments : List Value) :
    Behaviour → Except FoldError Value
  | collect => .ok (.sequence arguments)
  | first => .ok (arguments.headD .null)
  | refuse => .error (.callFailed name (.refused arguments.length))
  | foreign index => Host.run index arguments

mutual

/-- The result of calling a function. -/
def Callable.call (function : Callable) (arguments : List Value) : Except FoldError Value :=
  match function, arguments with
  | .nameMap, [argument] => (NameMap.ofValue argument).mapError (.callFailed "toNameMap")
  | .standIn _, [argument] => .ok argument
  | .unaryMath math, [argument] => do
    let number ← numberArgument (mathName math.name) argument
    return .number (math.apply number)
  | .binaryMath math, [left, right] => do
    let left ← numberArgument (mathName math.name) left
    let right ← numberArgument (mathName math.name) right
    return .number (math.apply left right)
  | .extremum extremum, arguments => extremum.ofValues extremum.start arguments
  | .logarithm base scale, [argument] => do
    let number ← numberArgument base.formulaName argument
    return .number (scale * base.log number)
  | .mapItems items, [callee] => (Value.callEach callee items).map .sequence
  | .constant _ entries, _ => .ok (.mapping entries)
  | .custom name arity behaviour, arguments =>
    if 0 ≤ arity ∧ arguments.length ≠ arity.toNat then
      .error (Callable.mismatch (.custom name arity behaviour) arguments)
    else behaviour.run name arguments
  | function, arguments => .error (function.mismatch arguments)
termination_by sizeOf function + sizeOf arguments

/-- The result of calling a value, which must be a function. -/
def Value.call (callee : Value) (arguments : List Value) : Except FoldError Value :=
  match callee with
  | .function _ body => Callable.call body arguments
  | other => .error (.notCallable (.ofType other.type))
termination_by sizeOf callee + sizeOf arguments

/-- The results of calling a value on each item, up to the first failure. -/
def Value.callEach (callee : Value) (items : List Value) : Except FoldError (List Value) :=
  match items with
  | [] => .ok []
  | item :: rest => do
    have := one_le_sizeOf rest
    let result ← Value.call callee [item]
    let results ← Value.callEach callee rest
    return result :: results
termination_by sizeOf callee + sizeOf items + 1

end

end SyntaxFold
