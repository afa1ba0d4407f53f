import SyntaxFold.Synth.Config

/-!
# Unisons

A unison plays a note with several voices. The table `unisons` gives the number of voices, how far
they spread, a common offset, a factor and a sign; from these the frequency and the factor of each
voice are derived. Spread and offset are in semitones.
-/

namespace SyntaxFold.Synth

variable [Host]

/-- One voice, as factors on the frequency and on the amplitude. -/
structure Voice where
  frequency : Float
  expression : Float

/-- A unison by name. -/
structure Unison where
  name : String
  voices : List Voice

namespace Unison

/-- The whole part of a number, zero when it is negative or not finite. An infinite number of voices
so gives none, and a number from 2⁶³ on a list of that length, where a program with 64-bit integers
takes the largest of them and then runs out of memory. -/
def wholePart (number : Float) : Nat :=
  match Dyadic.ofFloat? number with
  | some ⟨false, significand, exponent⟩ =>
    (significand <<< exponent.toNat) >>> (-exponent).toNat
  | _ => 0

/-- A number that a record must have. -/
def numberField (key : String) (record : Value) : Except FoldError Float :=
  require "unison" key ((record.get? key).bind Value.float?)

/-- The voices of a unison. The first voice is highest; the others are spread evenly downward from
it and take the sign. -/
def voicesOf (voices spread offset expression sign : Float) : List Voice :=
  let divisor := Extremum.max.pick (voices - 1) 1
  (List.range (wholePart voices)).map fun index =>
    let detune := if 0 < index then 2 * Float.ofNat index * spread / divisor else 0
    { frequency := Float.pow 2 ((offset + spread - detune) / 12)
      expression := expression * (if 0 < index then sign else 1) }

/-- The unison that a record describes. -/
def ofRecord (record : Value) : Except FoldError Unison := do
  let name ← require "unison" "name" ((record.get? "name").bind Value.string?)
  let voices ← numberField "voices" record
  let spread ← numberField "spread" record
  let offset ← numberField "offset" record
  let expression ← numberField "expression" record
  let sign ← numberField "sign" record
  return ⟨name, voicesOf voices spread offset expression sign⟩

/-- A unison as data. -/
def toJson (unison : Unison) : Json :=
  let voice (voice : Voice) : Json :=
    .object [("freq", .ofFloat voice.frequency), ("expr", .ofFloat voice.expression)]
  .object [("name", .string unison.name), ("voices", .array (unison.voices.map voice))]

end Unison

/-- The unisons of a class, in order. -/
def unisons (reducer : Reducer) (classNode : Json) : Except FoldError (List Unison) := do
  let table ← nameMapArgument "unisons" classNode
  let records ← reducer.literal table
  let records ← require "unisons" "arguments" records.sequence?
  records.mapM Unison.ofRecord

end SyntaxFold.Synth
