import SyntaxFold.Synth.Config

/-!
# Chip waves

The table `rawChipWaves` lists waves with a name, a factor `expression` and a call on their
samples. The entries are reduced one level deep, so that the name of the called function can be
read. If it says so, the samples are divided by their mean magnitude; in any case they are
multiplied by the factor. A wave whose name occurs again takes the later samples.
-/

namespace SyntaxFold.Synth

variable [Host]

/-- A wave by name. -/
abbrev Wave := String × List Float

namespace Wave

/-- What an entry must have in a field. -/
def requireEntry {α : Type} (field : String) (found : Option α) : Except FoldError α :=
  require "rawChipWaves entry" field found

/-- The node under a key of an entry that was reduced one level deep. -/
def fieldNode (fields : Value) (key : String) : Except FoldError Json :=
  requireEntry key ((fields.get? key).bind Value.node?)

/-- The samples that a value lists. -/
def numbers (value : Value) : Except FoldError (List Float) := do
  let items ← requireEntry "samples" value.sequence?
  requireEntry "samples" (items.mapM Value.float?)

/-- The name of the function that a call applies, and the first argument. -/
def operation? (node : Json) : Option (String × Json) :=
  match Node.ofJson node with
  | .ok (.call callee (first :: _)) => (identifierText callee).map fun name => (name, first)
  | _ => none

/-- Whether a text occurs inside another. -/
def occurs (pattern : List Char) : List Char → Bool
  | [] => pattern.isEmpty
  | c :: rest => pattern.isPrefixOf (c :: rest) || occurs pattern rest

/-- The mean magnitude of samples. -/
def meanMagnitude (samples : List Float) : Float :=
  samples.foldl (fun sum sample => sum + sample.abs) 0 / Float.ofNat samples.length

/-- The number by which samples are divided. A wave without any sound has no mean magnitude to
divide by. -/
def divisor (operation wave : String) (samples : List Float) : Except FoldError Float :=
  if occurs "Normalize".toList operation.toList then
    let mean := meanMagnitude samples
    if mean == 0 || mean != mean then .error (.callFailed operation (.silentWave wave))
    else .ok mean
  else .ok 1

/-- The wave that an entry describes. -/
def ofEntry (reducer : Reducer) (entry : Value) : Except FoldError Wave := do
  let node ← requireEntry "node" entry.node?
  let fields ← reducer.shallow node
  let nameNode ← fieldNode fields "name"
  let name ← reducer.literal nameNode
  let name ← requireEntry "name" name.string?
  let expressionNode ← fieldNode fields "expression"
  let expression ← reducer.literal expressionNode
  let expression ← requireEntry "expression" expression.float?
  let samplesNode ← fieldNode fields "samples"
  let (operation, argument) ← requireEntry "samples" (operation? samplesNode)
  let samples ← reducer.literal argument
  let samples ← numbers samples
  let divisor ← divisor operation name samples
  return (name, samples.map fun sample => sample / divisor * expression)

end Wave

/-- The waves of a class, in order. -/
def waves (reducer : Reducer) (classNode : Json) : Except FoldError (List Wave) := do
  let table ← nameMapArgument "rawChipWaves" classNode
  let entries ← reducer.shallow table
  let entries ← require "rawChipWaves" "arguments" entries.sequence?
  let waves ← entries.mapM (Wave.ofEntry reducer)
  return Entries.ofPairs waves

/-- Waves as data. -/
def wavesToJson (waves : List Wave) : Json :=
  .object (waves.map fun (name, samples) => (name, .array (samples.map .ofFloat)))

end SyntaxFold.Synth
