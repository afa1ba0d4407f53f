import SyntaxFold.Synth.Config

/-!
# Presets

Instrument presets are grouped into categories. Each category of the table `presetCategories` has a
name and a call on the array of its presets; only that array is reduced, so that presets stay in
order and keep their names. The category of the user's own instruments is no part of the result.
-/

namespace SyntaxFold.Synth

variable [Host]

/-- The category that holds the user's own instruments. -/
def customCategory : String := "Custom Instruments"

/-- A category of presets. -/
structure PresetCategory where
  name : String
  presets : List Value

namespace PresetCategory

/-- The category that a record describes, unless it is the custom one. -/
def ofRecord? (reducer : Reducer) (record : Value) :
    Except FoldError (Option PresetCategory) := do
  let name ← require "preset category" "name" ((record.get? "name").bind Value.string?)
  if name = customCategory then
    return none
  else
    let node ← require "preset category" "presets" ((record.get? "presets").bind Value.node?)
    let argument ← require "preset category" "presets" (firstArgument? node)
    let presets ← reducer.literal argument
    let presets ← require "preset category" "presets" presets.sequence?
    return some ⟨name, presets⟩

/-- A category as data. -/
def toJson (category : PresetCategory) : Except FunctionInData Json := do
  let presets ← Value.itemsToJson category.presets
  return .object [("name", .string category.name), ("presets", .array presets)]

end PresetCategory

/-- The categories of a class, in order. -/
def presets (reducer : Reducer) (classNode : Json) : Except FoldError (List PresetCategory) := do
  let table ← nameMapArgument "presetCategories" classNode
  let records ← reducer.literal table
  let records ← require "presetCategories" "arguments" records.sequence?
  let categories ← records.mapM (PresetCategory.ofRecord? reducer)
  return categories.filterMap id

end SyntaxFold.Synth
