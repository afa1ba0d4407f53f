import SyntaxFold.Proofs.Declaration
import SyntaxFold.Proofs.Function.NameMap
import SyntaxFold.Proofs.Node.Wrapper
import SyntaxFold.Proofs.Reduction.NamedCall
import SyntaxFold.Proofs.Reduction.ShallowStage
import SyntaxFold.Proofs.Value.Projections
import SyntaxFold.Synth.Waves

/-!
# The two readings of the wave table

The table of waves can be read entry by entry, where only the outermost levels are reduced, and it
can be resolved as a whole, which carries out the call of `toNameMap` that it is. Where both
readings succeed they have the same waves, in the same order, each with as many samples: a wave
function passes its samples on, and of several entries with one name both keep the first position
and the last content.
-/

namespace SyntaxFold

open Outcome Value

namespace Synth

/-- The record has as many samples as the wave. -/
def Wave.SameCount (samples : List Float) (record : Value) : Prop :=
  ∃ items, record.get? "samples" = some (.sequence items) ∧ items.length = samples.length

theorem length_of_mapM_eq_some {α β : Type} {items : List α} {step : α → Option β}
    {results : List β} (all : items.mapM step = some results) :
    results.length = items.length := by
  induction items generalizing results with
  | nil =>
      cases all
      rfl
  | cons item rest ih =>
      simp only [List.mapM_cons, Option.bind_eq_bind, Option.bind_eq_some_iff] at all
      rcases all with ⟨result, -, others, othersOk, same⟩
      cases same
      rw [List.length_cons, List.length_cons, ih othersOk]

namespace Wave

/-- Samples come from a sequence of as many numbers. -/
theorem exists_sequence_of_numbers {value : Value} {samples : List Float}
    (listed : numbers value = .ok samples) :
    ∃ items, value = .sequence items ∧ items.length = samples.length := by
  rcases bind_eq_ok_iff.1 listed with ⟨items, isSequence, onward⟩
  exists items
  constructor
  · exact sequence?_eq_some_iff.1 (require_eq_ok_iff.1 isSequence)
  · exact (length_of_mapM_eq_some (require_eq_ok_iff.1 onward)).symm

theorem exists_call_of_operation? {node argument : Json} {name : String}
    (called : operation? node = some (name, argument)) :
    ∃ callee rest, Node.ofJson node = .ok (.call callee (argument :: rest)) := by
  unfold operation? at called
  split at called
  · next callee first rest shape =>
      rcases Option.map_eq_some_iff.1 called with ⟨text, -, same⟩
      cases same
      exact ⟨callee, rest, shape⟩
  · cases called

theorem exists_mapping_of_fieldNode {fields : Value} {key : String} {node : Json}
    (found : fieldNode fields key = .ok node) :
    ∃ entries, fields = .mapping entries ∧ Entries.get? key entries = some (.node node) := by
  rcases Option.bind_eq_some_iff.1 (require_eq_ok_iff.1 found) with ⟨value, stands, isNode⟩
  rw [node?_eq_some_iff.1 isNode] at stands
  exact get?_eq_some_iff.1 stands

end Wave

/-! ## What a wave is read from -/

section Readings

variable [Host] {reducer : Reducer} {scopes : SymbolTable}

namespace Wave

/-- The fields of an entry give a name in literal mode. -/
def Names (reducer : Reducer) (fields : List (String × Value)) (name : String) : Prop :=
  ∃ node, Entries.get? "name" fields = some (.node node) ∧
    reducer.literal node = .ok (.string name)

/-- The samples of an entry are a call, whose first argument is as many items in literal mode. -/
def Lists (reducer : Reducer) (fields : List (String × Value)) (count : Nat) : Prop :=
  ∃ node callee argument rest items, Entries.get? "samples" fields = some (.node node) ∧
    Node.ofJson node = .ok (.call callee (argument :: rest)) ∧
      reducer.literal argument = .ok (.sequence items) ∧ items.length = count

/-- If the samples of an entry are a call, then it calls a wave function by name. -/
def CallsByName (fields : List (String × Value)) : Prop :=
  ∀ node callee arguments, Entries.get? "samples" fields = some (.node node) →
    Node.ofJson node = .ok (.call callee arguments) →
      ∃ name ∈ ["centerWave", "centerAndNormalizeWave", "rawChipToIntegrated"],
        Node.ofJson callee = .ok (.identifier name)

theorem exists_fields_of_ofEntry {entry : Value} {wave : Wave}
    (read : ofEntry reducer entry = .ok wave) :
    ∃ node fields, entry = .node node ∧ reducer.shallow node = .ok (.mapping fields) ∧
      Names reducer fields wave.1 ∧ Lists reducer fields wave.2.length := by
  rcases bind_eq_ok_iff.1 read with ⟨node, isNode, onward⟩
  rcases bind_eq_ok_iff.1 onward with ⟨fields, shallow, onward⟩
  rcases bind_eq_ok_iff.1 onward with ⟨nameNode, nameField, onward⟩
  rcases bind_eq_ok_iff.1 onward with ⟨nameValue, nameOk, onward⟩
  rcases bind_eq_ok_iff.1 onward with ⟨name, isName, onward⟩
  rcases bind_eq_ok_iff.1 onward with ⟨factorNode, -, onward⟩
  rcases bind_eq_ok_iff.1 onward with ⟨factorValue, -, onward⟩
  rcases bind_eq_ok_iff.1 onward with ⟨factor, -, onward⟩
  rcases bind_eq_ok_iff.1 onward with ⟨samplesNode, samplesField, onward⟩
  rcases bind_eq_ok_iff.1 onward with ⟨⟨operation, argument⟩, isCall, onward⟩
  rcases bind_eq_ok_iff.1 onward with ⟨samplesValue, samplesOk, onward⟩
  rcases bind_eq_ok_iff.1 onward with ⟨samples, areNumbers, onward⟩
  rcases bind_eq_ok_iff.1 onward with ⟨divisor, -, same⟩
  cases same
  rcases exists_mapping_of_fieldNode nameField with ⟨entries, rfl, nameStands⟩
  rcases exists_mapping_of_fieldNode samplesField with ⟨_, same, samplesStand⟩
  cases same
  rcases exists_call_of_operation? (require_eq_ok_iff.1 isCall) with ⟨callee, rest, shape⟩
  rcases exists_sequence_of_numbers areNumbers with ⟨items, rfl, count⟩
  rw [string?_eq_some_iff.1 (require_eq_ok_iff.1 isName)] at nameOk
  exists node, entries
  constructor
  · exact node?_eq_some_iff.1 (require_eq_ok_iff.1 isNode)
  · constructor
    · exact shallow
    · constructor
      · exact ⟨nameNode, nameStands, nameOk⟩
      · refine ⟨samplesNode, callee, argument, rest, items, samplesStand, shape, samplesOk, ?_⟩
        rw [List.length_map]
        exact count

/-! ## The record of an entry -/

section Records

variable {inside : Json → Except FoldError Value} {limit remaining : Nat}
variable {fields entries : List (String × Value)}

/-- Without resolving, it does not matter what the scopes and what lies inside lookups and calls
are. -/
theorem reduce_eq_reduceWith (reducer : Reducer) (scopes : SymbolTable)
    (inside : Json → Except FoldError Value) {mode : Mode} (literal : mode.resolving = false)
    (tree : Json) :
    reducer.reduce .empty mode tree =
      (reducer.environment scopes).reduceWith inside mode tree := by
  have sameKinds : (reducer.environment scopes).kinds = (reducer.environment .empty).kinds := rfl
  exact (eq_and_isLiteral (Environment.reduceWith_literal sameKinds literal tree)).1.symm

/-- What literal mode makes of a tree is filled in when the tree is resolved. -/
theorem fills_of_literal {tree : Json} {early value : Value}
    (literal : reducer.literal tree = .ok early)
    (resolved : (reducer.environment scopes).reduceWith inside .resolve tree = .ok value) :
    Fills ((reducer.environment scopes).reduceWith inside .resolve) early value := by
  have earlyOk : (reducer.environment scopes).reduceWith inside .literal tree = .ok early := by
    rw [← reduce_eq_reduceWith reducer scopes inside rfl]
    exact literal
  exact Environment.reduceWith_fills _ inside tree early value earlyOk resolved

/-- A name is not an open node, since literal mode lets those through. -/
theorem Names.exists_not_isOpen {name : String} (names : Names reducer fields name) :
    ∃ node : Json, Entries.get? "name" fields = some (.node node) ∧ ¬ node.IsOpen := by
  rcases names with ⟨node, stands, literal⟩
  refine ⟨node, stands, ?_⟩
  intro isOpen
  have passed : reducer.literal node = .ok (.node node) :=
    Environment.reduceWith_of_isOpen isOpen rfl
  cases literal.symm.trans passed

section Resolved

variable (matching : Entries.Matching
  (Unresolved ((reducer.environment scopes).reduceWith
    ((reducer.environment scopes).reduceWithin limit remaining) .resolve)) fields entries)
include matching

/-- The record has the name that the wave has. -/
theorem Names.get? {name : String} (names : Names reducer fields name) :
    Entries.get? "name" entries = some (.string name) := by
  rcases names with ⟨node, stands, literal⟩
  rcases matching.get?_of_unresolved stands with ⟨value, found, resolved⟩
  rw [found, (fills_of_literal literal resolved).eq_of_isScalar rfl]

/-- The record has as many samples as the wave, which a wave function has passed on. -/
theorem Lists.get? {count : Nat} (lists : Lists reducer fields count)
    (prelude : reducer.registry = .prelude) (byName : CallsByName fields) :
    ∃ items, Entries.get? "samples" entries = some (.sequence items) ∧ items.length = count := by
  rcases lists with ⟨node, callee, argument, rest, early, stands, shape, literal, count⟩
  rcases byName node callee _ stands shape with ⟨name, isWave, named⟩
  rcases matching.get?_of_unresolved stands with ⟨value, found, resolved⟩
  have registered : reducer.registry.get? name = some (.standIn name) := by
    rw [prelude]
    exact Registry.get?_prelude_standIn isWave
  rcases Environment.argument_of_call shape named registered
    (fun _ _ called => ⟨_, Callable.call_standIn_eq_ok called⟩) resolved with
      ⟨_, result, less, same, argumentOk, called⟩
  cases same
  cases Callable.call_standIn_eq_ok called
  rcases (fills_of_literal literal argumentOk).exists_sequence with ⟨items, rfl, each⟩
  exact ⟨items, found, each.length_eq.symm.trans count⟩

end Resolved

/-- The record of an entry that describes a wave is entered under the name of the wave, with as many
samples. -/
theorem sameCount_of_ofEntry (prelude : reducer.registry = .prelude) {node : Json}
    (byName : ∀ fields, reducer.shallow node = .ok (.mapping fields) → CallsByName fields)
    {wave : Wave} (read : ofEntry reducer (.node node) = .ok wave) {record : Value}
    (resolved : (reducer.environment scopes).reduceWith
      ((reducer.environment scopes).reduceWithin limit remaining) .resolve node = .ok record)
    {position : Nat} {entry : String × Value}
    (entered : NameMap.entryOf position record = .ok entry) :
    wave.1 = entry.1 ∧ SameCount wave.2 entry.2 := by
  rcases exists_fields_of_ofEntry read with ⟨_, fields, same, shallow, names, lists⟩
  cases same
  rcases NameMap.entryOf_eq_ok_iff.1 entered with ⟨entries, rfl, named, isRest⟩
  have early : (reducer.environment scopes).reduceWith
      ((reducer.environment scopes).reduceWithin limit remaining) Mode.literal.outermost node =
        .ok (.mapping fields) := by
    rw [← reduce_eq_reduceWith reducer scopes _ rfl]
    exact shallow
  have stage := Environment.reduceWith_shallowStage node _ _ early resolved
  -- The samples are an open node. It is the name that shows that the entry was taken apart.
  rcases names.exists_not_isOpen with ⟨nameNode, stands, notOpen⟩
  rcases stage.matching_of_node stands notOpen with ⟨_, same, matching⟩
  cases same
  rcases lists.get? matching prelude (byName fields shallow) with ⟨items, found, count⟩
  constructor
  · have same : some (.string entry.1) = some (Value.string wave.1) :=
      named.symm.trans (names.get? matching)
    exact (Value.string.inj (Option.some.inj same)).symm
  · rw [isRest]
    refine ⟨items, ?_, count⟩
    exact (Entries.get?_remove_of_ne (by decide) entries).trans found

/-- The entries of the whole table match its waves. -/
theorem matching_of_entries (prelude : reducer.registry = .prelude) {items records : List Value}
    (byName : ∀ node fields, .node node ∈ items →
      reducer.shallow node = .ok (.mapping fields) → CallsByName fields)
    {listed : List Wave}
    (read : List.Forall₂ (fun item wave => ofEntry reducer item = .ok wave) items listed)
    (resolved : List.Forall₂ (Unresolved ((reducer.environment scopes).reduceWith
      ((reducer.environment scopes).reduceWithin limit remaining) .resolve)) items records)
    {entries : List (String × Value)}
    (entered : List.Forall₂ (fun record entry => ∃ position, NameMap.entryOf position record =
      .ok entry) records entries) :
    Entries.Matching SameCount listed entries := by
  induction read generalizing records entries with
  | nil =>
      cases resolved
      cases entered
      exact .nil
  | @cons item wave items listed first _ ih =>
      cases resolved with
      | @cons _ record _ records here others =>
          cases entered with
          | @cons _ entry _ entries enteredHere enteredOthers =>
              rcases here with ⟨node, rfl, resolvedHere⟩
              rcases enteredHere with ⟨position, enteredHere⟩
              apply List.Forall₂.cons
              · exact sameCount_of_ofEntry prelude
                  (fun fields => byName node fields List.mem_cons_self) first resolvedHere
                  enteredHere
              · apply ih _ others enteredOthers
                intro node fields member
                exact byName node fields (List.mem_cons_of_mem _ member)

end Records

/-- An entry that describes a wave is not an open node. -/
theorem exists_not_isOpen_of_ofEntry {entry : Value} {wave : Wave}
    (read : ofEntry reducer entry = .ok wave) : ∃ node, entry = .node node ∧ ¬ node.IsOpen := by
  rcases exists_fields_of_ofEntry read with ⟨node, fields, isNode, shallow, -⟩
  refine ⟨node, isNode, ?_⟩
  intro isOpen
  have passed : reducer.shallow node = .ok (.node node) :=
    Environment.reduceWith_of_isOpen isOpen rfl
  cases shallow.symm.trans passed

end Wave

/-! ## The whole table -/

/-- In every entry of the table that a call has as its first argument, the samples are the call of a
wave function by name, if they are a call. -/
def EntriesCallByName (reducer : Reducer) (arguments : List Json) : Prop :=
  ∀ table items node fields, arguments.head? = some table →
    reducer.shallow table = .ok (.sequence items) → .node node ∈ items →
      reducer.shallow node = .ok (.mapping fields) → Wave.CallsByName fields

/-- The table that is read is the first argument of the call that the property is, and its waves are
those of its entries. -/
theorem exists_listed_of_waves {classNode initializer callee : Json} {arguments : List Json}
    (initialized : Declaration.Initializes classNode "rawChipWaves" initializer)
    (shape : Node.ofJson (unwrap initializer) = .ok (.call callee arguments))
    {found : List Wave} (read : waves reducer classNode = .ok found) :
    ∃ table items listed, arguments.head? = some table ∧
      reducer.shallow table = .ok (.sequence items) ∧
        items.mapM (Wave.ofEntry reducer) = .ok listed ∧ found = Entries.ofPairs listed := by
  rcases bind_eq_ok_iff.1 read with ⟨table, isTable, onward⟩
  rcases bind_eq_ok_iff.1 onward with ⟨early, earlyOk, onward⟩
  rcases bind_eq_ok_iff.1 onward with ⟨items, isSequence, onward⟩
  rcases bind_eq_ok_iff.1 onward with ⟨listed, listedOk, same⟩
  cases same
  rw [sequence?_eq_some_iff.1 (require_eq_ok_iff.1 isSequence)] at earlyOk
  rw [nameMapArgument, Declaration.propertyOfClass_eq_ok_iff.2 initialized, ok_bind,
    require_eq_ok_iff, firstArgument?, shape] at isTable
  refine ⟨table, items, listed, ?_, earlyOk, listedOk, rfl⟩
  cases arguments with
  | nil => cases isTable
  | cons first rest => exact isTable

/-- The two readings of the wave table agree. Let the table of a class be a call of `toNameMap`, in
any number of wrappers. If the waves of the class can be read, and if the table can be resolved, in
any scopes, then the value is a mapping of the same names in the same order, in which the samples
of every name are as many as the wave of this name has. Both are made from one pair for each entry
of the table; of pairs with one name the first gives the position and the last the content. -/
theorem waves_matching_resolve (reducer : Reducer) (prelude : reducer.registry = .prelude)
    (scopes : SymbolTable) {classNode initializer callee : Json} {arguments : List Json}
    (initialized : Declaration.Initializes classNode "rawChipWaves" initializer)
    (shape : Node.ofJson (unwrap initializer) = .ok (.call callee arguments))
    (named : Node.ofJson callee = .ok (.identifier "toNameMap"))
    (byName : EntriesCallByName reducer arguments)
    {found : List Wave} (read : waves reducer classNode = .ok found)
    {value : Value} (resolved : reducer.resolve scopes initializer = .ok value) :
    ∃ table remaining items records listed entries, arguments = [table] ∧
      (reducer.shallow table = .ok (.sequence items) ∧
        items.mapM (Wave.ofEntry reducer) = .ok listed ∧ found = Entries.ofPairs listed) ∧
      ((reducer.environment scopes).reduceWithin reducer.maxDepth remaining table =
          .ok (.sequence records) ∧
        NameMap.entriesFrom 0 records = .ok entries ∧
          value = .mapping (Entries.ofPairs entries)) ∧
      Entries.Matching Wave.SameCount listed entries ∧
      Entries.Matching Wave.SameCount found (Entries.ofPairs entries) := by
  rcases exists_listed_of_waves initialized shape read with
    ⟨table, items, listed, isFirst, shallow, listedOk, rfl⟩
  rw [Reducer.resolve_eq_reduceWithin] at resolved
  rcases Environment.exists_reduceWith_of_reduceWithin resolved with ⟨remaining, resolved⟩
  rw [Environment.reduceWith_unwrap] at resolved
  have registered : (reducer.environment scopes).registry.get? "toNameMap" = some .nameMap := by
    change reducer.registry.get? "toNameMap" = some .nameMap
    rw [prelude]
    rfl
  have unary (values : List Value) (result : Value)
      (called : Callable.nameMap.call values = .ok result) : ∃ value, values = [value] := by
    rcases Callable.call_nameMap_eq_ok called with ⟨records, _, isSingle, -⟩
    exact ⟨_, isSingle⟩
  rcases Environment.argument_of_call shape named registered unary resolved with
    ⟨argument, result, less, rfl, tableOk, called⟩
  cases isFirst
  rcases Callable.call_nameMap_eq_ok called with ⟨records, entries, same, entriesOk, rfl⟩
  cases same
  have early : (reducer.environment scopes).reduceWith
      ((reducer.environment scopes).reduceWithin reducer.maxDepth less) Mode.literal.outermost
        table = .ok (.sequence items) := by
    rw [← Wave.reduce_eq_reduceWith reducer scopes _ rfl]
    exact shallow
  have each := mapM_eq_ok_iff.1 listedOk
  have nodes : ∀ item ∈ items, ∃ node, item = .node node ∧ ¬ node.IsOpen := by
    intro item member
    rcases exists_ok_of_mem listedOk member with ⟨wave, read⟩
    exact Wave.exists_not_isOpen_of_ofEntry read
  have stage := Environment.reduceWith_shallowStage table _ _ early tableOk
  rcases stage.forall₂_of_nodes nodes with ⟨_, same, unresolved⟩
  cases same
  have matching : Entries.Matching Wave.SameCount listed entries := by
    apply Wave.matching_of_entries prelude _ each unresolved
    · exact NameMap.forall₂_of_entriesFrom entriesOk
    · intro node fields member
      exact byName table items node fields rfl shallow member
  exact ⟨table, less + 1, items, records, listed, entries, rfl, ⟨shallow, listedOk, rfl⟩,
    ⟨tableOk, entriesOk, rfl⟩, matching, matching.ofPairs⟩

end Readings

section Repeated

attribute [local instance] Host.closed

/-- A reducer with the prelude. -/
def waveReducer : Reducer := ⟨.empty, .prelude, 8⟩

/-- An entry of the table of waves. -/
def waveEntry (name function : String) (samples : List String) : Json :=
  Tree.object [("name", Tree.quoted name), ("expression", Tree.numeral "2"),
    ("samples", Tree.call (Tree.identifier function) [Tree.array (samples.map Tree.numeral)])]

/-- The entries of a table in which a name is repeated. -/
def waveEntries : List Json :=
  [waveEntry "flat" "centerWave" ["1"], waveEntry "saw" "rawChipToIntegrated" ["1", "2"],
    waveEntry "flat" "centerWave" ["1", "2", "3"]]

theorem entriesCallByName_waveEntries :
    EntriesCallByName waveReducer [Tree.array waveEntries] := by
  intro table items node fields isTable shallow member shallowNode
  cases isTable
  have outermost : waveReducer.shallow (Tree.array waveEntries) =
      .ok (.sequence (waveEntries.map .node)) := by
    change (waveReducer.context .empty ⟨false, true⟩).reduce _ = _
    rw [Context.reduce_eq_unrolled 3]
    rfl
  cases shallow.symm.trans outermost
  have entry : ∃ name function samples, node = waveEntry name function samples ∧
      function ∈ ["centerWave", "centerAndNormalizeWave", "rawChipToIntegrated"] := by
    simp only [waveEntries, List.map_cons, List.map_nil, List.mem_cons, List.not_mem_nil,
      Value.node.injEq, or_false] at member
    rcases member with rfl | rfl | rfl
    all_goals exact ⟨_, _, _, rfl, by decide⟩
  rcases entry with ⟨name, function, samples, rfl, isWave⟩
  have outermost : waveReducer.shallow (waveEntry name function samples) =
      .ok (.mapping [("name", .node (Tree.quoted name)), ("expression", .node (Tree.numeral "2")),
        ("samples", .node (Tree.call (Tree.identifier function)
          [Tree.array (samples.map Tree.numeral)]))]) := by
    change (waveReducer.context .empty ⟨false, true⟩).reduce _ = _
    rw [Context.reduce_eq_unrolled 3]
    rfl
  cases shallowNode.symm.trans outermost
  intro call callee arguments isCall shape
  cases isCall
  cases shape
  refine ⟨function, isWave, ?_⟩
  simp only [List.mem_cons, List.not_mem_nil, or_false] at isWave
  rcases isWave with rfl | rfl | rfl <;> rfl

/-- What a table resolves to in which a name is repeated: the last samples, at the first place. -/
def waveRecords : List (String × Value) :=
  [("flat", .mapping [("expression", .integer 2),
      ("samples", .sequence [.integer 1, .integer 2, .integer 3])]),
    ("saw", .mapping [("expression", .integer 2),
      ("samples", .sequence [.integer 1, .integer 2])])]

theorem waves_matching_resolve_repeated :
    let initializer :=
      Tree.parenthesized (Tree.call (Tree.identifier "toNameMap") [Tree.array waveEntries])
    let classNode := Tree.classDeclaration "Config" [Tree.property "rawChipWaves" initializer]
    ∃ flat saw, (Declaration.Initializes classNode "rawChipWaves" initializer ∧
      Node.ofJson (unwrap initializer) =
        .ok (.call (Tree.identifier "toNameMap") [Tree.array waveEntries]) ∧
      EntriesCallByName waveReducer [Tree.array waveEntries] ∧
      waves waveReducer classNode = .ok [("flat", flat), ("saw", saw)] ∧
      flat.length = 3 ∧ saw.length = 2 ∧
      waveReducer.resolve .empty initializer = .ok (.mapping waveRecords)) ∧
        Entries.Matching Wave.SameCount [("flat", flat), ("saw", saw)] waveRecords := by
  intro initializer classNode
  have initialized : Declaration.Initializes classNode "rawChipWaves" initializer :=
    ⟨_, _, rfl, rfl, rfl⟩
  have shape : Node.ofJson (unwrap initializer) =
      .ok (.call (Tree.identifier "toNameMap") [Tree.array waveEntries]) := by
    rw [unwrap_of_wrapper rfl, unwrap_of_no_wrapper]
    · rfl
    · intro expression impossible
      cases impossible
  have isTable : nameMapArgument "rawChipWaves" classNode = .ok (Tree.array waveEntries) := by
    rw [nameMapArgument, Declaration.propertyOfClass_eq_ok_iff.2 initialized, ok_bind,
      firstArgument?, shape]
    rfl
  have read : ∃ flat saw, waves waveReducer classNode = .ok [("flat", flat), ("saw", saw)] ∧
      flat.length = 3 ∧ saw.length = 2 := by
    unfold waves Wave.ofEntry
    simp only [Reducer.shallow, Reducer.literal, Reducer.reduce, Context.reduce_eq_unrolled 5]
    rw [isTable]
    exact ⟨_, _, rfl, rfl, rfl⟩
  have resolved : waveReducer.resolve .empty initializer = .ok (.mapping waveRecords) := by
    change (waveReducer.context .empty .resolve).reduce initializer = _
    rw [Context.reduce_eq_unrolled 5]
    with_unfolding_all rfl
  rcases read with ⟨flat, saw, read, threeSamples, twoSamples⟩
  refine ⟨flat, saw, ⟨initialized, shape, entriesCallByName_waveEntries, read, threeSamples,
    twoSamples, resolved⟩, ?_⟩
  rcases waves_matching_resolve waveReducer rfl .empty initialized shape rfl
    entriesCallByName_waveEntries read resolved with
      ⟨_, _, _, _, _, entries, -, -, ⟨-, -, same⟩, -, each⟩
  rw [Value.mapping.inj same]
  exact each

end Repeated

end Synth

end SyntaxFold
