import SyntaxFold.Proofs.Reduction.DepthLimit
import SyntaxFold.Proofs.Reduction.Likeness

/-!
# Chains of lookups and calls

The value of an access to a member that is bound to a node is the value of this node, with room for
one lookup or call less; and so it is with the argument of a function that returns its argument. So
a chain of such lookups or calls has the value at its end exactly if the limit is at least its
length. A chain that comes back to a tree where it has been ends at the limit only.
-/

namespace SyntaxFold

/-! ## Links -/

/-- An expression that stands for the name of a scope: an identifier or `this`. -/
inductive Json.NamesScope : Json → String → Prop
  | identifier {tree : Json} {scope : String} :
      Node.ofJson tree = .ok (.identifier scope) → NamesScope tree scope
  | this {tree : Json} : Node.ofJson tree = .ok .this → NamesScope tree selfScope

/-- An access to a property of a scope. -/
def Json.Accesses (tree : Json) (scope property : String) : Prop :=
  ∃ base, Node.ofJson tree = .ok (.propertyAccess base property) ∧ base.NamesScope scope

/-- An access to a member that is bound to a node. -/
def SymbolTable.LooksUp (scopes : SymbolTable) (tree bound : Json) : Prop :=
  ∃ scope property, tree.Accesses scope property ∧
    scopes.lookup scope property = .ok (.node bound)

/-- A call, by name and with one argument, of a function that stands in for another one. -/
def Registry.PassesOn (registry : Registry) (tree argument : Json) : Prop :=
  ∃ callee name original, Node.ofJson tree = .ok (.call callee [argument]) ∧
    Node.ofJson callee = .ok (.identifier name) ∧
      registry.get? name = some (.standIn original)

theorem Registry.get?_prelude_standIn {name : String}
    (standIn : name ∈ ["centerWave", "centerAndNormalizeWave", "rawChipToIntegrated"]) :
    Registry.prelude.get? name = some (.standIn name) := by
  simp only [List.mem_cons, List.not_mem_nil, or_false] at standIn
  rcases standIn with rfl | rfl | rfl <;> rfl

/-- A chain of so many links leads from one tree to another. -/
inductive Leads (link : Json → Json → Prop) : Nat → Json → Json → Prop
  | here (tree : Json) : Leads link 0 tree tree
  | step {count : Nat} {tree inner last : Json} :
      link tree inner → Leads link count inner last → Leads link (count + 1) tree last

/-- A literal and its value. -/
inductive Json.IsLiteral : Json → Value → Prop
  | string {tree : Json} {text : String} :
      Node.ofJson tree = .ok (.stringLiteral text) → IsLiteral tree (.string text)
  | numeral {tree : Json} {text : String} {value : Value} :
      Node.ofJson tree = .ok (.numericLiteral text) → Value.ofNumeral text = .ok value →
        IsLiteral tree value
  | boolean {tree : Json} {value : Bool} :
      Node.ofJson tree = .ok (.boolean value) → IsLiteral tree (.bool value)
  | null {tree : Json} : Node.ofJson tree = .ok .null → IsLiteral tree .null

section Reductions

variable [Host]

namespace Environment

variable {environment : Environment} {inside : Json → Except FoldError Value}

theorem reduceWith_of_namesScope {tree : Json} {scope : String} (names : tree.NamesScope scope) :
    environment.reduceWith inside .resolve tree = .ok (.string scope) := by
  cases names with
  | identifier shape | this shape =>
      rw [reduceWith_eq_nodeRule shape]
      rfl

/-- An access to a property of a scope is a lookup. -/
theorem reduceWith_of_accesses {tree : Json} {scope property : String}
    (accesses : tree.Accesses scope property) :
    environment.reduceWith inside .resolve tree = environment.memberWith inside scope property := by
  rcases accesses with ⟨base, shape, names⟩
  rw [reduceWith_eq_nodeRule shape]
  change (environment.reduceWith inside .resolve base >>= fun value =>
    environment.accessWith inside value property) = _
  rw [reduceWith_of_namesScope names]
  rfl

/-- A tree whose value takes no lookup and no call. -/
def IsConstant (environment : Environment) (tree : Json) (value : Value) : Prop :=
  ∀ inside, environment.reduceWith inside .resolve tree = .ok value

theorem isConstant_of_isLiteral {tree : Json} {value : Value} (isLiteral : tree.IsLiteral value) :
    environment.IsConstant tree value := by
  intro inside
  cases isLiteral with
  | numeral shape valid =>
      rw [reduceWith_eq_nodeRule shape]
      exact valid
  | string shape | boolean shape | null shape =>
      rw [reduceWith_eq_nodeRule shape]
      rfl

/-- The value of the first tree is that of the second, with room for one lookup or call less. -/
def Defers (environment : Environment) (tree inner : Json) : Prop :=
  ∀ limit remaining,
    environment.reduceWithin limit (remaining + 1) tree =
      environment.reduceWithin limit remaining inner

theorem defers_of_looksUp {tree bound : Json} (looksUp : environment.scopes.LooksUp tree bound) :
    environment.Defers tree bound := by
  intro limit remaining
  rcases looksUp with ⟨scope, property, accesses, found⟩
  rw [reduceWithin, reduceWith_of_accesses accesses, memberWith, found]

theorem defers_of_passesOn {tree argument : Json}
    (passesOn : environment.registry.PassesOn tree argument) :
    environment.Defers tree argument := by
  intro limit remaining
  rcases passesOn with ⟨callee, name, original, shape, calleeShape, registered⟩
  rw [reduceWithin, reduceWith_eq_nodeRule shape]
  change environment.callWith (environment.reduceWithin limit remaining) callee [argument] = _
  cases remaining with
  | zero => rfl
  | succ remaining =>
      have target : environment.reduceWithin limit (remaining + 1) callee = .ok (.string name) :=
        reduceWith_of_namesScope (.identifier calleeShape)
      simp only [callWith, target, ok_bind, List.mapM_cons, List.mapM_nil, functionOf, registered]
      cases environment.reduceWithin limit (remaining + 1) argument with
      | error error => rfl
      | ok value =>
          simp [Callable.call]

/-! ## Chains -/

section Chains

variable {link : Json → Json → Prop} {count limit remaining : Nat} {tree last : Json}
variable (defers : ∀ tree inner, link tree inner → environment.Defers tree inner)
include defers

theorem reduceWithin_of_leads (chain : Leads link count tree last) (room : count ≤ remaining) :
    environment.reduceWithin limit remaining tree =
      environment.reduceWithin limit (remaining - count) last := by
  induction chain generalizing remaining with
  | here tree => rfl
  | step first _ ih =>
      cases remaining with
      | zero => cases room
      | succ remaining =>
          rw [defers _ _ first, ih (Nat.le_of_succ_le_succ room), Nat.add_sub_add_right]

/-- A chain that is not shorter than what is left of the limit reaches it. -/
theorem reduceWithin_of_remaining_le (chain : Leads link count tree last)
    (long : remaining ≤ count) :
    environment.reduceWithin limit remaining tree = .error (.depthExceeded limit) := by
  induction chain generalizing remaining with
  | here tree =>
      cases Nat.le_zero.1 long
      rfl
  | step first _ ih =>
      cases remaining with
      | zero => rfl
      | succ remaining =>
          rw [defers _ _ first]
          exact ih (Nat.le_of_succ_le_succ long)

/-- A cycle reaches every limit. -/
theorem reduceWithin_of_cycle (positive : 0 < count) (cycle : Leads link count tree tree) :
    environment.reduceWithin limit remaining tree = .error (.depthExceeded limit) := by
  induction remaining using Nat.strongRecOn with
  | ind remaining ih =>
      by_cases long : remaining ≤ count
      · exact reduceWithin_of_remaining_le defers cycle long
      · rw [reduceWithin_of_leads defers cycle (Nat.le_of_not_le long)]
        apply ih
        omega

/-- A chain that leads to a cycle reaches every limit. -/
theorem reduceWithin_of_leads_cycle {before : Nat} (chain : Leads link before tree last)
    (positive : 0 < count) (cycle : Leads link count last last) :
    environment.reduceWithin limit remaining tree = .error (.depthExceeded limit) := by
  by_cases long : remaining ≤ before
  · exact reduceWithin_of_remaining_le defers chain long
  · rw [reduceWithin_of_leads defers chain (Nat.le_of_not_le long)]
    exact reduceWithin_of_cycle defers positive cycle

/-- A chain with a constant at its end has its value, if the limit is not below the length. -/
theorem reduceWithin_of_leads_constant {value : Value} (chain : Leads link count tree last)
    (constant : environment.IsConstant last value) :
    environment.reduceWithin limit (limit + 1) tree =
      if count ≤ limit then .ok value else .error (.depthExceeded limit) := by
  split
  · next within =>
      rw [reduceWithin_of_leads defers chain (Nat.le_succ_of_le within), Nat.succ_sub within]
      exact constant _
  · next beyond => exact reduceWithin_of_remaining_le defers chain (Nat.lt_of_not_le beyond)

end Chains

end Environment

/-- The tables that a reduction over the given scopes uses. -/
def Reducer.environment (reducer : Reducer) (scopes : SymbolTable) : Environment :=
  ⟨reducer.kinds, reducer.registry, scopes⟩

theorem Reducer.resolve_eq_reduceWithin (reducer : Reducer) (scopes : SymbolTable) (tree : Json) :
    reducer.resolve scopes tree =
      (reducer.environment scopes).reduceWithin reducer.maxDepth (reducer.maxDepth + 1) tree :=
  Context.reduce_eq_reduceWithin rfl tree

/-- The limit counts the lookups and calls in progress: a chain of lookups to a constant, such as a
literal, has its value exactly if it is not longer than the limit, one that runs into a cycle never
has a value, and a constant inside calls of functions that return their argument has its value
exactly if there are no more calls than the limit. -/
theorem Reducer.resolve_of_leads (reducer : Reducer) (scopes : SymbolTable) :
    (∀ count access final value, Leads scopes.LooksUp count access final →
      (reducer.environment scopes).IsConstant final value →
        reducer.resolve scopes access =
          if count ≤ reducer.maxDepth then .ok value
          else .error (.depthExceeded reducer.maxDepth)) ∧
    (∀ before count access loop, Leads scopes.LooksUp before access loop →
      0 < count → Leads scopes.LooksUp count loop loop →
        reducer.resolve scopes access = .error (.depthExceeded reducer.maxDepth)) ∧
    (∀ count call final value, Leads reducer.registry.PassesOn count call final →
      (reducer.environment scopes).IsConstant final value →
        reducer.resolve scopes call =
          if count ≤ reducer.maxDepth then .ok value
          else .error (.depthExceeded reducer.maxDepth)) := by
  have lookups (tree bound : Json) (looksUp : scopes.LooksUp tree bound) :
      (reducer.environment scopes).Defers tree bound :=
    Environment.defers_of_looksUp looksUp
  have calls (tree argument : Json) (passesOn : reducer.registry.PassesOn tree argument) :
      (reducer.environment scopes).Defers tree argument :=
    Environment.defers_of_passesOn passesOn
  simp only [resolve_eq_reduceWithin]
  constructor
  · intro count access final value chain constant
    exact Environment.reduceWithin_of_leads_constant lookups chain constant
  · constructor
    · intro before count access loop chain positive cycle
      exact Environment.reduceWithin_of_leads_cycle lookups chain positive cycle
    · intro count call final value chain constant
      exact Environment.reduceWithin_of_leads_constant calls chain constant

end Reductions

section Looping

attribute [local instance] Host.closed

/-- Two lookups, a cycle, and three calls under a limit of two. -/
theorem Reducer.resolve_of_leads_looping :
    let reducer : Reducer := ⟨.empty, .prelude, 2⟩
    let scopes := loopingContext.environment.scopes
    let numeral := Tree.numeral "7"
    let center (argument : Json) := Tree.call (Tree.identifier "centerWave") [argument]
    let loop := Tree.access Tree.this "loop"
    ((reducer.environment scopes).IsConstant numeral (.integer 7) ∧
      Leads scopes.LooksUp 2 (Tree.access Tree.this "first") numeral ∧
        Leads scopes.LooksUp 1 loop loop ∧
          Leads reducer.registry.PassesOn 3 (center (center (center numeral))) numeral) ∧
      reducer.resolve scopes (Tree.access Tree.this "first") = .ok (.integer 7) ∧
        reducer.resolve scopes loop = .error (.depthExceeded 2) ∧
          reducer.resolve scopes (center (center (center numeral))) =
            .error (.depthExceeded 2) := by
  intro reducer scopes numeral center loop
  have first : scopes.LooksUp (Tree.access Tree.this "first") (Tree.access Tree.this "second") :=
    ⟨selfScope, "first", ⟨Tree.this, rfl, .this rfl⟩, rfl⟩
  have second : scopes.LooksUp (Tree.access Tree.this "second") numeral :=
    ⟨selfScope, "second", ⟨Tree.this, rfl, .this rfl⟩, rfl⟩
  have around : scopes.LooksUp loop loop :=
    ⟨selfScope, "loop", ⟨Tree.this, rfl, .this rfl⟩, rfl⟩
  have constant : (reducer.environment scopes).IsConstant numeral (.integer 7) :=
    Environment.isConstant_of_isLiteral (.numeral rfl rfl)
  have chain : Leads scopes.LooksUp 2 (Tree.access Tree.this "first") numeral :=
    .step first (.step second (.here _))
  have cycle : Leads scopes.LooksUp 1 loop loop := .step around (.here _)
  have centered (argument : Json) : reducer.registry.PassesOn (center argument) argument :=
    ⟨_, "centerWave", "centerWave", rfl, rfl, Registry.get?_prelude_standIn List.mem_cons_self⟩
  have calls : Leads reducer.registry.PassesOn 3 (center (center (center numeral))) numeral :=
    .step (centered _) (.step (centered _) (.step (centered _) (.here _)))
  obtain ⟨onLookups, onCycles, onCalls⟩ := Reducer.resolve_of_leads reducer scopes
  constructor
  · exact ⟨constant, chain, cycle, calls⟩
  · constructor
    · exact onLookups 2 _ _ _ chain constant
    · constructor
      · exact onCycles 0 1 loop loop (.here _) Nat.one_pos cycle
      · exact onCalls 3 _ _ _ calls constant

end Looping

end SyntaxFold
