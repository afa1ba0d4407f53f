import SyntaxFold.Proofs.Node.Wrapper
import SyntaxFold.Proofs.Reduction.LiteralMode

/-!
# Which function literals are formulas

A function literal reduces to a function exactly if it is a logarithm formula: it has one parameter,
its body is a product, one side of the product is a logarithm of the parameter and the other side is
not, and this other side, the factor, reduces to a number without resolving. Nothing else is
accepted. The outcome depends on the syntax and on the kind table only, and not on the order of the
two sides.
-/

namespace SyntaxFold

open Outcome

/-- The member of `Math` that is a logarithm. -/
def LogBase.member : LogBase → String
  | natural => "log"
  | two => "log2"

theorem LogBase.formulaName_eq (base : LogBase) :
    base.formulaName = "semitones(" ++ base.member ++ ")" := by
  cases base <;> decide

namespace Formula

/-! ## The shape of a formula -/

/-- Inside any number of wrappers, the node is a call of a logarithm of `Math` on the parameter. -/
def IsLogarithm (parameter : String) (base : LogBase) (node : Json) : Prop :=
  ∃ callee argument object, node.Presents (.call callee [argument]) ∧
    Node.ofJson callee = .ok (.propertyAccess object base.member) ∧
      Node.ofJson object = .ok (.identifier "Math") ∧
        Node.ofJson argument = .ok (.identifier parameter)

/-- The function literal has one parameter, of this name, and inside any number of wrappers its body
is the product of the two sides. -/
def IsProduct (parameters : List Json) (body : Json) (parameter : String) (left right : Json) :
    Prop :=
  ∃ declaration, parameters = [declaration] ∧ declarationName declaration = some parameter ∧
    body.Presents (.binary left "AsteriskToken" right)

/-- The body of the function literal is the product, in either order, of a logarithm of the
parameter and of a factor that is no such logarithm. -/
def IsFormula (parameters : List Json) (body : Json) (base : LogBase) (factor : Json) : Prop :=
  ∃ parameter logarithm, (IsProduct parameters body parameter logarithm factor ∨
      IsProduct parameters body parameter factor logarithm) ∧
    IsLogarithm parameter base logarithm ∧ ∀ other, ¬ IsLogarithm parameter other factor

/-- The bodies are products of the same sides in opposite orders. -/
def Swapped (body body' : Json) : Prop :=
  ∃ left right, body.Presents (.binary left "AsteriskToken" right) ∧
    body'.Presents (.binary right "AsteriskToken" left)

theorem logarithmOf?_eq_some_iff {parameter : String} {node : Json} {base : LogBase} :
    logarithmOf? parameter node = some base ↔ IsLogarithm parameter base node := by
  unfold logarithmOf? IsLogarithm
  constructor
  · intro found
    split at found
    · next callee argument isCall =>
        split at found
        · next object member isAccess =>
            split at found
            · next names =>
                rw [Bool.and_eq_true, isIdentifier_iff, isIdentifier_iff] at names
                have presents : node.Presents (.call callee [argument]) :=
                  (Json.presents_iff (by simp)).2 isCall
                refine ⟨callee, argument, object, presents, ?_, names⟩
                split at found <;> cases found <;> exact isAccess
            · cases found
        · cases found
    · cases found
  · rintro ⟨callee, argument, object, isCall, isAccess, isMath, isParameter⟩
    rw [Json.presents_iff (by simp)] at isCall
    rw [← isIdentifier_iff] at isMath isParameter
    simp only [isCall, isAccess, isMath, isParameter, Bool.and_self, if_true]
    cases base <;> rfl

theorem product?_eq_some_iff {body left right : Json} :
    product? body = some (left, right) ↔ body.Presents (.binary left "AsteriskToken" right) := by
  rw [Json.presents_iff (by simp)]
  unfold product?
  split
  · next shape => simp [shape]
  · next other =>
      constructor
      · intro impossible
        cases impossible
      · intro shape
        exact absurd shape (other left right)

theorem logarithmOf?_eq_none_iff {parameter : String} {node : Json} :
    logarithmOf? parameter node = none ↔ ∀ base, ¬ IsLogarithm parameter base node := by
  simp only [← logarithmOf?_eq_some_iff, Option.eq_none_iff_forall_ne_some, ne_eq]

/-- Recognition accepts the formulas and nothing else. -/
theorem recognize_eq_ok_iff {parameters : List Json} {body factor : Json} {base : LogBase} :
    recognize parameters body = .ok (base, factor) ↔ IsFormula parameters body base factor := by
  simp only [IsFormula, IsProduct, ← logarithmOf?_eq_none_iff, ← product?_eq_some_iff]
  simp only [← logarithmOf?_eq_some_iff]
  constructor
  · intro recognized
    unfold recognize at recognized
    split at recognized
    · next declaration =>
        split at recognized
        · cases recognized
        · next parameter named =>
            split at recognized
            · cases recognized
            · next left right product =>
                split at recognized
                · next isLogarithm noLogarithm =>
                    cases recognized
                    exact ⟨parameter, left, .inl ⟨declaration, rfl, named, product⟩, isLogarithm,
                      noLogarithm⟩
                · next noLogarithm isLogarithm =>
                    cases recognized
                    exact ⟨parameter, right, .inr ⟨declaration, rfl, named, product⟩, isLogarithm,
                      noLogarithm⟩
                · cases recognized
    · cases recognized
  · rintro ⟨parameter, logarithm, sides, isLogarithm, noLogarithm⟩
    rcases sides with ⟨declaration, rfl, named, product⟩ | ⟨declaration, rfl, named, product⟩ <;>
      simp only [recognize, named, product, isLogarithm, noLogarithm]

/-- The order of the sides makes no difference to recognition, nor to why it fails. -/
theorem recognize_of_swapped {body body' : Json} (swapped : Swapped body body')
    (parameters : List Json) : recognize parameters body' = recognize parameters body := by
  rcases swapped with ⟨left, right, product, product'⟩
  rw [← product?_eq_some_iff] at product product'
  unfold recognize
  split
  · split
    · rfl
    · next parameter _ =>
        rw [product, product']
        dsimp only
        cases logarithmOf? parameter left <;> cases logarithmOf? parameter right <;> rfl
  · rfl

/-- The function that a factor of this value makes. -/
def scaled (base : LogBase) (value : Value) : Except FoldError Value :=
  match value.float? with
  | some scale => .ok (.function 0 (.logarithm base scale))
  | none => .error (.unsupportedFunction .scaleNotNumber)

/-- Why a function literal is refused. A factor of its own error passes it on. -/
inductive Refuses (literal : Json → Except FoldError Value) (parameters : List Json)
    (body : Json) : FoldError → Prop
  | unrecognized {fault : FormulaFault} :
      (∀ base factor, ¬ IsFormula parameters body base factor) →
        Refuses literal parameters body (.unsupportedFunction fault)
  | factor {base : LogBase} {factor : Json} {error : FoldError} :
      IsFormula parameters body base factor → literal factor = .error error →
        Refuses literal parameters body error
  | notNumber {base : LogBase} {factor : Json} {value : Value} :
      IsFormula parameters body base factor → literal factor = .ok value → value.float? = none →
        Refuses literal parameters body (.unsupportedFunction .scaleNotNumber)

end Formula

section Reductions

variable [Host]

/-- A function of one number, named after a logarithm, that gives this logarithm times a scale. -/
structure Callable.Scales (function : Callable) (base : LogBase) (scale : Float) : Prop where
  name : function.name = "semitones(" ++ base.member ++ ")"
  arity : function.arity = 1
  call : ∀ argument number, argument.float? = some number →
    function.call [argument] = .ok (.number (scale * base.log number))

theorem Callable.scales_logarithm (base : LogBase) (scale : Float) :
    (logarithm base scale).Scales base scale where
  name := base.formulaName_eq
  arity := rfl
  call argument number isNumber := by
    simp only [call, numberArgument, isNumber, ok_bind]
    rfl

namespace Context

open Formula

variable {context : Context} {tree body : Json} {parameters : List Json}

/-- The context in which the factor of a formula is reduced. -/
def literal (context : Context) : Context := { context with mode := .literal }

theorem reduce_of_recognized (shape : Node.ofJson tree = .ok (.arrowFunction parameters body))
    {base : LogBase} {factor : Json} (recognized : recognize parameters body = .ok (base, factor)) :
    context.reduce tree = context.literal.reduce factor >>= scaled base := by
  rw [reduce, Environment.reduceWith_eq_nodeRule shape, Environment.nodeRule, recognized]
  rfl

theorem reduce_of_unrecognized (shape : Node.ofJson tree = .ok (.arrowFunction parameters body))
    {fault : FormulaFault} (refused : recognize parameters body = .error fault) :
    context.reduce tree = .error (.unsupportedFunction fault) := by
  rw [reduce, Environment.reduceWith_eq_nodeRule shape, Environment.nodeRule, refused]

/-- The factor of a formula is reduced in the same way in all contexts that share the kind table. -/
theorem literal_reduce_eq {other : Context}
    (sameKinds : other.environment.kinds = context.environment.kinds) (factor : Json) :
    other.literal.reduce factor = context.literal.reduce factor :=
  (eq_and_isLiteral (Environment.reduceWith_literal sameKinds rfl factor)).1

/-- A function literal reduces exactly if it is a formula whose factor reduces to a number. -/
theorem reduce_arrowFunction_eq_ok_iff
    (shape : Node.ofJson tree = .ok (.arrowFunction parameters body)) {result : Value} :
    context.reduce tree = .ok result ↔ ∃ base factor value scale,
      IsFormula parameters body base factor ∧ context.literal.reduce factor = .ok value ∧
        value.float? = some scale ∧ result = .function 0 (.logarithm base scale) := by
  simp only [← recognize_eq_ok_iff]
  cases recognized : recognize parameters body with
  | error fault =>
      rw [reduce_of_unrecognized shape recognized]
      constructor
      · intro impossible
        cases impossible
      · rintro ⟨_, _, _, _, impossible, -⟩
        cases impossible
  | ok found =>
      obtain ⟨base, factor⟩ := found
      rw [reduce_of_recognized shape recognized, bind_eq_ok_iff]
      constructor
      · rintro ⟨value, reduced, made⟩
        unfold scaled at made
        split at made
        · next scale isNumber =>
            cases made
            exact ⟨base, factor, value, scale, rfl, reduced, isNumber, rfl⟩
        · cases made
      · rintro ⟨_, _, value, scale, ⟨⟩, reduced, isNumber, rfl⟩
        refine ⟨value, reduced, ?_⟩
        rw [scaled, isNumber]

/-- A function literal that does not reduce is no formula, or its factor gives no number. -/
theorem refuses_of_reduce (shape : Node.ofJson tree = .ok (.arrowFunction parameters body))
    {error : FoldError} (failed : context.reduce tree = .error error) :
    Refuses context.literal.reduce parameters body error := by
  cases recognized : recognize parameters body with
  | error fault =>
      rw [reduce_of_unrecognized shape recognized] at failed
      cases failed
      apply Refuses.unrecognized
      intro base factor isFormula
      cases recognized.symm.trans (recognize_eq_ok_iff.2 isFormula)
  | ok found =>
      obtain ⟨base, factor⟩ := found
      have isFormula := recognize_eq_ok_iff.1 recognized
      rw [reduce_of_recognized shape recognized] at failed
      rcases bind_eq_error_iff.1 failed with ofFactor | ⟨value, reduced, unscaled⟩
      · exact .factor isFormula ofFactor
      · unfold scaled at unscaled
        split at unscaled
        · cases unscaled
        · next noNumber =>
            cases unscaled
            exact .notNumber isFormula reduced noNumber

/-- Function literals that are recognized alike reduce alike. -/
theorem reduce_of_recognize_eq {other : Context}
    (sameKinds : other.environment.kinds = context.environment.kinds) {tree' body' : Json}
    (shape : Node.ofJson tree = .ok (.arrowFunction parameters body))
    (shape' : Node.ofJson tree' = .ok (.arrowFunction parameters body'))
    (same : recognize parameters body' = recognize parameters body) :
    other.reduce tree' = context.reduce tree := by
  cases recognized : recognize parameters body with
  | error fault =>
      rw [reduce_of_unrecognized shape recognized,
        reduce_of_unrecognized shape' (same.trans recognized)]
  | ok found =>
      rw [reduce_of_recognized shape recognized,
        reduce_of_recognized shape' (same.trans recognized), literal_reduce_eq sameKinds]

/-- A function literal reduces exactly if it is a formula whose factor reduces to a number, without
resolving; the result is the function of one number that is named after the logarithm and scales it
by this number. Every other function literal is refused, as no formula or with the error of its
factor. Whatever the rest of the context is, the outcome is the same, and it is the same for a
product whose sides are swapped. -/
theorem reduce_arrowFunction (context : Context) {tree body : Json} {parameters : List Json}
    (shape : Node.ofJson tree = .ok (.arrowFunction parameters body)) :
    (∀ result, context.reduce tree = .ok result ↔ ∃ base factor value scale,
      IsFormula parameters body base factor ∧ context.literal.reduce factor = .ok value ∧
        value.float? = some scale ∧ result = .function 0 (.logarithm base scale)) ∧
    (∀ base scale, (Callable.logarithm base scale).Scales base scale) ∧
    (∀ error, context.reduce tree = .error error →
      Refuses context.literal.reduce parameters body error) ∧
    ∀ (other : Context) (tree' body' : Json),
      other.environment.kinds = context.environment.kinds →
        Node.ofJson tree' = .ok (.arrowFunction parameters body') →
          body' = body ∨ Swapped body body' → other.reduce tree' = context.reduce tree := by
  refine ⟨?_, Callable.scales_logarithm, ?_, ?_⟩
  · exact fun result => reduce_arrowFunction_eq_ok_iff shape
  · exact fun error => refuses_of_reduce shape
  · intro other tree' body' sameKinds shape' sides
    apply reduce_of_recognize_eq sameKinds shape shape'
    rcases sides with rfl | swapped
    · rfl
    · exact recognize_of_swapped swapped parameters

end Context

end Reductions

section Semitones

attribute [local instance] Host.closed

/-- A function literal. -/
def functionLiteral (parameters : List String) (body : Json) : Json :=
  Tree.node "ArrowFunction"
    [("parameters", .array (parameters.map fun name =>
      Tree.node "Parameter" [("name", Tree.identifier name)])), ("body", body)]

/-- The logarithm of a parameter, in parentheses. -/
def logarithmOf (parameter : String) : Json :=
  Tree.parenthesized (Tree.call (Tree.access (Tree.identifier "Math") "log2")
    [Tree.identifier parameter])

theorem Formula.isLogarithm_logarithmOf : IsLogarithm "x" .two (logarithmOf "x") :=
  ⟨_, _, _, .wrapper rfl (.here rfl), rfl, rfl, rfl⟩

theorem Formula.not_isLogarithm_numeral (text parameter : String) (base : LogBase) :
    ¬ IsLogarithm parameter base (Tree.numeral text) := by
  have shape : Node.ofJson (Tree.numeral text) = .ok (.numericLiteral text) := rfl
  rintro ⟨callee, argument, object, presents, -⟩
  cases presents with
  | here isCall => cases shape.symm.trans isCall
  | wrapper isWrapper _ => cases shape.symm.trans isWrapper

/-- Twelve times the logarithm, with the factor on the left and on the right. -/
theorem Context.reduce_arrowFunction_semitones :
    let body := Tree.parenthesized
      (Tree.binary (Tree.numeral "12") "AsteriskToken" (logarithmOf "x"))
    let body' := Tree.binary (logarithmOf "x") "AsteriskToken" (Tree.numeral "12")
    let other : Context := ⟨⟨.empty, .empty, .empty⟩, .literal, 0, 3⟩
    let result : Value := .function 0 (.logarithm .two (floatOfInt64 12))
    let error : FoldError := .unsupportedFunction (.parameterCount 0)
    (∃ parameters, Node.ofJson (functionLiteral ["x"] body) = .ok (.arrowFunction parameters body) ∧
      Node.ofJson (functionLiteral ["x"] body') = .ok (.arrowFunction parameters body') ∧
        other.environment.kinds = loopingContext.environment.kinds ∧
          Formula.Swapped body body' ∧
            loopingContext.reduce (functionLiteral [] body) = .error error) ∧
      loopingContext.reduce (functionLiteral ["x"] body) = .ok result ∧
        other.reduce (functionLiteral ["x"] body') = .ok result ∧
          Formula.Refuses loopingContext.literal.reduce [] body error := by
  intro body body' other result error
  have product : body.Presents (.binary (Tree.numeral "12") "AsteriskToken" (logarithmOf "x")) :=
    .wrapper rfl (.here rfl)
  have swapped : Formula.Swapped body body' := ⟨_, _, product, .here rfl⟩
  have failed : loopingContext.reduce (functionLiteral [] body) = .error error := by
    rw [Context.reduce_eq_unrolled 1]
    rfl
  have factor : loopingContext.literal.reduce (Tree.numeral "12") = .ok (.integer 12) := by
    rw [Context.reduce_eq_unrolled 1]
    rfl
  have reduced : loopingContext.reduce (functionLiteral ["x"] body) = .ok result :=
    ((Context.reduce_arrowFunction loopingContext rfl).1 result).2
      ⟨.two, Tree.numeral "12", .integer 12, _,
        ⟨"x", logarithmOf "x", .inr ⟨_, rfl, rfl, product⟩, Formula.isLogarithm_logarithmOf,
          Formula.not_isLogarithm_numeral "12" "x"⟩, factor, rfl, rfl⟩
  refine ⟨⟨_, rfl, rfl, rfl, swapped, failed⟩, reduced, ?_, ?_⟩
  · rw [← reduced]
    exact (Context.reduce_arrowFunction loopingContext rfl).2.2.2 other _ body' rfl rfl
      (.inr swapped)
  · exact (Context.reduce_arrowFunction loopingContext rfl).2.2.1 error failed

end Semitones

end SyntaxFold
