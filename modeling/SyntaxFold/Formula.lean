import SyntaxFold.Node.Wrapper
import SyntaxFold.Value.Basic

/-!
# Logarithm formulas

Function literals are not evaluated in general. The one shape that is recognized is a product of a
factor and the logarithm of the parameter, `x => k * Math.log2(x)`, with either logarithm and with
the factor on either side. Parentheses and type assertions around the body and around either side
make no difference. Recognition only looks at the syntax; the factor is left to be reduced.
-/

namespace SyntaxFold

namespace Formula

/-- The logarithm of the given parameter that a node calls, if it calls one. -/
def logarithmOf? (parameter : String) (node : Json) : Option LogBase :=
  match Node.ofJson (unwrap node) with
  | .ok (.call callee [argument]) =>
    match Node.ofJson callee with
    | .ok (.propertyAccess object member) =>
      if isIdentifier "Math" object && isIdentifier parameter argument then
        match member with
        | "log" => some .natural
        | "log2" => some .two
        | _ => none
      else none
    | _ => none
  | _ => none

/-- The two sides of a product. -/
def product? (body : Json) : Option (Json × Json) :=
  match Node.ofJson (unwrap body) with
  | .ok (.binary left "AsteriskToken" right) => some (left, right)
  | _ => none

/-- The logarithm and the factor of a function literal. Exactly one side of the product must be the
logarithm of the parameter. -/
def recognize (parameters : List Json) (body : Json) : Except FormulaFault (LogBase × Json) :=
  match parameters with
  | [parameter] =>
    match declarationName parameter with
    | none => .error .unnamedParameter
    | some name =>
      match product? body with
      | none => .error .notProduct
      | some (left, right) =>
        match logarithmOf? name left, logarithmOf? name right with
        | some base, none => .ok (base, right)
        | none, some base => .ok (base, left)
        | _, _ => .error (.noLogarithm name)
  | _ => .error (.parameterCount parameters.length)

/-- The factor of a formula is smaller than the body that holds it. -/
theorem sizeOf_lt_of_recognize {parameters : List Json} {body factor : Json} {base : LogBase}
    (recognized : recognize parameters body = .ok (base, factor)) :
    sizeOf factor < sizeOf body := by
  unfold recognize at recognized
  split at recognized
  · split at recognized
    · cases recognized
    · split at recognized
      · cases recognized
      · rename_i left right isProduct
        unfold product? at isProduct
        split at isProduct
        · rename_i shape
          have fits := Node.fits_of_ofJson shape
          have le := sizeOf_unwrap_le body
          simp only [Node.Fits] at fits
          cases isProduct
          split at recognized <;> cases recognized <;> omega
        · cases isProduct
  · cases recognized

end Formula

end SyntaxFold
