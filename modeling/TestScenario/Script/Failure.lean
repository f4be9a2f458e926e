import TestScenario.Script.Value

/-!
Why the evaluation of an expression fails.
-/

namespace TestScenario.Script

/-- The cause of a failed evaluation. -/
inductive EvalError where
  | argumentCount (expected actual : Nat)
  | missingTarget
  | unexpectedType (got want : String)
  | unusableKey (key : Value)
  | noSuchKey (key : String)
  | noOverload
  | undeclared (name : String)
  | notComparable (left right : Value)
  | unsupportedUnary (op : String) (operand : Value)
  | unsupportedBinary (op : String) (left right : Value)
  | mapIndex (index : Value)
  | listIndex (index : Value)
  | unsupportedIndex (value index : Value)
  | outOfBounds (index : Value)
  | divisionByZero (dividend : Value)
  | remainderByZero (dividend : Value)
  | overflow (op : String) (left right : Value)
  | inFunction (function message : String)
  /-- Something that no answer is defined for: a search for no bytes, or a fold over a value without items. -/
  | undefined

namespace EvalError

/-- The cause in words. -/
def message : EvalError → String
  | .argumentCount expected actual =>
    "Invalid argument count: expected " ++ toString expected ++ ", got " ++ toString actual
  | .missingTarget => "Missing argument or target"
  | .unexpectedType got want => "Unexpected type: got '" ++ got ++ "', want '" ++ want ++ "'"
  | .unusableKey key => "Unable to use value '" ++ key.shown ++ "' as a key"
  | .noSuchKey key => "No such key: " ++ key
  | .noOverload => "No such overload"
  | .undeclared name => "Undeclared reference to '" ++ name ++ "'"
  | .notComparable left right => left.shown ++ " can not be compared to " ++ right.shown
  | .unsupportedUnary op operand => "Unsupported unary operator '" ++ op ++ "': " ++ operand.shown
  | .unsupportedBinary op left right =>
    "Unsupported binary operator '" ++ op ++ "': " ++ left.shown ++ ", " ++ right.shown
  | .mapIndex index => "Cannot use value as map index: " ++ index.shown
  | .listIndex index => "Cannot use value as list index: " ++ index.shown
  | .unsupportedIndex value index => "Cannot use value " ++ value.shown ++ " to index " ++ index.shown
  | .outOfBounds index => "Index out of bounds: " ++ index.shown
  | .divisionByZero dividend => "Division by zero of " ++ dividend.shown
  | .remainderByZero dividend => "Remainder by zero of " ++ dividend.shown
  | .overflow op left right =>
    "Overflow from binary operator '" ++ op ++ "': " ++ left.shown ++ ", " ++ right.shown
  | .inFunction function message => "Error executing function '" ++ function ++ "': " ++ message
  | .undefined => "undefined"

end EvalError
end TestScenario.Script
