/-!
# Mismatches

A value of the wrong kind for what is asked of it.
-/

namespace Teardown

set_option autoImplicit false

inductive Mismatch where
  | missingProperty (kind property : String)
  | notCallable (kind : String)
  | notIndexable (kind : String)
  | indexOutOfRange (sequence : String)
  | notAListIndex (kind : String)
  | notHashable (kind : String)
  | notAddable (left right : String)
  | notJoinable (left right : String)
  | notSubtractable (left right : String)
  | notASlice
  | notACount (kind : String)
  | countTooLarge
  | countWithoutRoom
  | notComparable (left right : String)
  | notANumber
  | infinite
  deriving DecidableEq, Repr

namespace Mismatch

def name : Mismatch → String
  | .missingProperty _ _ => "AttributeError"
  | .indexOutOfRange _ => "IndexError"
  | .countTooLarge | .infinite => "OverflowError"
  | .notANumber => "ValueError"
  | .countWithoutRoom => "MemoryError"
  | _ => "TypeError"

def message : Mismatch → String
  | .missingProperty kind property =>
      "'" ++ kind ++ "' object has no attribute '" ++ property ++ "'"
  | .notCallable kind => "'" ++ kind ++ "' object is not callable"
  | .notIndexable kind => "'" ++ kind ++ "' object is not subscriptable"
  | .indexOutOfRange sequence => sequence ++ " index out of range"
  | .notAListIndex kind => "list indices must be integers or slices, not " ++ kind
  | .notHashable kind => "unhashable type: '" ++ kind ++ "'"
  | .notAddable left right =>
      "unsupported operand type(s) for +: '" ++ left ++ "' and '" ++ right ++ "'"
  | .notJoinable left right =>
      "can only concatenate " ++ left ++ " (not \"" ++ right ++ "\") to " ++ left
  | .notSubtractable left right =>
      "unsupported operand type(s) for -: '" ++ left ++ "' and '" ++ right ++ "'"
  | .notASlice => "slice indices must be integers or None or have an __index__ method"
  | .notACount kind => "can't multiply sequence by non-int of type '" ++ kind ++ "'"
  | .countTooLarge => "cannot fit 'int' into an index-sized integer"
  | .countWithoutRoom => ""
  | .notComparable left right =>
      "'<' not supported between instances of '" ++ left ++ "' and '" ++ right ++ "'"
  | .notANumber => "cannot convert float NaN to integer"
  | .infinite => "cannot convert float infinity to integer"

end Mismatch

end Teardown
