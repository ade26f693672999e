import Teardown.Foreign

/-!
# Making foreign errors

An error is made from a name and arguments. Some names refuse arguments that do not fit, and the
system error takes the name that belongs to its number.
-/

namespace Teardown.Foreign

set_option autoImplicit false

inductive Misfit where
  | wrongCount (maker : String) (expected given : Nat)
  | notText (maker : String) (position : Nat) (kind : String)
  | notBytes (kind : String)
  | notWhole (kind : String)
  | sizeOutOfRange
  | countOutOfRange
  | notASequence
  | noMembers
  | strangeMember
  | notIterable (kind : String)
  | tooFewDetails (given : Nat)
  | tooManyDetails (given : Nat)
  | halfSpan
  deriving DecidableEq, Repr

namespace Misfit

def name : Misfit → String
  | .wrongCount _ _ _ => "TypeError"
  | .notText _ _ _ => "TypeError"
  | .notBytes _ => "TypeError"
  | .notWhole _ => "TypeError"
  | .sizeOutOfRange => "OverflowError"
  | .countOutOfRange => "ValueError"
  | .notASequence => "TypeError"
  | .noMembers => "ValueError"
  | .strangeMember => "ValueError"
  | .notIterable _ => "TypeError"
  | .tooFewDetails _ => "TypeError"
  | .tooManyDetails _ => "TypeError"
  | .halfSpan => "TypeError"

def message : Misfit → String
  | .wrongCount maker expected given =>
      maker ++ " takes exactly " ++ Text.decimal expected ++ " arguments (" ++
        Text.decimal given ++ " given)"
  | .notText maker position kind =>
      maker ++ "argument " ++ Text.decimal position ++ " must be str, not " ++ kind
  | .notBytes kind => "a bytes-like object is required, not '" ++ kind ++ "'"
  | .notWhole kind => "'" ++ kind ++ "' object cannot be interpreted as an integer"
  | .sizeOutOfRange => "Python int too large to convert to C ssize_t"
  | .countOutOfRange => "cannot fit 'int' into an index-sized integer"
  | .notASequence => "second argument (exceptions) must be a sequence"
  | .noMembers => "second argument (exceptions) must be a non-empty sequence"
  | .strangeMember => "Item 0 of second argument (exceptions) is not an exception"
  | .notIterable kind => "'" ++ kind ++ "' object is not iterable"
  | .tooFewDetails given =>
      "function takes at least 4 arguments (" ++ Text.decimal given ++ " given)"
  | .tooManyDetails given =>
      "function takes at most 6 arguments (" ++ Text.decimal given ++ " given)"
  | .halfSpan => "end_offset must be provided when end_lineno is provided"

end Misfit

def textArgument (maker : String) (position : Nat) : Value → Except Misfit String
  | .string text => .ok text
  | .null => .error (.notText maker position "None")
  | other => .error (.notText maker position other.kindName)

def wholeArgument (outOfRange : Misfit) : Value → Except Misfit Int
  | .bool flag => .ok (if flag then 1 else 0)
  | .int number =>
      if -(Int.pow 2 63) ≤ number ∧ number < Int.pow 2 63 then .ok number else .error outOfRange
  | other => .error (.notWhole other.kindName)

def systemErrorNames : List (Int × String) :=
  [ (1, "PermissionError"), (2, "FileNotFoundError"), (3, "ProcessLookupError"),
    (4, "InterruptedError"), (10, "ChildProcessError"), (11, "BlockingIOError"),
    (13, "PermissionError"), (17, "FileExistsError"), (20, "NotADirectoryError"),
    (21, "IsADirectoryError"), (32, "BrokenPipeError"), (103, "ConnectionAbortedError"),
    (104, "ConnectionResetError"), (108, "BrokenPipeError"), (110, "TimeoutError"),
    (111, "ConnectionRefusedError"), (114, "BlockingIOError"), (115, "BlockingIOError") ]

def systemErrorName? (number : Value) : Option String :=
  match number with
  | .int value => systemErrorNames.lookup value
  | .bool flag => systemErrorNames.lookup (if flag then 1 else 0)
  | _ => none

/-- Other spellings of the system error are the same error, and a system error with a number takes
the name of that number. -/
def properName (name : String) (arguments : List Value) : String :=
  if name = "OSError" ∨ name = "IOError" ∨ name = "EnvironmentError" then
    match arguments with
    | number :: _ =>
        if hasSystemNumber arguments then (systemErrorName? number).getD "OSError" else "OSError"
    | [] => "OSError"
  else name

def makeBlocked (arguments : List Value) : Except Misfit Foreign :=
  match arguments with
  | number :: description :: written :: rest =>
      if hasSystemNumber arguments && written.isNumber then
        (wholeArgument .countOutOfRange written).map fun _ =>
          ⟨"BlockingIOError", [number, description]⟩
      else .ok ⟨"BlockingIOError", number :: description :: written :: rest⟩
  | few => .ok ⟨"BlockingIOError", few⟩

def groupMaker : String := "BaseExceptionGroup.__new__()"

/-- The members of a group are errors, which are no stored values, so no group can be made. -/
def groupMisfit (arguments : List Value) : Misfit :=
  match arguments with
  | [title, members] =>
      match textArgument (groupMaker ++ " ") 1 title, members with
      | .error misfit, _ => misfit
      | .ok _, .string text => if text.isEmpty then .noMembers else .strangeMember
      | .ok _, .list items => if items.isEmpty then .noMembers else .strangeMember
      | .ok _, _ => .notASequence
  | other => .wrongCount groupMaker 2 other.length

def checkSpan (first : Nat) (start stop reason : Value) : Except Misfit Unit := do
  let _ ← wholeArgument .sizeOutOfRange start
  let _ ← wholeArgument .sizeOutOfRange stop
  let _ ← textArgument "" (first + 2) reason

def checkCoding (name : String) (arguments : List Value) : Except Misfit Unit :=
  match name, arguments with
  | "UnicodeTranslateError", [text, start, stop, reason] => do
      let _ ← textArgument "" 1 text
      checkSpan 2 start stop reason
  | "UnicodeTranslateError", other => .error (.wrongCount "function" 4 other.length)
  | _, [coding, text, start, stop, reason] => do
      let _ ← textArgument "" 1 coding
      if name = "UnicodeEncodeError" then
        let _ ← textArgument "" 2 text
        checkSpan 3 start stop reason
      else
        checkSpan 3 start stop reason
        throw (.notBytes text.kindName)
  | _, other => .error (.wrongCount "function" 5 other.length)

structure Place where
  file : Value
  line : Value
  column : Value
  text : Value
  endLine : Value
  endColumn : Value
  deriving Repr

def members (value : Value) : Except Misfit (List Value) :=
  match value with
  | .string text => .ok (text.toList.map fun character => .string (String.singleton character))
  | .list items => .ok items
  | .mapping entries => .ok (entries.map (·.1))
  | other => .error (.notIterable other.kindName)

/-- A place is given by four things, or by six with the end of the span. -/
def placeOf (details : Value) : Except Misfit Place := do
  match ← members details with
  | [file, line, column, text] => return ⟨file, line, column, text, .null, .null⟩
  | [file, line, column, text, endLine, endColumn] =>
      return ⟨file, line, column, text, endLine, endColumn⟩
  | [_, _, _, _, _] => throw .halfSpan
  | other =>
      if other.length < 4 then throw (.tooFewDetails other.length)
      else throw (.tooManyDetails other.length)

/-- The second of two arguments of an error about grammar is a place. -/
def checkGrammar (arguments : List Value) : Except Misfit Unit :=
  match arguments with
  | [_, details] => (placeOf details).map fun _ => ()
  | _ => .ok ()

def make (name : String) (arguments : List Value) : Except Misfit Foreign :=
  let proper := properName name arguments
  if proper = "BlockingIOError" then makeBlocked arguments
  else if proper = "ExceptionGroup" ∨ proper = "BaseExceptionGroup" then
    .error (groupMisfit arguments)
  else if codingNames.contains proper then
    (checkCoding proper arguments).map fun _ => ⟨proper, arguments⟩
  else if grammarNames.contains proper then
    (checkGrammar arguments).map fun _ => ⟨proper, arguments⟩
  else .ok ⟨proper, arguments⟩

end Teardown.Foreign
