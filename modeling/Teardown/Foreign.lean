import Teardown.Value

/-!
# Foreign errors

Errors that collaborators raise: a name and the arguments that the error is made from. The name
decides who may handle the error.
-/

namespace Teardown

set_option autoImplicit false

/-- How a foreign error takes part in the handling of failures. -/
inductive Family where
  | ordinary
  | connectivity
  | exhausted
  | cancellation
  | fatal
  deriving DecidableEq, Repr

structure Foreign where
  name : String
  arguments : List Value
  deriving Repr

namespace Foreign

def connectivityNames : List String :=
  [ "OSError", "BlockingIOError", "ChildProcessError", "ConnectionError", "BrokenPipeError",
    "ConnectionAbortedError", "ConnectionRefusedError", "ConnectionResetError",
    "FileExistsError", "FileNotFoundError", "InterruptedError", "IsADirectoryError",
    "NotADirectoryError", "PermissionError", "ProcessLookupError", "TimeoutError" ]

def fatalNames : List String :=
  [ "BaseException", "BaseExceptionGroup", "GeneratorExit", "KeyboardInterrupt", "SystemExit" ]

def family (error : Foreign) : Family :=
  if error.name = "CancelledError" then .cancellation
  else if error.name = "StopIteration" then .exhausted
  else if connectivityNames.contains error.name then .connectivity
  else if fatalNames.contains error.name then .fatal
  else .ordinary

def isTimeout (error : Foreign) : Bool := error.name == "TimeoutError"

def codingNames : List String :=
  ["UnicodeEncodeError", "UnicodeDecodeError", "UnicodeTranslateError"]

def grammarNames : List String := ["SyntaxError", "IndentationError", "TabError"]

/-- A system error has a number and a description, and up to three things more. -/
def hasSystemNumber (arguments : List Value) : Bool :=
  2 ≤ arguments.length && arguments.length ≤ 5

end Foreign

end Teardown
