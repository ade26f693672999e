import Teardown.Failure

/-!
# Log levels

The standard levels and their names. A level is asked for by name in any case; an unknown name
stands for the level of plain information, and two reserved names stand for no level at all.
-/

namespace Teardown.Log

set_option autoImplicit false

def debugLevel : Int := 10

def infoLevel : Int := 20

def warningLevel : Int := 30

def errorLevel : Int := 40

def levelName (level : Int) : String :=
  if level = 0 then "NOTSET"
  else if level = debugLevel then "DEBUG"
  else if level = infoLevel then "INFO"
  else if level = warningLevel then "WARNING"
  else if level = errorLevel then "ERROR"
  else if level = 50 then "CRITICAL"
  else "Level " ++ Text.decimal level

/-- The upper-case form of the characters whose form is made of plain letters; any other character
stays, for it is in no level name. -/
def upperForm (character : Char) : List Char :=
  let code := character.toNat
  if code = 0x131 then ['I']
  else if code = 0x17F then ['S']
  else if code = 0xDF then ['S', 'S']
  else if code = 0xFB00 then ['F', 'F']
  else if code = 0xFB01 then ['F', 'I']
  else if code = 0xFB02 then ['F', 'L']
  else if code = 0xFB03 then ['F', 'F', 'I']
  else if code = 0xFB04 then ['F', 'F', 'L']
  else if code = 0xFB05 ∨ code = 0xFB06 then ['S', 'T']
  else [character.toUpper]

def upperName (name : String) : String :=
  String.ofList (name.toList.flatMap upperForm)

/-- What a name can stand for. -/
inductive NameMeaning where
  | level (level : Int)
  | text (text : String)
  | table (text : String)
  deriving DecidableEq, Repr

def basicFormat : String := "%(levelname)s:%(name)s:%(message)s"

def styleTable : String :=
  "\x7b'%': (<class 'logging.PercentStyle'>, '" ++ basicFormat ++ "'), '\x7b': " ++
    "(<class 'logging.StrFormatStyle'>, '\x7blevelname\x7d:\x7bname\x7d:\x7bmessage\x7d'), '$': " ++
    "(<class 'logging.StringTemplateStyle'>, " ++
    "'$\x7blevelname\x7d:$\x7bname\x7d:$\x7bmessage\x7d')\x7d"

def meaningTable : List (String × NameMeaning) :=
  [ ("CRITICAL", .level 50), ("FATAL", .level 50), ("ERROR", .level errorLevel),
    ("WARNING", .level warningLevel), ("WARN", .level warningLevel), ("INFO", .level infoLevel),
    ("DEBUG", .level debugLevel), ("NOTSET", .level 0), ("BASIC_FORMAT", .text basicFormat),
    ("_STYLES", .table styleTable) ]

def nameMeaning (name : String) : NameMeaning :=
  (meaningTable.lookup (upperName name)).getD (.level infoLevel)

def levelOfName (name : String) : Except Failure Int :=
  match nameMeaning name with
  | .level level => .ok level
  | .text text => .error (.levelIsText text)
  | .table text => .error (.levelIsTable text)

end Teardown.Log
