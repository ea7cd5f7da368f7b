/-!
# Errors

What can go wrong, as causes: while a template is read (`SyntaxError`), while it is rendered
(`RuntimeError`), and while data of the host is turned into values (`ConversionError`). The wording
is in the `message` functions only.
-/

namespace Stencil

/-! ## Reading templates -/

/-- What is wrong with markup whose tokens are well formed. -/
inductive Fault where
  | integerOutOfRange (digits : String)
  | decimalOutOfRange (digits : String)
  /-- A branch follows the `else` of a conditional. -/
  | branchAfterElse (tag block : String)
  | missingIn (name block : String)
  | unknownAttribute (key block : String)
  | missingOr (found : String)
  deriving DecidableEq, Repr

/-- Problems found while a template is read. -/
inductive SyntaxError where
  | unknownTag (name : String)
  | unclosedTag (name : String)
  | missingMarkup (name : String)
  | unexpectedCharacter (c : Char)
  | unexpectedToken (expected found : String)
  | unknownOperator (symbol : String)
  | invalid (fault : Fault)
  deriving DecidableEq, Repr

/-- The wording of a fault. -/
def Fault.message : Fault → String
  | .integerOutOfRange digits => "integer out of range: " ++ digits
  | .decimalOutOfRange digits => "decimal out of range: " ++ digits
  | .branchAfterElse tag block => "'" ++ tag ++ "' after 'else' in '" ++ block ++ "'"
  | .missingIn name block => "expected 'in' after '" ++ name ++ "' in '" ++ block ++ "'"
  | .unknownAttribute key block =>
    "unknown attribute '" ++ key ++ "' in '" ++ block ++ "'"
  | .missingOr found => "expected \"or\" but found " ++ found

/-- The wording of a syntax error. -/
def SyntaxError.message : SyntaxError → String
  | .unknownTag name => "Unknown tag: " ++ name
  | .unclosedTag name => "Tag was never closed: " ++ name
  | .missingMarkup name => "Tag requires markup: " ++ name
  | .unexpectedCharacter c => "Unexpected character: " ++ String.singleton c
  | .unexpectedToken expected found =>
    "Unexpected token: expected " ++ expected ++ ", found " ++ found
  | .unknownOperator symbol => "Unknown operator: " ++ symbol
  | .invalid fault => "Invalid syntax: " ++ fault.message

/-! ## Rendering -/

/-- Why a filter cannot work on its values. -/
inductive TypeFault where
  | divisionByZero (filter : String)
  | overflow (filter : String)
  | notAnArray (filter : String)
  | notADate (text : String)
  | dateFormat (format : String)
  deriving DecidableEq, Repr

/-- Why a file cannot be read. -/
inductive FileFault where
  | missing
  | belowAFile
  | directory
  | nameTooLong
  | nulInName
  | notText
  deriving DecidableEq, Repr

/-- Why a text is no pattern for paths. -/
inductive PatternFault where
  | range
  | recursive
  | wildcards
  deriving DecidableEq, Repr

/-- Why a partial cannot be had. -/
inductive StorageFault where
  | includesForbidden
  | illegalPath (path : String)
  | notFound (name : String)
  | unreadable (file : String) (fault : FileFault)
  | invalidPattern (pattern : String) (position : Nat) (fault : PatternFault)
  | emptyName (expression : String)
  deriving DecidableEq, Repr

/-- Problems raised while a template is rendered. -/
inductive RuntimeError where
  | unknownFilter (name : String)
  | argumentCount (filter : String) (expected received : Nat)
  | wrongType (fault : TypeFault)
  | fileSystem (fault : StorageFault)
  | includeDepthExceeded (path : String)
  deriving DecidableEq, Repr

/-- The wording of a type fault. -/
def TypeFault.message : TypeFault → String
  | .divisionByZero filter => filter ++ ": division by zero"
  | .overflow filter => filter ++ ": numeric overflow"
  | .notAnArray filter => filter ++ " requires an array argument"
  | .notADate text => "Could not convert '" ++ text ++ "' to date"
  | .dateFormat format => "Invalid date format '" ++ format ++ "'"

/-- The wording of a file fault. -/
def FileFault.message : FileFault → String
  | .missing => "No such file or directory (os error 2)"
  | .belowAFile => "Not a directory (os error 20)"
  | .directory => "Is a directory (os error 21)"
  | .nameTooLong => "File name too long (os error 36)"
  | .nulInName => "file name contained an unexpected NUL byte"
  | .notText => "stream did not contain valid UTF-8"

/-- The wording of a pattern fault. -/
def PatternFault.message : PatternFault → String
  | .range => "invalid range pattern"
  | .recursive => "recursive wildcards must form a single path component"
  | .wildcards => "wildcards are either regular `*` or recursive `**`"

/-- The wording of a storage fault. -/
def StorageFault.message : StorageFault → String
  | .includesForbidden => "This liquid context does not allow includes."
  | .illegalPath path => "Illegal template path '" ++ path ++ "'"
  | .notFound name => "Template '" ++ name ++ "' not found"
  | .unreadable file fault => "Failed to read '" ++ file ++ "': " ++ fault.message
  | .invalidPattern pattern position fault =>
    "Invalid glob pattern '" ++ pattern ++ "': Pattern syntax error near position " ++
      toString position ++ ": " ++ fault.message
  | .emptyName expression =>
    "include requires a template name, '" ++ expression ++ "' is empty"

/-- The wording of a runtime error. -/
def RuntimeError.message : RuntimeError → String
  | .unknownFilter name => "Unknown filter: " ++ name
  | .argumentCount filter expected received =>
    "Filter '" ++ filter ++ "' expects " ++ toString expected ++ " argument(s), received " ++
      toString received
  | .wrongType fault => "Wrong type: " ++ fault.message
  | .fileSystem fault => "File System Error: " ++ fault.message
  | .includeDepthExceeded path => "Include depth exceeded while rendering '" ++ path ++ "'"

/-! ## Converting data -/

/-- Problems met while data of the host is turned into values. A value that is in the way is shown
as its inspection. -/
inductive ConversionError where
  | floatWithoutDecimal (float : String)
  | integerTooWide (integer : Int)
  | keyNotAString (inspected : String)
  | missingKey
  | notADictionary (inspected : String)
  | refused (reason : String)
  deriving DecidableEq, Repr

/-- The wording of a conversion error. -/
def ConversionError.message : ConversionError → String
  | .floatWithoutDecimal float => "Float " ++ float ++ " has no decimal representation"
  | .integerTooWide integer => "Integer " ++ toString integer ++ " does not fit in 64 bits"
  | .keyNotAString inspected => "Dictionary keys must be strings, got " ++ inspected
  | .missingKey => "Missing key for value"
  | .notADictionary inspected => "render data must be a dictionary, got " ++ inspected
  | .refused reason => reason

/-! ## All errors -/

/-- Any error. -/
inductive Error where
  | reading (cause : SyntaxError)
  | rendering (cause : RuntimeError)
  | conversion (cause : ConversionError)
  deriving DecidableEq, Repr

/-- The wording of an error. -/
def Error.message : Error → String
  | .reading cause => "Syntax Error: " ++ cause.message
  | .rendering cause => "Runtime Error: " ++ cause.message
  | .conversion cause => "Value Conversion Error: " ++ cause.message

end Stencil
