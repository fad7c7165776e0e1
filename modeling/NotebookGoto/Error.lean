import NotebookGoto.Endpoint
import NotebookGoto.Template.Placeholder
import NotebookGoto.Text.Quoted

/-!
# Errors

Every way in which the library fails, by its cause, and the wording of each in one place. An
error whose cause lies in a file can also be shown with that cause repeated after it, as the
programs do when they give up.
-/

namespace NotebookGoto

open Text

/-- Why a file could not be read as a text. -/
inductive IoFault where
  | notFound | notDirectory | isDirectory | nameTooLong | nulInName | notUtf8
  deriving DecidableEq, Repr

namespace IoFault

/-- The wording of a fault. -/
def message : IoFault → String
  | .notFound => "No such file or directory (os error 2)"
  | .notDirectory => "Not a directory (os error 20)"
  | .isDirectory => "Is a directory (os error 21)"
  | .nameTooLong => "File name too long (os error 36)"
  | .nulInName => "file name contained an unexpected NUL byte"
  | .notUtf8 => "stream did not contain valid UTF-8"

end IoFault

/-- The settings that can be wrong. -/
inductive Setting where
  | bind | baseUrl | extensionName
  deriving DecidableEq, Repr

/-- The name of a setting in a configuration. -/
def Setting.name : Setting → String
  | .bind => "bind"
  | .baseUrl => "base_url"
  | .extensionName => "extension_name"

/-- What is wrong with a setting: the address is none, the path does not start with a slash, a
path segment would not be matched literally, or the name is not a single segment. -/
inductive SettingFault where
  | notAddress (value : String)
  | noLeadingSlash (value : String)
  | notLiteral (segment : String)
  | notOneSegment (value : String)
  deriving DecidableEq, Repr

/-- The wording of a fault. -/
def SettingFault.reason : SettingFault → String
  | .notAddress value => quoted value ++ ": invalid socket address syntax"
  | .noLeadingSlash value => "must start with '/', got " ++ quoted value
  | .notLiteral segment => "segment " ++ quoted segment ++ " is not a literal path segment"
  | .notOneSegment value => "must be a single path segment, got " ++ quoted value

/-- Why a cell cannot be looked into. -/
inductive CellFault where
  | outOfRange (index count : Nat)
  | notCode (index : Nat)
  | tooManyLines (index : Nat)
  deriving DecidableEq, Repr

/-- The wording of a fault. -/
def CellFault.reason : CellFault → String
  | .outOfRange index count =>
    "active cell " ++ Decimal.text index ++ " out of range (" ++ Decimal.text count ++ " cells)"
  | .notCode index => "active cell " ++ Decimal.text index ++ " is not a code cell"
  | .tooManyLines index =>
    "code cells before cell " ++ Decimal.text index ++ " exceed 4294967295 lines"

/-- What a probe finds wrong with a server. -/
inductive ProbeFault where
  | rejected (endpoint : Endpoint)
  | notFound (endpoint : Endpoint)
  | missing (placeholders : List Placeholder)
  deriving DecidableEq, Repr

/-- The wording of a fault. -/
def ProbeFault.reason : ProbeFault → String
  | .rejected endpoint => endpoint.name ++ ": token rejected"
  | .notFound endpoint =>
    endpoint.name ++ ": not found (wrong base URL or extension name?)"
  | .missing placeholders =>
    "template is missing placeholders: " ++ ", ".intercalate (placeholders.map (·.token))

/-- Why an exchange with a server gave nothing: the request could not be made, no answer came,
the answer has a status that tells of an error, or its body is not what was asked for. -/
inductive HttpFault where
  | request | connection | status (code : Nat) | body
  deriving DecidableEq, Repr

/-- The wording of a fault, as far as it does not depend on the library that speaks HTTP: the URL
and the cause that the library adds are left out. -/
def HttpFault.message : HttpFault → String
  | .request => "builder error"
  | .connection => "error sending request"
  | .status code => "HTTP status " ++ Decimal.text code
  | .body => "error decoding response body"

/-- The causes of failure. Of a text that could not be read as TOML or JSON it is only recorded that
it could not. -/
inductive Error where
  | configUnreadable (path : String) (fault : IoFault)
  | configMalformed (path : String)
  | setting (key : Setting) (fault : SettingFault)
  | position (line : UInt32)
  | cell (fault : CellFault)
  | noReport (output : String)
  | inconsistentReport (file message : String)
  | incompleteReport
  | probe (fault : ProbeFault)
  | http (fault : HttpFault)
  | io (fault : IoFault)
  | json
  deriving DecidableEq, Repr

namespace Error

/-- The wording of an error. What the readers of TOML and of JSON tell of a text is left out: the
message of a malformed configuration and that of a JSON error end where the reader's own account
begins. -/
def message : Error → String
  | .configUnreadable path fault => "failed to read config " ++ path ++ ": " ++ fault.message
  | .configMalformed path => "invalid config " ++ path
  | .setting key fault => "invalid config value for " ++ key.name ++ ": " ++ fault.reason
  | .position line =>
    "invalid cursor position: line " ++ Decimal.text line.toNat ++ " (lines are 1-based)"
  | .cell fault => "invalid notebook cell: " ++ fault.reason
  | .noReport output => "kernel produced no JSON result: " ++ quoted output
  | .inconsistentReport file message =>
    "result carries both a definition (" ++ file ++ ") and an error (" ++ message ++ ")"
  | .incompleteReport => "result is incomplete: no file and no error"
  | .probe fault => "server check failed: " ++ fault.reason
  | .http fault => "HTTP error: " ++ fault.message
  | .io fault => "I/O error: " ++ fault.message
  | .json => "JSON error"

/-- The wording of an error, followed by that of its own cause where it has one. -/
def trace : Error → String
  | .configUnreadable path fault =>
    message (.configUnreadable path fault) ++ ": " ++ fault.message
  | .io fault => message (.io fault) ++ ": " ++ fault.message
  | e => e.message

end Error

end NotebookGoto
