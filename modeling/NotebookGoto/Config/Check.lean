import NotebookGoto.Config.Address
import NotebookGoto.Config.Basic
import NotebookGoto.Error
import NotebookGoto.Http.Route

/-!
# Checking a configuration

A server starts only with settings that make sense: it must be able to read the address, and
every segment of its paths must stand for itself, so that the paths it answers at are the paths
it was told. The settings are looked at in the order of the address, the base path and the
extension's name, and the first one that is wrong is reported. A token that is not set is made up.
-/

namespace NotebookGoto.Config

open Text

/-- The address to listen at. -/
def address (c : Config) : Except Error SocketAddress :=
  match SocketAddress.ofText? c.bind.toList with
  | some a => .ok a
  | none => .error (.setting .bind (.notAddress c.bind))

/-- Whether a path segment stands for itself: it does not start with the mark of a capture or of
a wildcard, and it holds no brace. -/
def isLiteral (segment : List Char) : Bool :=
  segment.head? ≠ some ':' && segment.head? ≠ some '*'
    && '\x7b' ∉ segment && '\x7d' ∉ segment

/-- That all segments of a path stand for themselves. -/
def checkLiteral (key : Setting) (path : List Char) : Except Error Unit :=
  match (path.splitOn '/').find? (!isLiteral ·) with
  | some segment => .error (.setting key (.notLiteral (String.ofList segment)))
  | none => .ok ()

/-- That the base path is an absolute path of literal segments. -/
def checkBaseUrl (c : Config) : Except Error Unit :=
  if c.baseUrl.toList.head? ≠ some '/' then .error (.setting .baseUrl (.noLeadingSlash c.baseUrl))
  else checkLiteral .baseUrl c.baseUrl.toList

/-- That the extension's name is one literal segment, perhaps with slashes around it. -/
def checkExtensionName (c : Config) : Except Error Unit :=
  let name := Http.Route.trimSlashes c.extensionName.toList
  if name = [] ∨ '/' ∈ name then
    .error (.setting .extensionName (.notOneSegment c.extensionName))
  else checkLiteral .extensionName name

/-- That a server can start with these settings. -/
def check (c : Config) : Except Error Unit := do
  let _ ← c.address
  c.checkBaseUrl
  c.checkExtensionName

/-- The token of a configuration, and whether it had to be made up. -/
def ensureToken (c : Config) (fresh : String) : String × Bool :=
  match c.token with
  | some token => (token, false)
  | none => (fresh, true)

/-- A configuration that has a token. -/
def withToken (c : Config) (fresh : String) : Config :=
  { c with token := some (c.ensureToken fresh).1 }

end NotebookGoto.Config
