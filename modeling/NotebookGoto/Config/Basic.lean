/-!
# The server's configuration

Where the server listens, under which path it answers and which token its clients have to
present. Each of the four settings has a value when nothing else is said; the token has none,
and is then made up when the server starts.
-/

namespace NotebookGoto

/-- The settings of a server. -/
structure Config where
  bind : String
  baseUrl : String
  extensionName : String
  token : Option String
  deriving DecidableEq, Repr

namespace Config

/-- The path segment that the endpoints live under, when nothing else is said. -/
def defaultExtensionName : String :=
  "jupyterlab-jump-to-definition-fix"

/-- The configuration file, when nothing else is said. -/
def defaultFile : String :=
  "jumpdef.toml"

/-- The settings when nothing else is said. -/
def default : Config where
  bind := "127.0.0.1:8888"
  baseUrl := "/"
  extensionName := defaultExtensionName
  token := none

end Config

end NotebookGoto
