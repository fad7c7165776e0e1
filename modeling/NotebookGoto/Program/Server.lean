import NotebookGoto.Config.Check
import NotebookGoto.Program.Client

/-!
# The server program

What the server does before it listens: it gathers its settings, checks them, and makes sure that
it has a token. A token that had to be made up is announced in a URL that leads to the greeting.
-/

namespace NotebookGoto

/-- A site at the paths of a configuration. What its reader of bodies tells of a body that it
refuses is left out. -/
def Config.site (c : Config) (token : Http.Token) (template : String) : Http.Site where
  baseUrl := c.baseUrl
  extensionName := c.extensionName
  token := token
  template := template

namespace Program

open CommandLine

/-- A server that is ready to listen: where, what it answers, and whether its token was made up. -/
structure Ready where
  address : SocketAddress
  site : Http.Site
  fresh : Bool

namespace Ready

/-- The server of a configuration, with the token to use where the configuration has none. -/
def ofConfig (c : Config) (freshToken : String) : Except Error Ready := do
  c.check
  let address ← c.address
  let (token, fresh) := c.ensureToken freshToken
  return ⟨address, c.site ⟨token⟩ Template.jedi, fresh⟩

/-- The path of the greeting. -/
def helloPath (r : Ready) : List Char :=
  Http.Route.path r.site.baseUrl r.site.extensionName .hello

/-- The path and query of the URL that is announced when the token was made up. -/
def announced? (r : Ready) : Option (List Char) :=
  if r.fresh then some (r.helloPath ++ "?token=".toList ++ r.site.token.secret.toList) else none

end Ready

/-- The server that a command starts. -/
def server (w : Surroundings) (freshToken : String) (c : ServerCommand) : Except Abort Ready := do
  let config ← (c.gather w).mapError (.error (some ("loading " ++ c.config)))
  plain (Ready.ofConfig config freshToken)

end Program

end NotebookGoto
