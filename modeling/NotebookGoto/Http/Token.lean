import NotebookGoto.Http.Message
import NotebookGoto.Http.Query

/-!
# Tokens

A client shows that it may use a server by presenting the server's token, either in the field
`Authorization` after the word `token` or `bearer`, or else in the query under the key `token`.
The first such field decides if it can be read that way, whatever the query says.
-/

namespace NotebookGoto.Http

open Text

/-- The token that a server asks for. -/
structure Token where
  secret : String
  deriving DecidableEq

namespace Token

/-- Whether a presented text is the token. The empty text never is. -/
def verify (t : Token) (presented : String) : Bool :=
  presented ≠ "" && presented = t.secret

/-- A token as messages show it. -/
def shown : String :=
  "TokenAuth \x7b .. \x7d"

end Token

namespace Request

/-- The words that may stand before a token. -/
def schemes : List (List Char) :=
  ["token".toList, "bearer".toList]

/-- The token in the value of a field: what follows the scheme and a space. -/
def credential? (value : List Char) : Option (List Char) :=
  let value := trim value
  match value.dropWhile (· ≠ ' ') with
  | [] => none
  | _ :: rest =>
    if schemes.any (Header.sameName · (value.takeWhile (· ≠ ' '))) then some (trim rest) else none

/-- The token that a request presents. -/
def token? (r : Request) : Option String :=
  let fromHeader := (r.header? "authorization".toList).bind credential?
  let fromQuery := r.target.query.bind (Query.single? "token".toList)
  (fromHeader <|> fromQuery).map String.ofList

end Request

end NotebookGoto.Http
