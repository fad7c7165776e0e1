import NotebookGoto.Endpoint
import NotebookGoto.Text.Blank

/-!
# Routes

The path of an endpoint is the server's base path, the extension's name and the endpoint's name,
joined so that exactly one slash stands between two parts. A registered path matches the paths
that are equal to it, segment by segment; where a registered segment holds a colon, what follows
the colon stands for any text, also for the empty one. A path with other marks in it is refused when
it is registered, so it does not matter what it would match.
-/

namespace NotebookGoto.Http.Route

open Text

/-- A text without the slashes at its ends. -/
def trimSlashes (s : List Char) : List Char :=
  trimBy (· = '/') s

/-- Whether a text ends in a slash. -/
def endsInSlash (s : List Char) : Bool :=
  s.getLast? = some '/'

/-- Parts joined to a path: it starts with a slash, one slash stands between two parts, parts of
nothing but slashes are left out, and a slash at the end of the last part is kept. -/
def join (parts : List (List Char)) : List Char :=
  let joined := '/' :: ['/'].intercalate ((parts.map trimSlashes).filter (· ≠ []))
  if (parts.getLast?.map endsInSlash).getD false && !endsInSlash joined then joined ++ ['/']
  else joined

/-- The path of what has a name under an extension. -/
def pathTo (baseUrl extensionName name : String) : List Char :=
  join [baseUrl.toList, extensionName.toList, name.toList]

/-- The path of an endpoint. -/
def path (baseUrl extensionName : String) (e : Endpoint) : List Char :=
  pathTo baseUrl extensionName e.name

/-- Whether a registered segment matches a segment: what stands before its colon must be how the
segment starts, and without a colon the two are equal. -/
def matchesSegment (registered segment : List Char) : Bool :=
  let literal := registered.takeWhile (· ≠ ':')
  if literal.length = registered.length then registered = segment
  else literal.isPrefixOf segment

/-- Whether the segments of a registered path match those of a path, one by one. -/
def matchesAll : List (List Char) → List (List Char) → Bool
  | [], [] => true
  | r :: registered, s :: segments => matchesSegment r s && matchesAll registered segments
  | _, _ => false

/-- Whether a registered path matches a path. -/
def accepts (registered path : List Char) : Bool :=
  matchesAll (registered.splitOn '/') (path.splitOn '/')

end NotebookGoto.Http.Route
