import NotebookGoto.Http.Site
import NotebookGoto.Http.Url

/-!
# Probing a server

A probe asks a server for its greeting and then for its template, and finds out whether a client
with a certain token could work with it. What the network does is a function from requests to
responses, which has none where no connection comes about. The outcome is the greeting and the
length of the template, or the first thing that was wrong.
-/

namespace NotebookGoto

open Http Text

/-- A probe: the URL of the server, the name of its extension and a token. -/
structure Probe where
  url : String
  extensionName : String
  token : String
  deriving DecidableEq, Repr

namespace Probe

/-- What the network does with a request. -/
abbrev Network := Request → Option Response

/-- The network in which no server can be reached. -/
def Network.unreachable : Network := fun _ => none

/-- The network in which a site answers every request. -/
def Network.ofSite (s : Site) : Network := fun r => some (s.respond r)

/-- What a usable server shows of itself: its greeting and how many bytes its template has. -/
structure Finding where
  greeting : String
  templateSize : Nat
  deriving DecidableEq, Repr

/-- The URL of an endpoint. -/
def endpointUrl (p : Probe) (e : Endpoint) : List Char :=
  trimEndBy (· = '/') p.url.toList ++ Route.path "/" p.extensionName e

/-- The value of the header field that presents the token. -/
def credential (p : Probe) : List Char :=
  "token ".toList ++ p.token.toList

/-- The request for an endpoint, as it arrives: spaces at the end of a field's value are lost. -/
def request? (p : Probe) (e : Endpoint) : Option Request :=
  if p.credential.all Header.inValue then
    ((Url.ofText? (p.endpointUrl e)).bind Url.target?).map fun target =>
      { method := Method.get.name.toList
        target
        headers := [⟨"authorization".toList, trimEndBy (fun c => c = ' ' || c = '\t') p.credential⟩]
        body := [] }
  else none

/-- The text that a response holds, under the format of the endpoint. -/
def read (f : Json.Format String) (e : Endpoint) (r : Response) : Except Error String :=
  if r.status = 403 then .error (.probe (.rejected e))
  else if r.status = 404 then .error (.probe (.notFound e))
  else if 400 ≤ r.status && r.status < 600 then .error (.http (.status r.status))
  else match f.ofText? r.body with
    | some s => .ok s
    | none => .error (.http .body)

/-- The format of what an endpoint answers. -/
def format : Endpoint → Json.Format String
  | .hello => Wire.greeting
  | .code => Wire.code

/-- The text that an endpoint answers. -/
def fetch (p : Probe) (network : Network) (e : Endpoint) : Except Error String :=
  match p.request? e with
  | none => .error (.http .request)
  | some r =>
    match network r with
    | none => .error (.http .connection)
    | some response => read (format e) e response

/-- What a probe finds. A template has to name every part of a lookup. -/
def run (p : Probe) (network : Network) : Except Error Finding := do
  let greeting ← p.fetch network .hello
  let code ← p.fetch network .code
  match Template.missing code with
  | [] => return ⟨greeting, code.utf8ByteSize⟩
  | placeholders => .error (.probe (.missing placeholders))

/-- The requests that a probe sends, in their order: the second only after a good answer to the
first. -/
def requests (p : Probe) (network : Network) : List Request :=
  match p.fetch network .hello with
  | .ok _ => (p.request? .hello).toList ++ (p.request? .code).toList
  | .error _ => (p.request? .hello).toList

end Probe

end NotebookGoto
