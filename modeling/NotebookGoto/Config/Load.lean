import NotebookGoto.Config.Basic
import NotebookGoto.Surroundings
import NotebookGoto.Toml.Document

/-!
# Where the configuration comes from

A setting is given by a flag, or else by an environment variable, or else by the configuration
file, or else it has its default. An environment variable that sets the token to nothing does not
count. A file that is not there gives nothing; one that cannot be read is an error.
-/

namespace NotebookGoto.Config

open Text

/-! ## The file -/

/-- The keys that a configuration file knows. -/
def keys : List String :=
  ["bind", "base_url", "extension_name", "token"]

/-- The text of a key in a file, where the key stands there. A key that stands there must stand
there once and have a text. -/
def text? (d : Toml.Document) (key : String) : Option (Option String) :=
  match d.entries.filter (·.1 = key.toList) with
  | [] => some none
  | [(_, .value (.text s))] => some (some (String.ofList s))
  | _ => none

/-- Whether a header opens a table under a key that the configuration knows. -/
def isTaken (h : Toml.Header) : Bool :=
  keys.any fun key => h.path.head? = some key.toList

/-- The configuration of a file's text. -/
def ofText? (s : List Char) : Option Config := do
  let d ← Toml.Document.ofText? s
  if d.headers.any isTaken then none
  else
    let bind ← text? d "bind"
    let baseUrl ← text? d "base_url"
    let extensionName ← text? d "extension_name"
    let token ← text? d "token"
    return {
      bind := bind.getD default.bind
      baseUrl := baseUrl.getD default.baseUrl
      extensionName := extensionName.getD default.extensionName
      token := token }

/-- The configuration of the file at a path. -/
def load (w : Surroundings) (path : String) : Except Error Config :=
  match w.entry path with
  | .error _ => .ok default
  | .ok _ =>
    match w.readFile path with
    | .error fault => .error (.configUnreadable path fault)
    | .ok s =>
      match ofText? s.toList with
      | some c => .ok c
      | none => .error (.configMalformed path)

/-! ## Overrides -/

/-- Settings that take the place of others where they are given. -/
structure Overrides where
  bind : Option String
  baseUrl : Option String
  extensionName : Option String
  token : Option String
  deriving DecidableEq, Repr

/-- A configuration with some settings replaced. -/
def override (c : Config) (o : Overrides) : Config where
  bind := o.bind.getD c.bind
  baseUrl := o.baseUrl.getD c.baseUrl
  extensionName := o.extensionName.getD c.extensionName
  token := o.token <|> c.token

/-- The environment variable that holds a token. -/
def tokenVariable : String := "JUMPDEF_TOKEN"

/-- The settings that environment variables give. -/
def Overrides.ofVariables (getVariable : String → Option String) : Overrides where
  bind := getVariable "JUMPDEF_BIND"
  baseUrl := getVariable "JUMPDEF_BASE_URL"
  extensionName := getVariable "JUMPDEF_EXTENSION_NAME"
  token := (getVariable tokenVariable).filter (· ≠ "")

/-- The configuration from the file at a path, the environment and some flags. -/
def gather (w : Surroundings) (path : String) (flags : Overrides) : Except Error Config := do
  let c ← load w path
  return (c.override (Overrides.ofVariables w.getVariable)).override flags

end NotebookGoto.Config
