/-!
# Endpoints

The server answers at two endpoints: a greeting, by which a client finds out that the server is
there, and the code that runs in the kernel.
-/

namespace NotebookGoto

/-- What the server can be asked for. -/
inductive Endpoint where
  | hello | code
  deriving DecidableEq, Repr

namespace Endpoint

/-- Both endpoints, in the order in which they are probed. -/
def all : List Endpoint :=
  [.hello, .code]

/-- The last segment of an endpoint's path. -/
def name : Endpoint → String
  | .hello => "hello"
  | .code => "introspection-code"

/-- What the greeting says. -/
def greeting : String :=
  "Hello, world! This is the '/jupyterlab-jump-to-definition-fix/hello' endpoint. Try visiting me in your browser!"

end Endpoint

end NotebookGoto
