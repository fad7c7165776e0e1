import NotebookGoto.CommandLine.Command
import NotebookGoto.Kernel.Output
import NotebookGoto.Notebook.ServerPath
import NotebookGoto.Probe

/-!
# The client program

What the client prints for each of its commands, as a function of what it finds around it and of
the network. Where it gives up it prints why, with what it was doing at the time before it and
the cause of the cause after it.
-/

namespace NotebookGoto.Program

open CommandLine

/-- Why a program gives up: an error, perhaps while it was doing something, or that it has no
token to present. -/
inductive Abort where
  | error (doing : Option String) (e : Error)
  | noToken
  deriving DecidableEq, Repr

/-- The line that a program prints when it gives up, without its line feed. -/
def Abort.message : Abort → String
  | .error none e => "Error: " ++ e.trace
  | .error (some doing) e => "Error: " ++ doing ++ ": " ++ e.trace
  | .noToken => "Error: no token given (use --token or JUMPDEF_TOKEN)"

/-- A result, where an error stands by itself. -/
def plain {α : Type} (r : Except Error α) : Except Abort α :=
  r.mapError (.error none)

/-- The text of an input. -/
def readInput (w : Surroundings) (name : String) : Except Abort String :=
  (w.readInput name).mapError (.error (some ("reading " ++ name)))

/-- What the client prints. -/
def client (w : Surroundings) (network : Probe.Network) : Command → Except Abort String
  | .template => .ok Template.jedi
  | .render source line column path => do
    let text ← readInput w source
    plain (Template.render Template.jedi ⟨text, line, column, path⟩)
  | .parseResult input cwd notebook => do
    let text ← readInput w input
    let report ← plain (Kernel.report text)
    let outcome ← plain report.outcome
    let outcome := match cwd, notebook with
      | some cwd, some notebook => outcome.mapFile (ServerPath.relativize · cwd notebook)
      | _, _ => outcome
    return String.ofList (Wire.Outcome.toText .pretty outcome) ++ "\n"
  | .check url token extensionName =>
    match token <|> w.getVariable Config.tokenVariable with
    | none => .error .noToken
    | some token => do
      let finding ← plain ((⟨url, extensionName, token⟩ : Probe).run network)
      return "✓ hello: " ++ finding.greeting ++ "\n✓ introspection-code: "
        ++ Text.Decimal.text finding.templateSize ++ " bytes, all placeholders present\n"

end NotebookGoto.Program
