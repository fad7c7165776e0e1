import NotebookGoto.Template.Jedi
import NotebookGoto.Error

/-!
# What a kernel found

The code that runs in a kernel ends by printing a report: a file with a line, or a message that
says why there is none. From a report comes the outcome of the lookup, a definition or a failure
of a kind that the message tells. A report with both a file and a message, or with neither, has
no outcome.
-/

namespace NotebookGoto

/-- What the code in the kernel prints. -/
structure Report where
  file : Option String
  line : Option UInt32
  message : Option String
  deriving DecidableEq, Repr

/-- The reasons why a lookup found nothing: Jedi cannot be imported, there is no candidate, the
candidate lies in no file, or something else. -/
inductive Failure where
  | missingDependency | noDefinition | noSourceFile | unexpected
  deriving DecidableEq, Repr

namespace Failure

/-- All reasons. -/
def all : List Failure :=
  [.missingDependency, .noDefinition, .noSourceFile, .unexpected]

/-- The name of a reason. -/
def name : Failure → String
  | .missingDependency => "missing_dependency"
  | .noDefinition => "no_definition"
  | .noSourceFile => "no_source_file"
  | .unexpected => "unexpected"

/-- The reason that a message tells. -/
def classify (message : String) : Failure :=
  if message = Template.jediMissing then .missingDependency
  else if message = Template.noDefinition then .noDefinition
  else if message = Template.noSourceFile then .noSourceFile
  else .unexpected

/-- The reason of a name. -/
def ofName? (name : String) : Option Failure :=
  all.find? (·.name = name)

theorem ofName?_name (f : Failure) : ofName? f.name = some f := by
  cases f <;> decide

end Failure

/-- The outcome of a lookup. -/
inductive Outcome where
  | definition (file : String) (line : UInt32)
  | failed (kind : Failure) (message : String)
  deriving DecidableEq, Repr

/-- The outcome that a report tells. A definition without a line is on line one. -/
def Report.outcome (r : Report) : Except Error Outcome :=
  match r.file, r.message with
  | some file, some message => .error (.inconsistentReport file message)
  | some file, none =>
    .ok (.definition file ((r.line.filter (· ≠ 0)).getD 1))
  | none, some message => .ok (.failed (Failure.classify message) message)
  | none, none => .error .incompleteReport

/-- A report that tells an outcome. -/
def Outcome.report : Outcome → Report
  | .definition file line => ⟨some file, some line, none⟩
  | .failed _ message => ⟨none, none, some message⟩

/-- An outcome with the path of its file changed. -/
def Outcome.mapFile (f : String → String) : Outcome → Outcome
  | .definition file line => .definition (f file) line
  | .failed kind message => .failed kind message

/-- Whether a kernel of a displayed name runs the code of the template. -/
def Kernel.isPython (displayName : String) : Bool :=
  Text.occurs ['P', 'y', 't', 'h', 'o', 'n'] displayName.toList

end NotebookGoto
