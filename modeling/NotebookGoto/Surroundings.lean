import NotebookGoto.Error
import NotebookGoto.Text.Utf8

/-!
# What a program finds around it

The programs read files, their standard input and environment variables, each before they answer.
So all of it is given as one value, and what a program does is a function of that value and its
arguments.
-/

namespace NotebookGoto

open Text

/-- What a path names. -/
inductive FileEntry where
  | file (content : Bytes)
  | directory
  deriving DecidableEq, Repr

/-- The files, the standard input and the environment variables that a program can read. -/
structure Surroundings where
  entry : String → Except IoFault FileEntry
  input : Bytes
  getVariable : String → Option String

/-- Bytes as a text. -/
def textOfBytes (bytes : Bytes) : Except IoFault String :=
  match Utf8.text? bytes with
  | some s => .ok (String.ofList s)
  | none => .error .notUtf8

namespace Surroundings

/-- The text of the file at a path. -/
def readFile (w : Surroundings) (path : String) : Except IoFault String :=
  match w.entry path with
  | .error fault => .error fault
  | .ok .directory => .error .isDirectory
  | .ok (.file content) => textOfBytes content

/-- The text of the file at a path, where a dash names the standard input. -/
def readInput (w : Surroundings) (name : String) : Except Error String :=
  (if name = "-" then textOfBytes w.input else w.readFile name).mapError .io

end Surroundings

end NotebookGoto
