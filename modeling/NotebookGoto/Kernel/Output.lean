import NotebookGoto.Text.Blank
import NotebookGoto.Wire

/-!
# Kernel output

What a kernel wrote while it ran the lookup's code ends with a report. Other output may stand
before it: the whole, without the white space around it, is tried first as a report, and then
its lines from the last to the first, of which only those that start with a brace are looked at.
-/

namespace NotebookGoto.Kernel

open Text

/-- The report that a text is. -/
def report? (s : List Char) : Option Report :=
  Wire.report.ofText? s

/-- The report of a line among other output. -/
def lineReport? (line : List Char) : Option Report :=
  if (trim line).head? = some '\x7b' then report? (trim line) else none

/-- The report in what a kernel wrote. -/
def report (output : String) : Except Error Report :=
  let text := trim output.toList
  match report? text <|> (text.splitOn '\n').reverse.findSome? lineReport? with
  | some r => .ok r
  | none => .error (.noReport (String.ofList text))

end NotebookGoto.Kernel
