import NotebookGoto.Program.Client

/-!
# The client's command line

Reads what the command needs, runs it and prints what it says. The program opens no connection
itself, so a probe finds no server.
-/

namespace NotebookGoto.Main

/-- The bytes of a stream up to its end. -/
partial def readAll (stream : IO.FS.Stream) (done : ByteArray) : IO ByteArray := do
  let more ← stream.read 65536
  if more.isEmpty then return done else readAll stream (done ++ more)

/-- What a path names. -/
def readEntry (path : String) : IO (Except IoFault FileEntry) := do
  try
    let content ← IO.FS.readBinFile path
    return .ok (.file content.toList)
  catch
    | .noFileOrDirectory .. => return .error .notFound
    | _ => return .ok .directory

/-- The input that a command reads. -/
def inputOf? : CommandLine.Command → Option String
  | .render source .. => some source
  | .parseResult input .. => some input
  | _ => none

/-- What a command can find around it. -/
def surroundingsFor (command : CommandLine.Command) : IO Surroundings := do
  let token ← IO.getEnv Config.tokenVariable
  let environment := fun name => if name = Config.tokenVariable then token else none
  match inputOf? command with
  | none => return ⟨fun _ => .error .notFound, [], environment⟩
  | some "-" =>
    let input ← readAll (← IO.getStdin) ByteArray.empty
    return ⟨fun _ => .error .notFound, input.toList, environment⟩
  | some name =>
    let entry ← readEntry name
    return ⟨fun path => if path = name then entry else .error .notFound, [], environment⟩

/-- Runs the client with some arguments and gives its exit status. -/
def run (args : List String) : IO UInt32 := do
  match CommandLine.Command.ofList args with
  | .error fault =>
    IO.eprintln "Usage: jumpdef template|render|parse-result|check [options]"
    return fault.exit.toUInt32
  | .ok command =>
    match Program.client (← surroundingsFor command) Probe.Network.unreachable command with
    | .ok text =>
      IO.print text
      return 0
    | .error abort =>
      IO.eprintln abort.message
      return 1

end NotebookGoto.Main

def main (args : List String) : IO UInt32 :=
  NotebookGoto.Main.run args
