import NotebookGoto.CommandLine.Arguments
import NotebookGoto.Config.Load

/-!
# Commands

What the arguments of the two programs say. The client's first argument names one of its four
commands and the rest belong to that command; the server has options only, with which it
overrides settings.
-/

namespace NotebookGoto.CommandLine

/-- What the client is asked to do. -/
inductive Command where
  | template
  | render (source : String) (line column : UInt32) (path : String)
  | parseResult (input : String) (cwd notebook : Option String)
  | check (url : String) (token : Option String) (extensionName : String)
  deriving DecidableEq, Repr

/-- The names of the client's commands. -/
inductive CommandName where
  | template | render | parseResult | check
  deriving DecidableEq, Repr

namespace CommandName

/-- A command's name as it is written. -/
def text : CommandName → String
  | .template => "template"
  | .render => "render"
  | .parseResult => "parse-result"
  | .check => "check"

/-- The command of a name. -/
def ofText? (name : String) : Option CommandName :=
  [CommandName.template, .render, .parseResult, .check].find? (·.text = name)

/-- What a command takes. -/
def signature : CommandName → Signature
  | .template => ⟨[], false, [], []⟩
  | .render =>
    ⟨[⟨"source", some 's', .text⟩, ⟨"line", some 'l', .word⟩, ⟨"column", some 'c', .word⟩,
      ⟨"path", some 'p', .text⟩], false, ["line", "path"], []⟩
  | .parseResult =>
    ⟨[⟨"kernel-cwd", none, .text⟩, ⟨"notebook", none, .text⟩], true, [],
      [("kernel-cwd", "notebook")]⟩
  | .check =>
    ⟨[⟨"url", some 'u', .text⟩, ⟨"token", some 't', .text⟩, ⟨"extension-name", none, .text⟩],
      false, [], []⟩

/-- A command with its arguments. -/
def command (a : Arguments) : CommandName → Command
  | .template => .template
  | .render =>
    .render ((a.value? "source").getD "-") ((a.word? "line").getD 0) ((a.word? "column").getD 0)
      ((a.value? "path").getD "")
  | .parseResult =>
    .parseResult (a.operand.getD "-") (a.value? "kernel-cwd") (a.value? "notebook")
  | .check =>
    .check ((a.value? "url").getD "http://127.0.0.1:8888/") (a.value? "token")
      ((a.value? "extension-name").getD Config.defaultExtensionName)

end CommandName

/-- The word that asks for help in the place of a command. -/
def helpWord : String := "help"

/-- Whether a word stands for a command or asks for help. -/
def isCommandWord (word : String) : Bool :=
  word = helpWord || (CommandName.ofText? word).isSome

/-- What the words after the word that asks for help lead to: one of them may be a command. -/
def helpFault : List String → Fault
  | [] => .help
  | [word] => if isCommandWord word then .help else .unknownCommand
  | _ => .unknownCommand

/-- The command that the client's arguments give. -/
def Command.ofList (args : List String) : Except Fault Command :=
  match args with
  | [] => .error .helpForNothing
  | arg :: rest =>
    match shape arg with
    | .escape =>
      match rest with
      | [] => .error .helpForNothing
      | word :: _ => .error (if isCommandWord word then .unknownArgument else .unknownCommand)
    | .long name value =>
      .error (if name = "help".toList then if value.isSome then .surplusValue else .help
        else .unknownArgument)
    | .short letter _ => .error (if letter = 'h' then .help else .unknownArgument)
    | .plain =>
      if arg = helpWord then .error (helpFault rest)
      else match CommandName.ofText? arg with
        | none => .error .unknownCommand
        | some name => (Arguments.ofList name.signature rest).map name.command

/-- What the server is asked to do: the configuration file to read, and settings that override
what it says. -/
structure ServerCommand where
  config : String
  overrides : Config.Overrides
  deriving DecidableEq, Repr

namespace ServerCommand

/-- What the server takes. -/
def signature : Signature :=
  ⟨[⟨"config", some 'c', .nonempty⟩, ⟨"bind", some 'b', .text⟩, ⟨"base-url", none, .text⟩,
    ⟨"extension-name", none, .text⟩, ⟨"token", none, .text⟩], false, [], []⟩

/-- The command that the server's arguments give. -/
def ofList (args : List String) : Except Fault ServerCommand := do
  let a ← Arguments.ofList signature args
  return {
    config := (a.value? "config").getD Config.defaultFile
    overrides := {
      bind := a.value? "bind"
      baseUrl := a.value? "base-url"
      extensionName := a.value? "extension-name"
      token := a.value? "token" } }

/-- The configuration with which the server starts. -/
def gather (c : ServerCommand) (w : Surroundings) : Except Error Config :=
  Config.gather w c.config c.overrides

end ServerCommand

end NotebookGoto.CommandLine
