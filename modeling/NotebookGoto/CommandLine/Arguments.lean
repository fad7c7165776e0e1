import NotebookGoto.Text.Affix
import NotebookGoto.Text.Decimal

/-!
# Arguments

A program's arguments are options, each with a value, and operands. An option is written as
`--name=value` or `--name value`, or by its letter as `-xvalue`, `-x=value` or `-x value`. After
`--` there are only operands. Arguments are read from left to right. The value of an option that
stands as an argument of its own is looked at when the next option or operand comes, or at the
end, so that what cannot be an option at all is reported first.
-/

namespace NotebookGoto.CommandLine

open Text

/-- What is wrong with a command line, or that help is asked for. -/
inductive Fault where
  | help | helpForNothing | unknownArgument | unknownCommand | noValue | badValue | surplusValue
  | repeated | missing
  deriving DecidableEq, Repr

/-- The exit status of a program that is run with such a command line. -/
def Fault.exit : Fault → Nat
  | .help => 0
  | _ => 2

/-- What the value of an option must be: any text, any text but the empty one, or a word. -/
inductive ValueKind where
  | text | nonempty | word
  deriving DecidableEq, Repr

/-- A word in decimal, perhaps with a sign. -/
def word? (s : String) : Option UInt32 :=
  let (negative, ds) := match s.toList with
    | '+' :: ds => (false, ds)
    | '-' :: ds => (true, ds)
    | ds => (false, ds)
  if ds.isEmpty || !ds.all Char.isDigit then none
  else if negative && Decimal.value ds ≠ 0 then none
  else Decimal.word? (Decimal.value ds)

/-- The fault of a value that is none of its kind. -/
def ValueKind.fault? (value : String) : ValueKind → Option Fault
  | .text => none
  | .nonempty => if value = "" then some .noValue else none
  | .word => if (word? value).isSome then none else some .badValue

/-- An option. -/
structure Flag where
  name : String
  letter : Option Char
  kind : ValueKind
  deriving DecidableEq, Repr

/-- What a command takes: its options, whether it has an operand, the options that have to be
there, and those that only make sense together with another one. -/
structure Signature where
  flags : List Flag
  operand : Bool
  required : List String
  needs : List (String × String)
  deriving Repr

/-- What an argument is by its look. -/
inductive Shape where
  | escape
  | long (name : List Char) (value : Option String)
  | short (letter : Char) (rest : List Char)
  | plain
  deriving DecidableEq, Repr

/-- The look of an argument. -/
def shape (arg : String) : Shape :=
  match arg.toList with
  | ['-', '-'] => .escape
  | '-' :: '-' :: rest =>
    let value := match rest.dropWhile (· ≠ '=') with
      | [] => none
      | _ :: value => some (String.ofList value)
    .long (rest.takeWhile (· ≠ '=')) value
  | '-' :: c :: rest => .short c rest
  | _ => .plain

/-- How far arguments have been read: the values accepted, the option that waits to be accepted
with its value or still without one, the operand, and whether only operands may follow. -/
structure State where
  values : List (String × String)
  pending : Option (Flag × Option String)
  operand : Option String
  onlyOperands : Bool

namespace State

/-- Before the first argument. -/
def start : State := ⟨[], none, none, false⟩

/-- An option with its value is accepted, if it is the only one of its name and the value is of
its kind. -/
def accept (st : State) (f : Flag) (value : String) : Except Fault State :=
  if (st.values.lookup f.name).isSome then .error .repeated
  else match f.kind.fault? value with
    | some fault => .error fault
    | none => .ok { st with values := (f.name, value) :: st.values }

/-- The option that waits is accepted. -/
def settle (st : State) : Except Fault State :=
  match st.pending with
  | none => .ok st
  | some (_, none) => .error .noValue
  | some (f, some value) => { st with pending := none }.accept f value

/-- Help is asked for. -/
def help (st : State) : Except Fault State := do
  let _ ← st.settle
  .error .help

/-- An option comes, with its value or without. -/
def option (st : State) (f : Flag) (value : Option String) : Except Fault State := do
  let st ← st.settle
  match value with
  | some value => st.accept f value
  | none => return { st with pending := some (f, none) }

/-- An operand comes. -/
def addOperand (sig : Signature) (st : State) (arg : String) : Except Fault State :=
  if sig.operand && st.operand.isNone then do
    let st ← st.settle
    return { st with operand := some arg }
  else .error .unknownArgument

/-- An argument that looks like nothing else is the value that an option waits for, or an
operand. -/
def plain (sig : Signature) (st : State) (arg : String) : Except Fault State :=
  match st.pending with
  -- The value is kept and looked at only when the option is settled.
  | some (f, none) => .ok { st with pending := some (f, some arg) }
  | _ => st.addOperand sig arg

/-- One argument. -/
def step (sig : Signature) (st : State) (arg : String) : Except Fault State :=
  if st.onlyOperands then st.addOperand sig arg
  else match shape arg with
    | .escape => .ok { st with onlyOperands := true }
    | .long name value =>
      if name = "help".toList then if value.isSome then .error .surplusValue else st.help
      else match sig.flags.find? (·.name.toList = name) with
        | some f => st.option f value
        | none => .error .unknownArgument
    | .short letter rest =>
      if letter = 'h' then st.help
      else match sig.flags.find? (·.letter = some letter) with
        | none => .error .unknownArgument
        | some f =>
          match rest with
          | [] => st.option f none
          | '=' :: value => st.option f (some (String.ofList value))
          | value => st.option f (some (String.ofList value))
    | .plain => st.plain sig arg

end State

/-- What the arguments of a command say. -/
structure Arguments where
  values : List (String × String)
  operand : Option String
  deriving DecidableEq, Repr

namespace Arguments

/-- The value of an option. -/
def value? (a : Arguments) (name : String) : Option String :=
  a.values.lookup name

/-- The value of an option that is a word. -/
def word? (a : Arguments) (name : String) : Option UInt32 :=
  (a.value? name).bind CommandLine.word?

/-- Whether an option is there. -/
def has (a : Arguments) (name : String) : Bool :=
  (a.value? name).isSome

/-- The arguments of a command, read by its signature. -/
def ofList (sig : Signature) (args : List String) : Except Fault Arguments := do
  let st ← args.foldlM (State.step sig) .start
  let st ← st.settle
  let a : Arguments := ⟨st.values, st.operand⟩
  if sig.required.all a.has && sig.needs.all fun (one, other) => !a.has one || a.has other then
    return a
  else .error .missing

end Arguments

end NotebookGoto.CommandLine
