import NotebookGoto.Config.Basic
import NotebookGoto.Json.Format
import NotebookGoto.Kernel.Outcome
import NotebookGoto.Notebook.Cell

/-!
# The records that are exchanged

The format of each value that travels as JSON: lookups, reports and outcomes, notebook cells, the
configuration, and the bodies of the server's answers. An outcome is one of two records, told
apart by the member `status`, which may stand anywhere in the object.
-/

namespace NotebookGoto.Wire

open Json

/-- Lookups. -/
def lookup : Format Lookup where
  fields := [⟨"source", .text, none⟩, ⟨"line", .word, none⟩, ⟨"column", .word, none⟩,
    ⟨"path", .text, none⟩]
  early := false
  toData l := [.text l.source, .word l.line, .word l.column, .text l.path]
  ofData?
    | [.text source, .word line, .word column, .text path] => some ⟨source, line, column, path⟩
    | _ => none
  ofData?_toData _ := rfl

/-- A text that may be missing, as a datum. -/
def ofText : Option String → Datum
  | some s => .text s
  | none => .null

/-- A text that may be missing, from a datum. -/
def toText? : Datum → Option (Option String)
  | .text s => some (some s)
  | .null => some none
  | _ => none

/-- A word that may be missing, as a datum. -/
def ofWord : Option UInt32 → Datum
  | some n => .word n
  | none => .null

/-- A word that may be missing, from a datum. -/
def toWord? : Datum → Option (Option UInt32)
  | .word n => some (some n)
  | .null => some none
  | _ => none

theorem toText?_ofText (s : Option String) : toText? (ofText s) = some s := by
  cases s <;> rfl

theorem toWord?_ofWord (n : Option UInt32) : toWord? (ofWord n) = some n := by
  cases n <;> rfl

/-- Reports. -/
def report : Format Report where
  fields := [⟨"file", .optional .text, some .null⟩, ⟨"line", .optional .word, some .null⟩,
    ⟨"error", .optional .text, some .null⟩]
  early := false
  toData r := [ofText r.file, ofWord r.line, ofText r.message]
  ofData?
    | [file, line, message] => do
      return ⟨← toText? file, ← toWord? line, ← toText? message⟩
    | _ => none
  ofData?_toData r := by simp [toText?_ofText, toWord?_ofWord]

/-- The name of a kind of cell. -/
def cellKindName : CellKind → String
  | .code => "code"
  | .markdown => "markdown"
  | .raw => "raw"

/-- The kind of cell of a name. -/
def cellKind? (name : String) : Option CellKind :=
  [CellKind.code, .markdown, .raw].find? (cellKindName · = name)

theorem cellKind?_cellKindName (k : CellKind) : cellKind? (cellKindName k) = some k := by
  cases k <;> decide

/-- Notebook cells. -/
def cell : Format Cell where
  fields := [⟨"kind", .choice ["code", "markdown", "raw"] false, none⟩, ⟨"source", .text, none⟩]
  early := false
  toData c := [.text (cellKindName c.kind), .text c.source]
  ofData?
    | [.text kind, .text source] => (cellKind? kind).map (⟨·, source⟩)
    | _ => none
  ofData?_toData c := by simp [cellKind?_cellKindName]

/-- Configurations. Whatever is left out has its value when nothing else is said. -/
def config : Format Config where
  fields := [⟨"bind", .text, some (.text Config.default.bind)⟩,
    ⟨"base_url", .text, some (.text Config.default.baseUrl)⟩,
    ⟨"extension_name", .text, some (.text Config.default.extensionName)⟩,
    ⟨"token", .optional .text, some (ofText Config.default.token)⟩]
  early := true
  toData c := [.text c.bind, .text c.baseUrl, .text c.extensionName, ofText c.token]
  ofData?
    | [.text bind, .text baseUrl, .text extensionName, token] =>
      (toText? token).map (⟨bind, baseUrl, extensionName, ·⟩)
    | _ => none
  ofData?_toData c := by simp [toText?_ofText]

/-- A text under one name. -/
def single (name : String) : Format String where
  fields := [⟨name, .text, none⟩]
  early := false
  toData s := [.text s]
  ofData?
    | [.text s] => some s
    | _ => none
  ofData?_toData _ := rfl

/-- The body of the greeting. -/
def greeting : Format String := single "data"

/-- The body of an answer that holds code. -/
def code : Format String := single "code"

/-- The body of an answer that tells what went wrong. -/
def problem : Format String := single "message"

/-! ## Outcomes -/

/-- The two records of which an outcome is one. -/
inductive Status where
  | definition | failed
  deriving DecidableEq, Repr

namespace Status

/-- The name of a status. -/
def name : Status → String
  | .definition => "definition"
  | .failed => "failed"

/-- The status of a name. -/
def ofName? (name : String) : Option Status :=
  [Status.definition, .failed].find? (·.name = name)

/-- The fields that follow a status. -/
def fields : Status → Fields
  | .definition => [⟨"file", .text, none⟩, ⟨"line", .word, none⟩]
  | .failed => [⟨"kind", .choice (Failure.all.map (·.name)) true, none⟩, ⟨"message", .text, none⟩]

/-- The outcome of a status with its data. -/
def outcome? : Status → List Datum → Option Outcome
  | .definition, [.text file, .word line] => some (.definition file line)
  | .failed, [.text kind, .text message] => (Failure.ofName? kind).map (.failed · message)
  | _, _ => none

end Status

namespace Outcome

/-- The status of an outcome. -/
def status : Outcome → Status
  | .definition .. => .definition
  | .failed .. => .failed

/-- What stands in the fields of an outcome. -/
def toData : Outcome → List Datum
  | .definition file line => [.text file, .word line]
  | .failed kind message => [.text kind.name, .text message]

/-- The members of an outcome's record. -/
def members (o : Outcome) : List (String × Datum) :=
  ("status", .text (status o).name) :: ((status o).fields.map (·.name)).zip (toData o)

/-- An outcome as it is written in some layout. -/
def toText (layout : Layout) (o : Outcome) : List Char :=
  writeRecord layout (members o)

/-- Whether a token holds something that can be kept until the status is known: a string that
spells a text, a number that a double can hold. -/
def keepable : Token → Bool
  | .string s => (text? s).isSome
  | .number n => !n.isTooLarge
  | .broken => false
  | _ => true

/-- Whether brackets are never nested deeper than `room`. -/
def shallow (room : Nat) : List Token → Bool
  | [] => true
  | .opening _ :: rest =>
    match room with
    | 0 => false
    | room + 1 => shallow room rest
  | .closing _ :: rest => shallow (room + 1) rest
  | _ :: rest => shallow room rest

/-- How deep brackets may be nested in an outcome's text. -/
def depth : Nat := 127

/-- The status that a value names. -/
def readStatus? : Json → Option Status
  | .string s => text? s >>= Status.ofName?
  | _ => none

/-- Whether a member is the status. -/
def isStatus (m : Symbols × Json) : Bool :=
  text? m.1 = some "status"

/-- The outcome of a value. Its status is looked for before the rest is read. -/
def read? : Json → Option Outcome
  | .object members closed => do
    match members.partition isStatus with
    | ([(_, v)], rest) =>
      let s ← readStatus? v
      s.outcome? (← (s.fields.read false (.object rest closed)).toOption)
    | _ => none
  | .array (v :: rest) closed => do
    let s ← readStatus? v
    s.outcome? (← (s.fields.read false (.array rest closed)).toOption)
  | _ => none

/-- The outcome of a text that holds its record and nothing else. -/
def ofText? (s : List Char) : Option Outcome :=
  let ts := tokens (s.map some)
  if ts.all keepable && shallow depth ts then read? (readAll (s.map some)) else none

end Outcome

/-- The reason for a failure, as a value of its own. -/
def failureOfText? (s : List Char) : Option Failure := do
  let name ← (readChoice (Failure.all.map (·.name)) false (readAll (s.map some))).toOption
  Failure.ofName? name

/-- The reason for a failure as it is written. -/
def failureToText (f : Failure) : List Char :=
  writeString f.name.toList

/-- The cells of a text that holds a list of them and nothing else. -/
def cellsOfText? (s : List Char) : Option (List Cell) :=
  (cell.readList (readAll (s.map some))).toOption

/-- Cells as they are written. -/
def cellsToText (cells : List Cell) : List Char :=
  ['['] ++ [','].intercalate (cells.map cell.toText) ++ [']']

end NotebookGoto.Wire
