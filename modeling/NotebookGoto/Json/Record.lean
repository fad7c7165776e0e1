import NotebookGoto.Json.Value

/-!
# Reading and writing records

A record is a fixed list of named fields, each of which holds a text, a 32-bit word, one of a few
names, or perhaps nothing. It is written as an object, and it is read from an object, with its
members in any order and foreign members passed over, or from an array that holds the fields in
their order.

A fault says whether the text stopped being JSON (`malformed`) or was JSON of another shape
(`mistyped`). Reading goes from left to right, and the first fault met decides.
-/

namespace NotebookGoto.Json

open Text

/-- Why a text could not be read as a record. -/
inductive Fault where
  | malformed | mistyped
  deriving DecidableEq, Repr

/-- What a field holds. -/
inductive Datum where
  | null
  | text (s : String)
  | word (n : UInt32)
  deriving DecidableEq, Repr

/-- What a field may hold: any text, any word, one of some names, or also nothing. A name may also
be the only key of an object, in which it stands for nothing; where `loose` is set, an empty
object counts as nothing there. -/
inductive Kind where
  | text
  | word
  | choice (names : List String) (loose : Bool)
  | optional (kind : Kind)
  deriving DecidableEq, Repr

/-- The text that symbols spell, if they spell one. -/
def text? (s : Symbols) : Option String :=
  (s.mapM id).map String.ofList

/-- The fault of a value that is of another kind than expected. -/
def unexpected : Json → Fault
  | .broken => .malformed
  | .string s => if (text? s).isSome then .mistyped else .malformed
  | .number n => if n.isTooLarge then .malformed else .mistyped
  | _ => .mistyped

/-- A text. -/
def readText (v : Json) : Except Fault String :=
  match v with
  | .string s => match text? s with
    | some t => .ok t
    | none => .error .malformed
  | v => .error (unexpected v)

/-- A word. -/
def readWord (v : Json) : Except Fault UInt32 :=
  match v with
  | .number n => match n.word? with
    | some w => .ok w
    | none => .error (unexpected v)
  | v => .error (unexpected v)

/-- One of some names. -/
def readChoice (names : List String) (loose : Bool) (v : Json) : Except Fault String :=
  match v with
  | .object [(key, .null)] true => pick key
  | .object [(key, .object [] true)] true => if loose then pick key else .error .mistyped
  | .string s => pick s
  | v => .error (unexpected v)
where
  /-- The name that symbols spell. -/
  pick (s : Symbols) : Except Fault String :=
    match text? s with
    | some t => if t ∈ names then .ok t else .error .mistyped
    | none => .error .malformed

/-- What a value is by the kind of its field. -/
def Kind.read (v : Json) : Kind → Except Fault Datum
  | .text => (readText v).map .text
  | .word => (readWord v).map .word
  | .choice names loose => (readChoice names loose v).map .text
  | .optional kind =>
    match v with
    | .null => .ok .null
    | _ => kind.read v

/-- A field of a record. One that may be left out says what it holds then. -/
structure Field where
  name : String
  kind : Kind
  absent : Option Datum := none
  deriving DecidableEq, Repr

/-- The fields of a record in their order. -/
abbrev Fields := List Field

namespace Fields

/-- Reading the members of an object after some known fields have been found. -/
def readMembers (fields : Fields) (found : List (String × Datum)) :
    List (Symbols × Json) → Except Fault (List (String × Datum))
  | [] => .ok found
  | (key, v) :: rest =>
    match text? key with
    | none => .error .malformed
    | some name =>
      match fields.find? (·.name = name) with
      | none => if v.whole then readMembers fields found rest else .error .malformed
      | some field =>
        -- A second member of a name is refused before its value is looked at.
        if (found.lookup name).isSome then .error .mistyped
        else match field.kind.read v with
          | .ok d => readMembers fields ((name, d) :: found) rest
          | .error e => .error e

/-- What a field holds among those found, or what it holds when left out. -/
def pick (found : List (String × Datum)) (field : Field) : Except Fault Datum :=
  match found.lookup field.name with
  | some d => .ok d
  | none => match field.absent with
    | some d => .ok d
    | none => .error .mistyped

/-- Reading the items of an array. Where `early` is set the array may end before its fields do,
and the rest are as if left out. -/
def readItems (early closed : Bool) : Fields → List Json → Except Fault (List Datum)
  | [], [] => if closed then .ok [] else .error .malformed
  | [], _ :: _ => .error .malformed
  | field :: fields, [] =>
    if !closed then .error .malformed
    else if early then (field :: fields).mapM (pick [])
    else .error .mistyped
  | field :: fields, v :: rest =>
    match field.kind.read v with
    | .ok d => (readItems early closed fields rest).map (d :: ·)
    | .error e => .error e

/-- What the fields of a record hold, read from a value. -/
def read (fields : Fields) (early : Bool) : Json → Except Fault (List Datum)
  | .object members closed => do
    let found ← readMembers fields [] members
    -- What is missing is noticed at the closing brace, so the text has to reach it.
    if closed then fields.mapM (pick found) else .error .malformed
  | .array items closed => readItems early closed fields items
  | v => .error (unexpected v)

end Fields

/-! ## Writing -/

/-- A character as it is written in a string. -/
def writeChar (c : Char) : List Char :=
  match c with
  | '"' => ['\\', '"']
  | '\\' => ['\\', '\\']
  | '\x08' => ['\\', 'b']
  | '\t' => ['\\', 't']
  | '\n' => ['\\', 'n']
  | '\x0c' => ['\\', 'f']
  | '\r' => ['\\', 'r']
  | c =>
    if c.toNat < 0x10 then ['\\', 'u', '0', '0', '0'] ++ Decimal.hexDigits c.toNat
    else if c.toNat < 0x20 then ['\\', 'u', '0', '0'] ++ Decimal.hexDigits c.toNat
    else [c]

/-- A string with its quotes. -/
def writeString (s : List Char) : List Char :=
  '"' :: s.flatMap writeChar ++ ['"']

/-- What a field holds, as it is written. -/
def Datum.write : Datum → List Char
  | .null => ['n', 'u', 'l', 'l']
  | .text s => writeString s.toList
  | .word n => Decimal.digits n.toNat

/-- How the members of an object are set: what stands after the opening brace, between two
members, after a colon and before the closing brace. -/
structure Layout where
  start : List Char
  separator : List Char
  afterColon : List Char
  finish : List Char

/-- Without any white space. -/
def Layout.compact : Layout := ⟨[], [','], [], []⟩

/-- One member on each line, after two spaces. -/
def Layout.pretty : Layout := ⟨['\n', ' ', ' '], [',', '\n', ' ', ' '], [' '], ['\n']⟩

/-- A record as it is written: each name with what the field holds. -/
def writeRecord (layout : Layout) (members : List (String × Datum)) : List Char :=
  let member := fun (m : String × Datum) =>
    writeString m.1.toList ++ [':'] ++ layout.afterColon ++ m.2.write
  ['\x7b'] ++ layout.start ++ layout.separator.intercalate (members.map member)
    ++ layout.finish ++ ['\x7d']

end NotebookGoto.Json
