import NotebookGoto.Json.Record

/-!
# Formats

A format fixes how the values of a type are laid out as a record, and so how they are written as
JSON and read back. What makes it a format is that the data of a value determine the value.
-/

namespace NotebookGoto.Json

/-- How the values of a type are laid out as a record. Where `early` is set, an array may end
before the record's fields do. -/
structure Format (α : Type) where
  fields : Fields
  early : Bool
  toData : α → List Datum
  ofData? : List Datum → Option α
  ofData?_toData : ∀ a, ofData? (toData a) = some a

namespace Format

variable {α : Type} (f : Format α)

/-- The value of a record. -/
def read (v : Json) : Except Fault α := do
  match f.ofData? (← f.fields.read f.early v) with
  | some a => .ok a
  | none => .error .mistyped

/-- The values of an array of records. -/
def readList : Json → Except Fault (List α)
  | .array items closed => do
    let values ← items.mapM f.read
    if closed then .ok values else .error .malformed
  | v => .error (unexpected v)

/-- The value of a text that holds one record and nothing else. -/
def ofText? (s : List Char) : Option α :=
  (f.read (readAll (s.map some))).toOption

/-- A record with its names. -/
def members (a : α) : List (String × Datum) :=
  (f.fields.map (·.name)).zip (f.toData a)

/-- A value as it is written, without any white space. -/
def toText (a : α) : List Char :=
  writeRecord .compact (f.members a)

end Format

end NotebookGoto.Json
