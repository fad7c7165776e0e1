import NotebookGoto.Surroundings

/-!
# Paths in a folder

A program is started in a folder. A path is followed from there, one segment after the other: the
empty segment and the single dot stay where they are, two dots lead to the folder above, and any
other segment has to name what lies there. Nothing leads on from a file, not even the empty segment
behind a slash at the end. Of what lies above the folder nothing is known but that it is there.
-/

namespace NotebookGoto

open Text

/-- What lies in a folder. An entry may also be known under a path of its own, with slashes. -/
structure Folder where
  entries : List (String × FileEntry)

namespace Folder

/-- Where a path has led: to the folder itself, above it, or to an entry. -/
inductive Place where
  | here
  | above
  | entry (e : FileEntry)
  deriving DecidableEq, Repr

/-- The place to which a segment leads. A segment has at most 255 bytes. -/
def next (f : Folder) (place : Place) (segment : List Char) : Except IoFault Place :=
  match place with
  | .entry (.file _) => .error .notDirectory
  | _ =>
    if segment = [] ∨ segment = ['.'] then .ok place
    else if segment = ['.', '.'] then .ok (if place = .entry .directory then .here else .above)
    else if 255 < (Utf8.encode segment).length then .error .nameTooLong
    else match place, f.entries.lookup (String.ofList segment) with
      | .here, some e => .ok (.entry e)
      | _, _ => .error .notFound

/-- What a path names. It has less than 4096 bytes. -/
def entry (f : Folder) (path : String) : Except IoFault FileEntry :=
  match f.entries.lookup path, path.toList with
  | some e, _ => .ok e
  | none, [] => .error .notFound
  | none, c :: s =>
    if '\x00' ∈ c :: s then .error .nulInName
    else if 4096 ≤ (Utf8.encode (c :: s)).length then .error .nameTooLong
    else do
      let start : Place := if c = '/' then .above else .here
      match ← ((c :: s).splitOn '/').foldlM f.next start with
      | .entry e => return e
      | _ => return .directory

end Folder

end NotebookGoto
