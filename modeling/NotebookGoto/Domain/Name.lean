import NotebookGoto.Domain.Direction
import NotebookGoto.Domain.Joiner
import NotebookGoto.Domain.Mapping
import NotebookGoto.Domain.Normal
import NotebookGoto.Domain.Punycode
import NotebookGoto.Text.Affix

/-!
# Domain names

A domain name is a list of labels with points between them. One that a reader writes may hold
characters of all scripts; for the network it is put into ASCII. For that it is mapped and brought
into the composed form, and each label that then still holds other characters is written in
Punycode behind a mark. A label may come with this mark already, and then has to stand for one
that is in its final form. `Name.ascii?` is none for a name that breaks one of these rules.

There is no bound on the length of a name and no rule about its hyphens, so that a name of ASCII
characters only needs nothing but small letters.
-/

namespace NotebookGoto.Domain

open Text

/-- A label of a name: what it means, and how it is written for the network. -/
structure Label where
  meant : List Char
  written : List Char
  deriving DecidableEq, Repr

namespace Label

/-- Whether a text consists of ASCII characters. -/
def isAscii (s : List Char) : Bool :=
  s.all (·.toNat < 0x80)

/-- The mark of a label in Punycode. -/
def mark : List Char := ['x', 'n', '-', '-']

/-- What a label in Punycode means, given what follows its mark. There are numbers at its end, for
it holds a character that needs them. What it means is in its final form and carries no mark. -/
def decode? (s : List Char) : Option (List Char) := do
  if !isAscii s || s.isEmpty || s.getLast? = some '-' || 2000 < s.length then none
  else
    let label ← Punycode.decode? s
    if label.all Mapping.isFixed && Normal.form label = label && !mark.isPrefixOf label then label
    else none

/-- The label that a mapped text is. -/
def ofMapped? (s : List Char) : Option Label :=
  match afterPrefix? mark s with
  | some rest => (decode? rest).map (⟨·, s⟩)
  | none =>
    if isAscii s then some ⟨s, s⟩
    else if 1000 < s.length then none
    else some ⟨s, mark ++ Punycode.encode s⟩

/-- Whether a label may stand in a name: it does not start with a mark that belongs to a character
before it, and its joiners make a difference. -/
def isValid (l : Label) : Bool :=
  !l.meant.head?.any (fun c => (Mark.of? c).isSome) && Joiner.allFit [] l.meant

end Label

namespace Name

/-- An ASCII character that no name holds. -/
def isDenied (c : Char) : Bool :=
  c.toNat ≤ 0x20 || c.toNat = 0x7F
    || c ∈ ['#', '%', '/', ':', '<', '>', '?', '@', '[', '\\', ']', '^', '|']

/-- The name that a text is after mapping, in ASCII. -/
def ofMapped? (s : List Char) : Option (List Char) := do
  let labels ← (s.splitOn '.').mapM Label.ofMapped?
  if labels.all Label.isValid && Direction.allAgree (labels.map Label.meant) then
    some (['.'].intercalate (labels.map Label.written))
  else none

/-- The name that a text spells, in ASCII. -/
def ascii? (s : List Char) : Option (List Char) := do
  let small := s.map Char.toLower
  -- Of ASCII characters only the capital letters are mapped, and none of them needs a table.
  let plain := Label.isAscii small && !(small.splitOn '.').any (Label.mark.isPrefixOf ·)
  let mapped ← if plain then some small else (Mapping.text? s).map Normal.form
  if mapped.any isDenied then none
  else if plain then some mapped
  else ofMapped? mapped

end Name

end NotebookGoto.Domain
