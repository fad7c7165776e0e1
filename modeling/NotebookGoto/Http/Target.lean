import NotebookGoto.Text.Affix
import NotebookGoto.Text.Utf8

/-!
# Request targets

The target of a request says which path is asked for, with which query. It is a path, or a whole
URI, of which only path and query count, or an authority alone, which has no path. A fragment is
cut off. `Target.ofText?` checks that each part is made of characters that may stand in it.
-/

namespace NotebookGoto.Http

open Text

/-- A path, and the query after it where there is one. -/
structure Target where
  path : List Char
  query : Option (List Char)
  deriving DecidableEq, Repr

namespace Target

/-- A control, the space and the delete character included. -/
def isControl (c : Char) : Bool :=
  c.toNat ≤ 0x20 || c.toNat = 0x7F

/-- A character that may stand in a path. -/
def inPath (c : Char) : Bool :=
  !isControl c && c ∉ ['#', '<', '>', '?', '\x60']

/-- A character that may stand in a query. -/
def inQuery (c : Char) : Bool :=
  !isControl c && c ∉ ['"', '#', '<', '>']

/-- A character that may stand in the name of a scheme. -/
def inScheme (c : Char) : Bool :=
  c.isAlphanum || c ∈ ['+', '-', '.', '~']

/-- A character that may stand in an authority, the brackets around an address included. -/
def inAuthority (c : Char) : Bool :=
  c.isAlphanum || c ∈ ['-', '.', '_', '~', '!', '$', '&', '\'', '(', ')', '*', '+', ',', ';', '=',
    ':', '[', ']', '@', '%']

/-- The target of a path, its query and its fragment. -/
def ofPath? (s : List Char) : Option Target :=
  let s := s.takeWhile (· ≠ '#')
  let path := s.takeWhile (· ≠ '?')
  let query := match s.dropWhile (· ≠ '?') with
    | [] => none
    | _ :: query => some query
  if path.all inPath && (query.getD []).all inQuery then some ⟨path, query⟩ else none

/-- How far an authority has been read: the colons since the last `@` or closing bracket, whether
a bracket has been opened and closed, and whether an escape stands since then. -/
structure Authority where
  colons : Nat
  opened : Bool
  closed : Bool
  escape : Bool

/-- Whether the rest of an authority is well-formed. One pair of brackets may stand in it, and at
its end at most one colon and no escape outside of them. -/
def Authority.accepts (a : Authority) : List Char → Bool
  | [] => a.opened == a.closed && a.colons ≤ 1 && !a.escape
  | c :: rest =>
    inAuthority c &&
    if c = ':' then a.colons < 8 && accepts { a with colons := a.colons + 1 } rest
    else if c = '[' then !a.escape && !a.opened && accepts { a with opened := true } rest
    else if c = ']' then
      a.opened && !a.closed && accepts { a with closed := true, colons := 0, escape := false } rest
    else if c = '@' then !rest.isEmpty && accepts { a with colons := 0, escape := false } rest
    else if c = '%' then accepts { a with escape := true } rest
    else accepts a rest

/-- Whether a text is an authority. -/
def isAuthority (s : List Char) : Bool :=
  Authority.accepts ⟨0, false, false, false⟩ s

/-- What follows the scheme of a whole URI and its two slashes, and the length of the scheme. -/
def afterScheme? (s : List Char) : Option (Nat × List Char) :=
  let scheme := s.takeWhile inScheme
  (afterPrefix? [':', '/', '/'] (s.dropWhile inScheme)).bind fun rest =>
    if scheme.isEmpty && rest.isEmpty then none else some (scheme.length, rest)

/-- The target that a text spells. -/
def ofText? (s : List Char) : Option Target :=
  if 65534 < (Utf8.encode s).length then none
  else match s with
    | [] => none
    | ['*'] => some ⟨['*'], none⟩
    | '/' :: _ => ofPath? s
    | _ =>
      match afterScheme? s with
      | none => if isAuthority s then some ⟨[], none⟩ else none
      | some (length, rest) =>
        -- The authority ends where path, query or fragment start.
        let outside := fun (c : Char) => c ∉ ['/', '?', '#']
        let authority := rest.takeWhile outside
        if 64 < length || authority.isEmpty || !isAuthority authority then none
        else (ofPath? (rest.dropWhile outside)).map fun t =>
          if t.path.isEmpty then { t with path := ['/'] } else t

end Target

end NotebookGoto.Http
