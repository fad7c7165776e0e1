import NotebookGoto.Text.Affix

/-!
# Paths under the server's root

A notebook is known by its path below the root of the notebook server, while the kernel runs in
the notebook's directory and names files by absolute paths. So the root is the kernel's working
directory without the notebook's directory at its end, and a file below the root can be named as
the server names it, by what follows the root.
-/

namespace NotebookGoto.ServerPath

open Text

/-- The directory of a path: what stands before its last slash. -/
def directory (path : List Char) : List Char :=
  ((path.reverse.dropWhile (· ≠ '/')).drop 1).reverse

/-- The root of the server, seen from a kernel's working directory. -/
def root (cwd notebook : List Char) : List Char :=
  match directory notebook with
  | [] => cwd
  | dir => (beforeSuffix? dir cwd).getD cwd

/-- What follows a root in the path of a file that is the root itself or lies below it. -/
def below? (root file : List Char) : Option (List Char) :=
  match afterPrefix? root file with
  | none => none
  | some rest =>
    if rest = [] ∨ rest.head? = some '/' ∨ root.getLast? = some '/' then some rest else none

/-- A file's path as the server names it. A file outside the root keeps its own path. -/
def relativize (file cwd notebook : String) : String :=
  match below? (root cwd.toList notebook.toList) file.toList with
  | none => file
  | some ('/' :: rest) => String.ofList rest
  | some rest => String.ofList rest

end NotebookGoto.ServerPath
