import Mathlib.Data.List.TakeWhile
import NotebookGoto.Notebook.ServerPath

/-!
# Naming files below the server's root

The root of the server is found by cutting a notebook's directory off the end of the kernel's
working directory. For a notebook in the root itself nothing is cut off, and for one in a directory
below it the slash before that directory stays; so the root ends in a slash in one case and not in
the other (`root_workingDirectory`). What is below it is the same in both.

* **`below?_eq_some_iff`**: what follows a root in a path, and that the root is made of whole
  components of it.
* **`relativize_below`** and **`relativize_outside`**: the two kinds of files.
* **`relativize_inverts_root`**: a file below the root is named by what follows the root and a
  slash, and a file outside it keeps its path.
-/

namespace NotebookGoto.ServerPath

open Text

/-! ## Directories -/

theorem directory_of_not_mem {path : List Char} (h : '/' ∉ path) : directory path = [] := by
  have hall : path.reverse.dropWhile (· ≠ '/') = [] := by
    rw [List.dropWhile_eq_nil_iff]
    intro c hc
    exact decide_eq_true fun e => h (e ▸ List.mem_reverse.1 hc)
  rw [directory, hall]
  rfl

/-- The last slash is the one before a name that holds none. -/
theorem directory_append {name : List Char} (h : '/' ∉ name) (dir : List Char) :
    directory (dir ++ '/' :: name) = dir := by
  have hreverse : (dir ++ '/' :: name).reverse = name.reverse ++ '/' :: dir.reverse := by simp
  have hname : ∀ c ∈ name.reverse, decide (c ≠ '/') = true := by
    intro c hc
    exact decide_eq_true fun e => h (e ▸ List.mem_reverse.1 hc)
  rw [directory, hreverse, List.dropWhile_append_of_pos hname,
    List.dropWhile_cons_of_neg (by decide), List.drop_one, List.tail_cons, List.reverse_reverse]

/-! ## The root -/

/-- The kernel's working directory for a notebook in a directory below the server's root. -/
def workingDirectory (server dir : String) : String :=
  if dir = "" then server else server ++ "/" ++ dir

/-- The path of a notebook in a directory below the server's root. -/
def notebookPath (dir name : String) : String :=
  if dir = "" then name else dir ++ "/" ++ name

theorem root_of_directory_nil {notebook : List Char} (h : directory notebook = [])
    (cwd : List Char) : root cwd notebook = cwd := by
  rw [root, h]

theorem root_of_suffix {notebook : List Char} (h : directory notebook ≠ []) (before : List Char) :
    root (before ++ directory notebook) notebook = before := by
  have hcut : beforeSuffix? (directory notebook) (before ++ directory notebook) = some before :=
    beforeSuffix?_eq_some_iff.2 rfl
  rw [root]
  split
  · rename_i hnil
    exact absurd hnil h
  · rw [hcut]
    rfl

/-- **The root that is found.** It is the server's, with a slash behind it unless the notebook lies
in the root itself. -/
theorem root_workingDirectory {name : String} (hname : '/' ∉ name.toList) (server dir : String) :
    root (workingDirectory server dir).toList (notebookPath dir name).toList =
      if dir = "" then server.toList else server.toList ++ ['/'] := by
  by_cases hdir : dir = ""
  · rw [workingDirectory, notebookPath, if_pos hdir, if_pos hdir, if_pos hdir]
    exact root_of_directory_nil (directory_of_not_mem hname) server.toList
  · have hdirectory : directory (dir ++ "/" ++ name).toList = dir.toList := by
      have hparts : (dir ++ "/" ++ name).toList = dir.toList ++ '/' :: name.toList := by simp
      rw [hparts, directory_append hname]
    have hne : directory (dir ++ "/" ++ name).toList ≠ [] := by
      rw [hdirectory]
      exact fun h => hdir (String.toList_eq_nil_iff.1 h)
    have hcwd : (server ++ "/" ++ dir).toList =
        (server.toList ++ ['/']) ++ directory (dir ++ "/" ++ name).toList := by
      rw [hdirectory]
      simp
    rw [workingDirectory, notebookPath, if_neg hdir, if_neg hdir, if_neg hdir, hcwd]
    exact root_of_suffix hne (server.toList ++ ['/'])

/-! ## Files -/

/-- **What lies below a root.** The path starts with the root, and the root ends where a component
of the path does. -/
theorem below?_eq_some_iff {root file rest : List Char} :
    below? root file = some rest ↔
      file = root ++ rest ∧ (rest = [] ∨ rest.head? = some '/' ∨ root.getLast? = some '/') := by
  rw [below?, ← afterPrefix?_eq_some_iff]
  cases afterPrefix? root file with
  | none => simp
  | some r =>
    dsimp only
    split
    · rename_i hends
      constructor
      · intro e
        cases e
        exact ⟨rfl, hends⟩
      · exact fun h => h.1
    · rename_i hends
      constructor
      · exact nofun
      · rintro ⟨e, h⟩
        cases e
        exact absurd h hends

section

variable {file cwd notebook : String}

theorem relativize_eq_self (h : below? (root cwd.toList notebook.toList) file.toList = none) :
    relativize file cwd notebook = file := by
  rw [relativize, h]

/-- Of what follows the root one slash is not part of the name. -/
theorem relativize_of_slash {rest : List Char}
    (h : below? (root cwd.toList notebook.toList) file.toList = some ('/' :: rest)) :
    relativize file cwd notebook = String.ofList rest := by
  rw [relativize, h]
  rfl

theorem relativize_of_rest {rest : List Char} (hrest : rest.head? ≠ some '/')
    (h : below? (root cwd.toList notebook.toList) file.toList = some rest) :
    relativize file cwd notebook = String.ofList rest := by
  rw [relativize, h]
  split
  · rename_i e
    cases e
  · rename_i e
    cases e
    exact absurd rfl hrest
  · rename_i e
    cases e
    rfl

end

/-! ## Below the server's root and outside it -/

theorem relativize_below {name p : String} (hname : '/' ∉ name.toList)
    (hp : p.toList.head? ≠ some '/') (server dir : String) :
    relativize (server ++ "/" ++ p) (workingDirectory server dir) (notebookPath dir name) = p := by
  have hroot := root_workingDirectory hname server dir
  have hfile : (server ++ "/" ++ p).toList = server.toList ++ '/' :: p.toList := by simp
  by_cases hdir : dir = ""
  · rw [if_pos hdir] at hroot
    have hbelow : below? (root (workingDirectory server dir).toList
        (notebookPath dir name).toList) (server ++ "/" ++ p).toList = some ('/' :: p.toList) := by
      rw [hroot, below?_eq_some_iff]
      exact ⟨hfile, .inr (.inl rfl)⟩
    rw [relativize_of_slash hbelow, String.ofList_toList]
  -- Here the slash belongs to the root, and none may follow it that would be taken off as well.
  · rw [if_neg hdir] at hroot
    have hbelow : below? (root (workingDirectory server dir).toList
        (notebookPath dir name).toList) (server ++ "/" ++ p).toList = some p.toList := by
      rw [hroot, below?_eq_some_iff]
      exact ⟨by rw [hfile]; simp, .inr (.inr (by simp))⟩
    rw [relativize_of_rest hp hbelow, String.ofList_toList]

theorem relativize_outside {server name file : String} (hserver : server.toList.getLast? ≠ some '/')
    (hname : '/' ∉ name.toList) (hself : file ≠ server) (hbelow : ∀ p, file ≠ server ++ "/" ++ p)
    (dir : String) :
    relativize file (workingDirectory server dir) (notebookPath dir name) = file := by
  have hnot (rest : List Char) : file.toList ≠ server.toList ++ '/' :: rest := by
    intro h
    apply hbelow (String.ofList rest)
    rw [← String.toList_inj, h]
    simp
  apply relativize_eq_self
  rw [root_workingDirectory hname server dir, Option.eq_none_iff_forall_ne_some]
  intro rest hrest
  obtain ⟨hfile, hends⟩ := below?_eq_some_iff.1 hrest
  by_cases hdir : dir = ""
  -- Behind the root without its slash something has to follow, and it has to start with one.
  · rw [if_pos hdir] at hfile hends
    rcases hends with rfl | hslash | hlast
    · rw [List.append_nil] at hfile
      exact hself (String.toList_inj.1 hfile)
    · obtain ⟨tail, rfl⟩ := List.head?_eq_some_iff.1 hslash
      exact hnot tail hfile
    · exact hserver hlast
  · rw [if_neg hdir, List.append_assoc] at hfile
    exact hnot rest hfile

/-- A path that goes on behind the characters of a root without a slash is outside it. -/
theorem append_ne_below {rest : String} (hne : rest ≠ "") (hrest : rest.toList.head? ≠ some '/')
    (server : String) : server ++ rest ≠ server ∧ ∀ p, server ++ rest ≠ server ++ "/" ++ p := by
  constructor
  · intro h
    have hlist := congrArg String.toList h
    rw [String.toList_append, List.append_right_eq_self] at hlist
    exact hne (String.toList_eq_nil_iff.1 hlist)
  · intro p h
    have hlist := congrArg String.toList h
    rw [String.toList_append, String.toList_append, String.toList_append,
      List.append_assoc] at hlist
    rw [List.append_cancel_left hlist] at hrest
    exact hrest rfl

/-- **Naming a file inverts the root.** A notebook lies in the directory `dir` below the root of the
server, or in the root itself where `dir` is empty, and its kernel runs in its directory. Then a
file below the root is named by its path from there, so that the root, a slash and the name give the
file back. A file that is neither the root nor below it keeps its path, also where that starts with
the characters of the root. -/
theorem relativize_inverts_root (server dir name : String)
    (hserver : server.toList.getLast? ≠ some '/') (hname : '/' ∉ name.toList) :
    (∀ p : String, p.toList.head? ≠ some '/' →
      relativize (server ++ "/" ++ p) (workingDirectory server dir) (notebookPath dir name) = p) ∧
    (∀ file : String, file ≠ server → (∀ p, file ≠ server ++ "/" ++ p) →
      relativize file (workingDirectory server dir) (notebookPath dir name) = file) ∧
    ∀ rest : String, rest ≠ "" → rest.toList.head? ≠ some '/' →
      relativize (server ++ rest) (workingDirectory server dir) (notebookPath dir name) =
        server ++ rest := by
  refine ⟨?_, ?_, ?_⟩
  · intro p hp
    exact relativize_below hname hp server dir
  · intro file hself hbelow
    exact relativize_outside hserver hname hself hbelow dir
  · intro rest hne hrest
    obtain ⟨hself, hbelow⟩ := append_ne_below hne hrest server
    exact relativize_outside hserver hname hself hbelow dir

/-- The directory's name occurs again in the root and in the file, and the root is the empty one. -/
theorem relativize_below_repeated_names :
    relativize "/a/b/b/a.py" "/a/b" "b/n.ipynb" = "b/b/a.py" ∧
    relativize "/a/b/b/b/m.py" "/a/b/b" "b/n.ipynb" = "b/b/m.py" ∧
    relativize "/a/bc/m.py" "/a/b/b" "b/n.ipynb" = "/a/bc/m.py" ∧
    relativize "b/m.py" "/b" "b/n.ipynb" = "b/m.py" := by
  have hnested := relativize_inverts_root "/a/b" "b" "n.ipynb" (by decide) (by decide)
  have hempty := relativize_inverts_root "" "b" "n.ipynb" (by decide) (by decide)
  exact ⟨(relativize_inverts_root "/a" "b" "n.ipynb" (by decide) (by decide)).1 "b/b/a.py"
      (by decide),
    hnested.1 "b/b/m.py" (by decide), hnested.2.2 "c/m.py" (by decide) (by decide),
    hempty.2.2 "b/m.py" (by decide) (by decide)⟩

end NotebookGoto.ServerPath
