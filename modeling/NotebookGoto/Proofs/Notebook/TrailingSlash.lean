import Mathlib.Data.List.Basic
import NotebookGoto.Proofs.Notebook.Ancestor

/-!
# A slash behind the working directory

A kernel may write its working directory with a slash behind it. For a notebook in the server's root
this makes no difference: the root is then the working directory, and files below it have the same
names with and without the slash. But a notebook's directory is taken off as characters. It stands
at the end of the working directory either with the slash or without it, never both, so the two
roots are different directories wherever it is taken off at all, and no file below the root keeps
its name.

* **`root_of_not_cutOff`** and **`root_of_cutOff`**: the two roots.
* **`relativize_append_slash_ne`**: no file keeps its name.
* **`slash_changes_names_iff`**: when the slash makes a difference.
-/

namespace NotebookGoto.ServerPath

open Text

/-! ## Files below a directory and outside it -/

/-- Whether a file lies strictly below a directory, by a name of its own. A slash stands between the
two: the one that ends the directory's path, or one behind it. -/
def NamedBelow (dir name file : List Char) : Prop :=
  name ≠ [] ∧ name.head? ≠ some '/' ∧
    (file = dir ++ '/' :: name ∨ dir.getLast? = some '/' ∧ file = dir ++ name)

/-- Whether a file is neither a directory nor below it: if its path starts like the directory's,
then it goes on inside a component. -/
def Outside (dir file : List Char) : Prop :=
  ∀ rest, file = dir ++ rest → rest ≠ [] ∧ rest.head? ≠ some '/' ∧ dir.getLast? ≠ some '/'

instance (dir name file : List Char) : Decidable (NamedBelow dir name file) := by
  unfold NamedBelow
  infer_instance

section

variable {file cwd notebook name : String}

theorem relativize_of_namedBelow
    (h : NamedBelow (root cwd.toList notebook.toList) name.toList file.toList) :
    relativize file cwd notebook = name := by
  obtain ⟨-, hhead, hfile | ⟨hlast, hfile⟩⟩ := h
  · have hbelow :
        below? (root cwd.toList notebook.toList) file.toList = some ('/' :: name.toList) :=
      below?_eq_some_iff.2 ⟨hfile, .inr (.inl rfl)⟩
    rw [relativize_of_slash hbelow, String.ofList_toList]
  · have hbelow : below? (root cwd.toList notebook.toList) file.toList = some name.toList :=
      below?_eq_some_iff.2 ⟨hfile, .inr (.inr hlast)⟩
    rw [relativize_of_rest hhead hbelow, String.ofList_toList]

theorem relativize_of_outside (h : Outside (root cwd.toList notebook.toList) file.toList) :
    relativize file cwd notebook = file := by
  apply relativize_eq_self
  rw [Option.eq_none_iff_forall_ne_some]
  intro rest hrest
  obtain ⟨hfile, hends⟩ := below?_eq_some_iff.1 hrest
  obtain ⟨hne, hhead, hlast⟩ := h rest hfile
  rcases hends with hnil | hslash | hslash
  · exact hne hnil
  · exact hhead hslash
  · exact hlast hslash

end

/-! ## The two roots -/

/-- Whether a directory stands at the end of the working directory when a slash is written behind
both of them or behind none. A single slash is no directory. -/
def CutOff (cwd dir : List Char) : Prop :=
  ∃ before name, name ≠ [] ∧ cwd = before ++ name ∧ (dir = name ∨ dir = name ++ ['/'])

section

variable {cwd notebook : List Char}

/-- Where nothing is cut off the root is the working directory, and a slash behind this one is all
that can be behind that one. -/
theorem root_of_not_cutOff (h : ¬ CutOff cwd (directory notebook)) :
    root cwd notebook = cwd ∧
      (root (cwd ++ ['/']) notebook = cwd ++ ['/'] ∨ root (cwd ++ ['/']) notebook = cwd) := by
  by_cases hnil : directory notebook = []
  · exact ⟨root_of_directory_nil hnil cwd, .inl (root_of_directory_nil hnil _)⟩
  refine ⟨root_of_not_suffix fun before hsplit => h ⟨before, _, hnil, hsplit, .inl rfl⟩, ?_⟩
  by_cases hsuffix : ∃ before, cwd ++ ['/'] = before ++ directory notebook
  · obtain ⟨before, hbefore⟩ := hsuffix
    obtain ⟨name, c, hdir⟩ := List.eq_nil_or_concat (directory notebook) |>.resolve_left hnil
    rw [List.concat_eq_append] at hdir
    rw [hdir, ← List.append_assoc] at hbefore
    obtain ⟨hsplit, hc⟩ := List.append_inj' hbefore rfl
    -- A directory of one slash takes the slash off again; a longer one would be cut off.
    have hname : name = [] := by
      by_contra hne
      exact h ⟨before, name, hne, hsplit, .inr (by rw [hdir, ← hc])⟩
    right
    have hroot := root_of_suffix hnil cwd
    rwa [show directory notebook = ['/'] by rw [hdir, hname, ← hc]; rfl] at hroot
  · exact .inl (root_of_not_suffix fun before hbefore => hsuffix ⟨before, hbefore⟩)

variable (hcwd : cwd.getLast? ≠ some '/')

include hcwd

/-- No directory stands at the end of two paths of which only one ends in a slash. -/
theorem root_append_slash_of_suffix {before name : List Char} (hne : name ≠ [])
    (hsplit : cwd = before ++ name) (hdir : directory notebook = name) :
    root (cwd ++ ['/']) notebook = cwd ++ ['/'] := by
  apply root_of_not_suffix
  intro other hother
  rw [hsplit, List.getLast?_append_of_ne_nil _ hne] at hcwd
  have hlast := congrArg List.getLast? hother
  rw [List.getLast?_concat, hdir, List.getLast?_append_of_ne_nil _ hne] at hlast
  exact hcwd hlast.symm

theorem root_of_slash_suffix {name : List Char} (hdir : directory notebook = name ++ ['/']) :
    root cwd notebook = cwd := by
  apply root_of_not_suffix
  intro other hother
  rw [hother, hdir, ← List.append_assoc, List.getLast?_concat] at hcwd
  exact hcwd rfl

/-- Where the notebook's directory is cut off, it is so from one of the two paths only, and one root
lies far above the other. -/
theorem root_of_cutOff (h : CutOff cwd (directory notebook)) :
    ((root cwd notebook).length + 2 ≤ (root (cwd ++ ['/']) notebook).length) ∨
      (root cwd notebook = cwd ∧ (root (cwd ++ ['/']) notebook).length < cwd.length) := by
  obtain ⟨before, name, hne, hsplit, hdir | hdir⟩ := h
  · left
    have hroot : root cwd notebook = before := by
      have hcut : root (before ++ directory notebook) notebook = before :=
        root_of_suffix (by rwa [hdir]) before
      rwa [hdir, ← hsplit] at hcut
    have hlength := List.length_pos_iff.2 hne
    rw [root_append_slash_of_suffix hcwd hne hsplit hdir, hroot, hsplit]
    simp
    omega
  · right
    have hroot : root (cwd ++ ['/']) notebook = before := by
      have hcut : root (before ++ directory notebook) notebook = before :=
        root_of_suffix (by simp [hdir]) before
      rwa [hdir, ← List.append_assoc, ← hsplit] at hcut
    have hlength := List.length_pos_iff.2 hne
    refine ⟨root_of_slash_suffix hcwd hdir, ?_⟩
    rw [hroot, hsplit, List.length_append]
    omega

end

/-! ## Names -/

section

variable {file cwd notebook name : String} (hcwd : cwd.toList.getLast? ≠ some '/')

include hcwd

/-- **No file keeps its name** where the notebook's directory is cut off. What stands before the
name is the root, perhaps with a slash, and the two roots differ by more than a slash. -/
theorem relativize_append_slash_ne (h : CutOff cwd.toList (directory notebook.toList))
    (hfile : NamedBelow (root cwd.toList notebook.toList) name.toList file.toList) :
    relativize file (cwd ++ "/") notebook ≠ name := by
  intro hname
  have hslash : (cwd ++ "/").toList = cwd.toList ++ ['/'] := by simp
  have hroots := root_of_cutOff hcwd h
  obtain ⟨-, -, hparts⟩ := hfile
  have hlonger : name.toList.length < file.toList.length := by
    rcases hparts with hparts | ⟨hlast, hparts⟩
    · rw [hparts]
      simp
      omega
    · have hpos := List.length_pos_iff.2 (List.ne_nil_of_mem (List.mem_of_getLast? hlast))
      rw [hparts, List.length_append]
      omega
  -- A name is shorter than its file, so a front of the file has been taken off.
  have hne : relativize file (cwd ++ "/") notebook ≠ file := by
    intro hself
    rw [← hself, hname] at hlonger
    omega
  obtain ⟨p, hp, hfront⟩ := exists_prefix_of_ne_self hne
  rw [hname] at hp
  rw [hslash] at hfront
  have hshort := congrArg List.length hp
  rw [List.length_append] at hshort
  have hlength : (root (cwd.toList ++ ['/']) notebook.toList).length ≤ p.length ∧
      p.length ≤ (root (cwd.toList ++ ['/']) notebook.toList).length + 1 := by
    rcases hfront with rfl | rfl <;> simp
  rcases hparts with hparts | ⟨hlast, hparts⟩
  · rw [hparts, List.length_append, List.length_cons] at hshort
    rcases hroots with hroots | ⟨hroot, hroots⟩
    · omega
    · rw [hroot] at hshort
      omega
  · rw [hparts, List.length_append] at hshort
    rcases hroots with hroots | ⟨hroot, -⟩
    · omega
    · rw [hroot] at hlast
      exact hcwd hlast

theorem relativize_append_slash_eq (h : ¬ CutOff cwd.toList (directory notebook.toList))
    (hfile : (∃ name, NamedBelow (root cwd.toList notebook.toList) name file.toList) ∨
      Outside (root cwd.toList notebook.toList) file.toList) :
    relativize file (cwd ++ "/") notebook = relativize file cwd notebook := by
  have hslash : (cwd ++ "/").toList = cwd.toList ++ ['/'] := by simp
  obtain ⟨hroot, hroots⟩ := root_of_not_cutOff h
  rw [← hslash] at hroots
  rcases hroots with hlong | hsame
  · rcases hfile with ⟨name, hbelow⟩ | houtside
    · have hname : NamedBelow (root (cwd ++ "/").toList notebook.toList) name file.toList := by
        rw [hroot] at hbelow
        obtain ⟨hne, hhead, hparts | ⟨hlast, -⟩⟩ := hbelow
        · refine ⟨hne, hhead, .inr ?_⟩
          rw [hlong, hslash]
          exact ⟨List.getLast?_concat, by simpa using hparts⟩
        · exact absurd hlast hcwd
      rw [← String.toList_ofList (l := name)] at hname hbelow
      rw [relativize_of_namedBelow hname, relativize_of_namedBelow hbelow]
    · have hother : Outside (root (cwd ++ "/").toList notebook.toList) file.toList := by
        intro rest hrest
        rw [hlong, hslash, List.append_assoc, ← hroot] at hrest
        exact absurd rfl (houtside _ hrest).2.1
      rw [relativize_of_outside hother, relativize_of_outside houtside]
  · unfold relativize
    rw [hsame, hroot]

end

/-- **When a slash behind the working directory makes no difference.** Files strictly below the root
and files outside it are named alike with and without it just where the notebook's directory does
not stand at the end of the working directory. Where it does, every file strictly below the root
loses its name. -/
theorem slash_changes_names_iff (cwd notebook : String) (hcwd : cwd.toList.getLast? ≠ some '/') :
    ((∀ file : String, ((∃ name, NamedBelow (root cwd.toList notebook.toList) name file.toList) ∨
          Outside (root cwd.toList notebook.toList) file.toList) →
        relativize file (cwd ++ "/") notebook = relativize file cwd notebook) ↔
      ¬ CutOff cwd.toList (directory notebook.toList)) ∧
    (CutOff cwd.toList (directory notebook.toList) → ∀ file name : String,
      NamedBelow (root cwd.toList notebook.toList) name.toList file.toList →
        relativize file cwd notebook = name ∧ relativize file (cwd ++ "/") notebook ≠ name) := by
  have hlost (h : CutOff cwd.toList (directory notebook.toList)) (file name : String)
      (hfile : NamedBelow (root cwd.toList notebook.toList) name.toList file.toList) :
      relativize file cwd notebook = name ∧ relativize file (cwd ++ "/") notebook ≠ name :=
    ⟨relativize_of_namedBelow hfile, relativize_append_slash_ne hcwd h hfile⟩
  refine ⟨⟨fun hall hcut => ?_, fun hcut file => relativize_append_slash_eq hcwd hcut⟩, hlost⟩
  -- A file right below the root is enough to tell the two apart.
  obtain ⟨file, hfile⟩ : ∃ file, file =
    String.ofList (root cwd.toList notebook.toList ++ '/' :: "f".toList) := ⟨_, rfl⟩
  have hbelow : NamedBelow (root cwd.toList notebook.toList) "f".toList file.toList := by
    refine ⟨by decide, by decide, .inl ?_⟩
    rw [hfile, String.toList_ofList]
  obtain ⟨hname, hother⟩ := hlost hcut file "f" hbelow
  rw [hall file (.inl ⟨_, hbelow⟩)] at hother
  exact hother hname

/-- A notebook in the server's root, and one in a directory below it. -/
theorem slash_behind_root_and_below_it :
    relativize "/srv/lab/util.py" "/srv/lab/" "nb.ipynb" =
        relativize "/srv/lab/util.py" "/srv/lab" "nb.ipynb" ∧
      ¬ ∀ file : String, ((∃ name, NamedBelow "/srv/".toList name file.toList) ∨
          Outside "/srv/".toList file.toList) →
        relativize file "/srv/work/" "work/nb.ipynb" =
          relativize file "/srv/work" "work/nb.ipynb" := by
  have hroot : root "/srv/work".toList "work/nb.ipynb".toList = "/srv/".toList := by decide
  constructor
  · refine (slash_changes_names_iff "/srv/lab" "nb.ipynb" (by decide)).1.2 ?_ _
      (.inl ⟨"util.py".toList, by decide⟩)
    rintro ⟨before, name, hne, _, hdir⟩
    rw [show directory "nb.ipynb".toList = [] by decide] at hdir
    rcases hdir with hdir | hdir
    · exact hne hdir.symm
    · simp at hdir
  · rw [← hroot]
    intro hall
    refine (slash_changes_names_iff "/srv/work" "work/nb.ipynb" (by decide)).1.1 hall ?_
    exact ⟨"/srv/".toList, "work".toList, by decide, by decide, .inl (by decide)⟩

/-- The root is `/srv/` without the slash behind the working directory, and `/srv/work/` with it. A
file below the first alone has a name only without the slash. -/
theorem named_only_without_slash :
    "/srv/work" ≠ "" ∧ "/srv/work".toList.getLast? ≠ some '/' ∧
      root "/srv/work".toList "work/nb.ipynb".toList = "/srv/".toList ∧
      NamedBelow "/srv/".toList "lib/m.py".toList "/srv/lib/m.py".toList ∧
      relativize "/srv/lib/m.py" "/srv/work" "work/nb.ipynb" = "lib/m.py" ∧
      relativize "/srv/lib/m.py" "/srv/work/" "work/nb.ipynb" = "/srv/lib/m.py" := by
  decide

end NotebookGoto.ServerPath
