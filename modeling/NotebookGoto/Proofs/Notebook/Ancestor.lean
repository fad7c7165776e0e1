import NotebookGoto.Proofs.Notebook.ServerPath
import NotebookGoto.Text.Blank

/-!
# Roots above the working directory

The root is what is left of the working directory when the characters of the notebook's directory
are taken off its end. Where these characters are whole components of the working directory the root
lies above it. Where they start inside a component it does not: without `analysis` the directory
`/srv/xanalysis` becomes `/srv/x`, which is another directory, and files below that one are named as
if the server could open them.

* **`isAncestor_append_iff`**: when the front of a path is made of whole components of it.
* **`exists_prefix_of_ne_self`**: a file that gets another name is the root, perhaps with a slash,
  and that name.
* **`named_below_ancestor_iff`**: the root that files are named from is an ancestor of the working
  directory just where the notebook's directory is cut off in whole components.
-/

namespace NotebookGoto.ServerPath

open Text

/-! ## Ancestors -/

/-- A directory without the slashes at its end. -/
def trimmed (dir : List Char) : List Char :=
  trimEndBy (· = '/') dir

/-- Whether a directory is another one or lies above it: slashes at its end do not count, and the
path of the other goes on behind it with a slash. -/
def IsAncestor (dir cwd : List Char) : Prop :=
  trimmed dir = trimmed cwd ∨ trimmed dir ++ ['/'] <+: cwd

instance (dir cwd : List Char) : Decidable (IsAncestor dir cwd) :=
  inferInstanceAs (Decidable (trimmed dir = trimmed cwd ∨ trimmed dir ++ ['/'] <+: cwd))

@[simp] theorem trimmed_append_slash (dir : List Char) : trimmed (dir ++ ['/']) = trimmed dir :=
  trimEndBy_append_of_all (by decide)

theorem trimmed_of_getLast? {dir : List Char} (h : dir.getLast? ≠ some '/') :
    trimmed dir = dir := by
  apply trimEndBy_eq_self
  intro c hc hslash
  have hc' : c = '/' := by simpa using hslash
  exact h (hc' ▸ hc)

theorem isAncestor_append_slash_iff {dir cwd : List Char} :
    IsAncestor (dir ++ ['/']) cwd ↔ IsAncestor dir cwd := by
  simp [IsAncestor]

/-- **The front of a path lies above it** where the cut is between two components: nothing is cut
off, or a slash stands on one side of the cut. -/
theorem isAncestor_append_iff {dir tail : List Char} :
    IsAncestor dir (dir ++ tail) ↔
      tail = [] ∨ tail.head? = some '/' ∨ dir.getLast? = some '/' := by
  constructor
  · intro h
    by_cases hlast : dir.getLast? = some '/'
    · exact .inr (.inr hlast)
    -- No slash is lost from the front, so it stands in the whole path as it is.
    have hself : trimmed dir = dir := trimmed_of_getLast? hlast
    cases tail with
    | nil => exact .inl rfl
    | cons c tail =>
      refine .inr (.inl ?_)
      rcases h with hsame | ⟨rest, hrest⟩
      · by_contra hc
        have hslash : c ≠ '/' := fun e => hc (by rw [e]; rfl)
        have hlong : trimmed (dir ++ c :: tail) = dir ++ c :: trimmed tail :=
          trimEndBy_append_cons (by simpa using hslash) dir tail
        rw [hself, hlong] at hsame
        simp at hsame
      · rw [hself, List.append_assoc] at hrest
        have hcons := List.append_cancel_left hrest
        simp only [List.singleton_append, List.cons.injEq] at hcons
        rw [← hcons.1]
        rfl
  · rintro (rfl | h)
    · exact .inl (by rw [List.append_nil])
    -- Some slash follows the trimmed front: one that was trimmed, or else the first of the tail.
    obtain ⟨slashes, hdir, hall⟩ := exists_trimEndBy (· = '/') dir
    have hnext : (slashes ++ tail).head? = some '/' := by
      cases slashes with
      | nil =>
        rw [List.append_nil] at hdir
        rcases h with hhead | hlast
        · exact hhead
        · have hkept : '/' ∈ (trimEndBy (· = '/') dir).getLast? := by
            rw [← hdir]
            exact hlast
          exact absurd (decide_eq_true rfl) (not_of_getLast?_trimEndBy hkept)
      | cons c slashes =>
        have hc : c = '/' := by simpa using List.all_eq_true.1 hall c List.mem_cons_self
        rw [hc]
        rfl
    obtain ⟨rest, hrest⟩ := List.head?_eq_some_iff.1 hnext
    refine .inr ⟨rest, ?_⟩
    show trimmed dir ++ ['/'] ++ rest = dir ++ tail
    calc trimmed dir ++ ['/'] ++ rest = trimmed dir ++ (slashes ++ tail) := by
          rw [hrest, List.append_assoc, List.singleton_append]
      _ = (trimmed dir ++ slashes) ++ tail := (List.append_assoc _ _ _).symm
      _ = dir ++ tail := congrArg (· ++ tail) hdir.symm

/-! ## Cutting off the notebook's directory -/

/-- Whether a directory, where another one ends in its characters, is made of whole components of
that one. -/
def CutsComponents (cwd dir : List Char) : Prop :=
  ∀ before, cwd = before ++ dir →
    dir = [] ∨ dir.head? = some '/' ∨ before.getLast? = some '/'

theorem root_of_not_suffix {cwd notebook : List Char}
    (h : ∀ before, cwd ≠ before ++ directory notebook) : root cwd notebook = cwd := by
  have hnone : beforeSuffix? (directory notebook) cwd = none := by
    rw [Option.eq_none_iff_forall_ne_some]
    exact fun before hcut => h before (beforeSuffix?_eq_some_iff.1 hcut)
  rw [root]
  split
  · rfl
  · rw [hnone]
    rfl

/-- **The root lies above the working directory** just where whole components are cut off. -/
theorem isAncestor_root_iff {cwd notebook : List Char} :
    IsAncestor (root cwd notebook) cwd ↔ CutsComponents cwd (directory notebook) := by
  by_cases hnil : directory notebook = []
  · rw [root_of_directory_nil hnil]
    exact iff_of_true (.inl rfl) fun _ _ => .inl hnil
  by_cases hsuffix : ∃ before, cwd = before ++ directory notebook
  · obtain ⟨before, rfl⟩ := hsuffix
    rw [root_of_suffix hnil, isAncestor_append_iff]
    constructor
    · intro h before' hbefore
      rwa [List.append_cancel_right hbefore.symm]
    · exact fun h => h before rfl
  · have hnot : ∀ before, cwd ≠ before ++ directory notebook :=
      fun before hcwd => hsuffix ⟨before, hcwd⟩
    rw [root_of_not_suffix hnot]
    exact iff_of_true (.inl rfl) fun before hcwd => absurd hcwd (hnot before)

/-! ## Names -/

/-- A file that gets another name is made of the root, perhaps a slash, and that name. -/
theorem exists_prefix_of_ne_self {file cwd notebook : String}
    (h : relativize file cwd notebook ≠ file) :
    ∃ p, file.toList = p ++ (relativize file cwd notebook).toList ∧
      (p = root cwd.toList notebook.toList ∨ p = root cwd.toList notebook.toList ++ ['/']) := by
  cases hbelow : below? (root cwd.toList notebook.toList) file.toList with
  | none => exact absurd (relativize_eq_self hbelow) h
  | some rest =>
    obtain ⟨hfile, -⟩ := below?_eq_some_iff.1 hbelow
    by_cases hslash : rest.head? = some '/'
    · obtain ⟨name, rfl⟩ := List.head?_eq_some_iff.1 hslash
      refine ⟨_, ?_, .inr rfl⟩
      rw [relativize_of_slash hbelow, String.toList_ofList, hfile]
      simp
    · refine ⟨_, ?_, .inl rfl⟩
      rw [relativize_of_rest hslash hbelow, String.toList_ofList, hfile]

/-- A file right below the root. -/
theorem relativize_root_slash (cwd notebook name : String) :
    relativize (String.ofList (root cwd.toList notebook.toList ++ '/' :: name.toList)) cwd
      notebook = name := by
  have hbelow : below? (root cwd.toList notebook.toList)
      (String.ofList (root cwd.toList notebook.toList ++ '/' :: name.toList)).toList =
        some ('/' :: name.toList) := by
    rw [String.toList_ofList, below?_eq_some_iff]
    exact ⟨rfl, .inr (.inl rfl)⟩
  rw [relativize_of_slash hbelow, String.ofList_toList]

/-- **Files are named from an ancestor of the working directory** just where the notebook's
directory is cut off in whole components: what stands before the name of a file that gets another
one is then the working directory or lies above it. Where the notebook's directory matches no more
than a part of a component, that part is cut off all the same, and the root lies beside the working
directory. -/
theorem named_below_ancestor_iff (cwd notebook : String) :
    (IsAncestor (root cwd.toList notebook.toList) cwd.toList ↔
        CutsComponents cwd.toList (directory notebook.toList)) ∧
      ((∀ file, relativize file cwd notebook ≠ file →
          ∃ p, file.toList = p ++ (relativize file cwd notebook).toList ∧
            IsAncestor p cwd.toList) ↔
        CutsComponents cwd.toList (directory notebook.toList)) := by
  refine ⟨isAncestor_root_iff, ?_⟩
  rw [← isAncestor_root_iff]
  constructor
  · intro h
    obtain ⟨file, hfile⟩ : ∃ file, file =
      String.ofList (root cwd.toList notebook.toList ++ '/' :: "f".toList) := ⟨_, rfl⟩
    have hname : relativize file cwd notebook = "f" :=
      hfile ▸ relativize_root_slash cwd notebook "f"
    have hparts : file.toList = (root cwd.toList notebook.toList ++ ['/']) ++ "f".toList := by
      rw [hfile, String.toList_ofList]
      simp
    have hne : relativize file cwd notebook ≠ file := by
      intro hself
      have hlength := congrArg (fun s : String => s.toList.length) (hname.symm.trans hself)
      simp [hparts] at hlength
    obtain ⟨p, hp, hancestor⟩ := h file hne
    rw [hname, hparts] at hp
    rw [← List.append_cancel_right hp, isAncestor_append_slash_iff] at hancestor
    exact hancestor
  · intro h file hne
    obtain ⟨p, hfile, rfl | rfl⟩ := exists_prefix_of_ne_self hne
    · exact ⟨_, hfile, h⟩
    · exact ⟨_, hfile, isAncestor_append_slash_iff.2 h⟩

/-- The working directory only ends in the characters of the notebook's directory. A file of the
directory beside it is named as if it were below the root. -/
theorem named_beside_workingDirectory :
    root "/srv/xanalysis".toList "analysis/nb.ipynb".toList = "/srv/x".toList ∧
      relativize "/srv/x/f.py" "/srv/xanalysis" "analysis/nb.ipynb" = "f.py" ∧
      ¬ ∃ p, "/srv/x/f.py".toList = p ++ "f.py".toList ∧ IsAncestor p "/srv/xanalysis".toList := by
  refine ⟨by decide, by decide, ?_⟩
  rintro ⟨p, hp, hancestor⟩
  have hparts : "/srv/x/f.py".toList = "/srv/x/".toList ++ "f.py".toList := by decide
  rw [hparts] at hp
  rw [← List.append_cancel_right hp] at hancestor
  revert hancestor
  decide

end NotebookGoto.ServerPath
