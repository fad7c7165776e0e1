import Mathlib.Data.List.Nodup
import NotebookGoto.CommandLine.Arguments
import NotebookGoto.Proofs.Text.Named
import NotebookGoto.Text.Blank

/-!
# Written arguments

Arguments are written with each option and its value in one argument, `--name=value`, and with the
operand behind the mark `--` (`Arguments.toList`). What stands behind the first `=` is the value,
whatever it holds, so an option is read as it was written (`State.step_written`), and so are the
options one after another as long as none of them comes twice and each value is of its option's kind
(`State.run_written`). Arguments that are written for the options of a signature are therefore read
back just where they fit it.

* **`Arguments.ofList_toList_of_fits`**: arguments that fit are read back.
* **`Arguments.isUsageError_ofList_toList`**: all others are a usage error.
-/

namespace NotebookGoto.CommandLine

open Text

/-- An option with its value, as one argument. -/
def written (o : String × String) : String :=
  "--" ++ o.1 ++ "=" ++ o.2

/-- Arguments as they are written: the options, and behind the mark the operand. -/
def Arguments.toList (a : Arguments) : List String :=
  a.values.map written ++ a.operand.elim [] (["--", ·])

/-- The names of the options that are there. -/
def Arguments.names (a : Arguments) : List String :=
  a.values.map Prod.fst

/-- The names of the options that there may be. -/
def Signature.names (sig : Signature) : List String :=
  sig.flags.map (·.name)

/-- Whether the options can be told apart as they are written: their names are distinct, do not hold
the mark that ends a name and are not the word that asks for help. -/
structure Signature.IsSound (sig : Signature) : Prop where
  distinct : sig.names.Nodup
  written : ∀ name ∈ sig.names, '=' ∉ name.toList ∧ name ≠ "help"

/-- Whether a signature has an option, and the value is of the option's kind. -/
def Signature.Takes (sig : Signature) (o : String × String) : Prop :=
  ∃ f ∈ sig.flags, f.name = o.1 ∧ f.kind.fault? o.2 = none

/-- Whether arguments are what a signature asks for. -/
structure Arguments.Fits (a : Arguments) (sig : Signature) : Prop where
  distinct : a.names.Nodup
  takes : ∀ o ∈ a.values, sig.Takes o
  operand : a.operand.isSome = true → sig.operand = true
  required : ∀ name ∈ sig.required, name ∈ a.names
  needs : ∀ need ∈ sig.needs, need.1 ∈ a.names → need.2 ∈ a.names

/-! ## Usage errors -/

/-- Whether reading fails with the exit status of a usage error. -/
def IsUsageError {α : Type} (r : Except Fault α) : Prop :=
  ∃ fault, r = .error fault ∧ fault.exit = 2

theorem IsUsageError.bind {α β : Type} {r : Except Fault α} (h : IsUsageError r)
    (next : α → Except Fault β) : IsUsageError (r >>= next) := by
  obtain ⟨fault, rfl, hexit⟩ := h
  exact ⟨fault, rfl, hexit⟩

theorem IsUsageError.map {α β : Type} {r : Except Fault α} (h : IsUsageError r) (g : α → β) :
    IsUsageError (r.map g) := by
  obtain ⟨fault, rfl, hexit⟩ := h
  exact ⟨fault, rfl, hexit⟩

theorem exit_of_fault? {kind : ValueKind} {value : String} {fault : Fault}
    (h : kind.fault? value = some fault) : fault.exit = 2 := by
  cases kind with
  | text => cases h
  | nonempty =>
    rw [ValueKind.fault?] at h
    split at h <;> cases h
    rfl
  | word =>
    rw [ValueKind.fault?] at h
    split at h <;> cases h
    rfl

/-! ## One written option -/

variable {sig : Signature} {f : Flag} {o : String × String} {value : String}

theorem toList_written (o : String × String) :
    (written o).toList = '-' :: '-' :: (o.1.toList ++ '=' :: o.2.toList) := by
  simp [written]

theorem shape_written (h : '=' ∉ o.1.toList) :
    shape (written o) = .long o.1.toList (some o.2) := by
  have hname : ∀ c ∈ o.1.toList, decide (c ≠ '=') = true := fun c hc =>
    decide_eq_true fun e => h (e ▸ hc)
  -- Behind the two marks there is at least the `=`, so this is not the mark of the operands.
  obtain ⟨c, rest, hrest⟩ : ∃ c rest, o.1.toList ++ '=' :: o.2.toList = c :: rest :=
    List.exists_cons_of_ne_nil (by simp)
  rw [shape, toList_written, hrest]
  show Shape.long ((c :: rest).takeWhile (· ≠ '=')) _ = _
  rw [← hrest, takeWhile_append_cons hname (by decide), dropWhile_append_cons hname (by decide)]
  show Shape.long _ (some (String.ofList o.2.toList)) = _
  rw [String.ofList_toList]

theorem Signature.IsSound.find?_name (hsig : sig.IsSound) (hf : f ∈ sig.flags) :
    sig.flags.find? (·.name.toList = f.name.toList) = some f := by
  have hdistinct : (sig.flags.map (·.name.toList)).Nodup := by
    have hnames := hsig.distinct.map fun _ _ => String.toList_injective
    rwa [Signature.names, List.map_map] at hnames
  exact find?_of_mem hdistinct hf

namespace State

variable {st : State}

/-- Whether an option may come, and none waits for its value. -/
structure IsOpen (st : State) : Prop where
  settled : st.pending = none
  inFront : st.onlyOperands = false

theorem settle_of_settled (h : st.pending = none) : st.settle = .ok st := by
  rw [settle, h]

/-- **A written option is read as it stands.** -/
theorem step_written (hsig : sig.IsSound) (hopen : st.IsOpen) (hf : f ∈ sig.flags)
    (hname : f.name = o.1) : st.step sig (written o) = st.accept f o.2 := by
  have hfind := hsig.find?_name hf
  obtain ⟨hmark, hhelp⟩ := hsig.written f.name (List.mem_map_of_mem hf)
  rw [hname] at hfind hmark hhelp
  have hne : o.1.toList ≠ "help".toList := fun e => hhelp (String.toList_injective e)
  rw [step, if_neg (by simp [hopen.inFront]), shape_written hmark]
  simp only [if_neg hne, hfind, option, settle_of_settled hopen.settled]
  rfl

theorem accept_of_fits (hnew : f.name ∉ st.values.map Prod.fst)
    (hkind : f.kind.fault? value = none) :
    st.accept f value = .ok { st with values := (f.name, value) :: st.values } := by
  rw [accept, if_neg (mt lookup_isSome_iff.1 hnew), hkind]

theorem isUsageError_accept (h : ¬ (f.name ∉ st.values.map Prod.fst ∧ f.kind.fault? value = none)) :
    IsUsageError (st.accept f value) := by
  rw [accept]
  split
  next => exact ⟨.repeated, rfl, rfl⟩
  next hold =>
    have hnew := mt lookup_isSome_iff.2 hold
    cases hkind : f.kind.fault? value with
    | none => exact absurd ⟨hnew, hkind⟩ h
    | some fault => exact ⟨fault, rfl, exit_of_fault? hkind⟩

/-! ## Written options one after another

What has been accepted is kept in front, so the names that must be distinct after one more option
are those of the options still to come, in reverse, and of those before. -/

theorem run_written (hsig : sig.IsSound) {options : List (String × String)} (hopen : st.IsOpen)
    (hdistinct : ((options.reverse ++ st.values).map Prod.fst).Nodup)
    (htakes : ∀ o ∈ options, sig.Takes o) :
    (options.map written).foldlM (State.step sig) st =
      .ok { st with values := options.reverse ++ st.values } := by
  induction options generalizing st with
  | nil => rfl
  | cons o options ih =>
    obtain ⟨⟨f, hf, hname, hkind⟩, htakes⟩ := List.forall_mem_cons.1 htakes
    rw [List.reverse_cons, List.append_assoc, List.singleton_append] at hdistinct ⊢
    have hnew : f.name ∉ st.values.map Prod.fst := by
      rw [List.map_append, List.map_cons] at hdistinct
      rw [hname]
      exact (List.nodup_cons.1 (List.nodup_append.1 hdistinct).2.1).1
    rw [List.map_cons, List.foldlM_cons, step_written hsig hopen hf hname,
      accept_of_fits hnew hkind, hname]
    exact ih ⟨hopen.settled, hopen.inFront⟩ hdistinct htakes

theorem isUsageError_run_written (hsig : sig.IsSound) {options : List (String × String)}
    (hopen : st.IsOpen) (hst : (st.values.map Prod.fst).Nodup)
    (hknown : ∀ o ∈ options, o.1 ∈ sig.names)
    (h : ¬ (((options.reverse ++ st.values).map Prod.fst).Nodup ∧ ∀ o ∈ options, sig.Takes o)) :
    IsUsageError ((options.map written).foldlM (State.step sig) st) := by
  induction options generalizing st with
  | nil => exact absurd ⟨hst, fun o ho => nomatch ho⟩ h
  | cons o options ih =>
    obtain ⟨hmem, hknown⟩ := List.forall_mem_cons.1 hknown
    obtain ⟨f, hf, hname⟩ := List.mem_map.1 hmem
    rw [List.reverse_cons, List.append_assoc, List.singleton_append, List.forall_mem_cons] at h
    rw [List.map_cons, List.foldlM_cons, step_written hsig hopen hf hname]
    by_cases hfits : f.name ∉ st.values.map Prod.fst ∧ f.kind.fault? o.2 = none
    · rw [accept_of_fits hfits.1 hfits.2, hname]
      show IsUsageError ((options.map written).foldlM (State.step sig)
        { st with values := o :: st.values })
      refine ih ⟨hopen.settled, hopen.inFront⟩ ?_ hknown ?_
      · exact List.nodup_cons.2 ⟨hname ▸ hfits.1, hst⟩
      · rintro ⟨hdistinct, htakes⟩
        exact h ⟨hdistinct, ⟨f, hf, hname, hfits.2⟩, htakes⟩
    · exact (isUsageError_accept hfits).bind _

/-! ## The operand -/

theorem step_escape (hopen : st.IsOpen) :
    st.step sig "--" = .ok { st with onlyOperands := true } := by
  rw [step, if_neg (by simp [hopen.inFront])]
  rfl

theorem step_operand (hbehind : st.onlyOperands = true) (hsettled : st.pending = none)
    (hnone : st.operand = none) (x : String) :
    st.step sig x =
      if sig.operand then .ok { st with operand := some x } else .error .unknownArgument := by
  rw [step, if_pos hbehind, addOperand, hnone, settle_of_settled hsettled]
  cases sig.operand <;> rfl

end State

/-! ## Written arguments as a whole -/

namespace Arguments

variable {a : Arguments} {st : State} {args : List String}

theorem ofList_of_run (hrun : args.foldlM (State.step sig) .start = .ok st)
    (hsettled : st.pending = none) :
    ofList sig args =
      if (∀ name ∈ sig.required, name ∈ (⟨st.values, st.operand⟩ : Arguments).names) ∧
          ∀ need ∈ sig.needs, need.1 ∈ (⟨st.values, st.operand⟩ : Arguments).names →
            need.2 ∈ (⟨st.values, st.operand⟩ : Arguments).names
        then .ok ⟨st.values, st.operand⟩ else .error .missing := by
  have hhas (name : String) : (⟨st.values, st.operand⟩ : Arguments).has name = true ↔
      name ∈ (⟨st.values, st.operand⟩ : Arguments).names := lookup_isSome_iff
  rw [ofList, hrun]
  show (st.settle >>= fun _ => _) = _
  rw [State.settle_of_settled hsettled]
  show ite _ _ _ = _
  refine if_congr ?_ rfl rfl
  rw [Bool.and_eq_true, List.all_eq_true, List.all_eq_true]
  simp only [Bool.or_eq_true, Bool.not_eq_true', Bool.eq_false_iff, ne_eq, hhas, imp_iff_not_or]

theorem nodup_start_iff (a : Arguments) :
    ((a.values.reverse ++ State.start.values).map Prod.fst).Nodup ↔ a.names.Nodup := by
  show ((a.values.reverse ++ []).map Prod.fst).Nodup ↔ _
  rw [List.append_nil, List.map_reverse, List.nodup_reverse]
  rfl

/-- Options that are taken are all kept, and then only the operand can be one too many. -/
theorem run_toList (hsig : sig.IsSound) (hdistinct : a.names.Nodup)
    (htakes : ∀ o ∈ a.values, sig.Takes o) :
    a.toList.foldlM (State.step sig) .start =
      if a.operand.isSome = true → sig.operand = true
        then .ok ⟨a.values.reverse, none, a.operand, a.operand.isSome⟩
        else .error .unknownArgument := by
  have hoptions := State.run_written hsig ⟨rfl, rfl⟩ ((nodup_start_iff a).2 hdistinct) htakes
  have hvalues : a.values.reverse ++ State.start.values = a.values.reverse := List.append_nil _
  rw [toList, List.foldlM_append, hoptions, hvalues]
  show (a.operand.elim [] fun x => ["--", x]).foldlM (State.step sig) _ = _
  cases a.operand with
  | none => rfl
  | some x =>
    show ["--", x].foldlM (State.step sig) _ = _
    rw [List.foldlM_cons, State.step_escape ⟨rfl, rfl⟩]
    show [x].foldlM (State.step sig) _ = _
    rw [List.foldlM_cons, State.step_operand rfl rfl rfl]
    cases sig.operand <;> rfl

theorem names_reverse (a : Arguments) :
    (⟨a.values.reverse, a.operand⟩ : Arguments).names = a.names.reverse :=
  List.map_reverse

/-- **Arguments that fit are read back**, the last option first. -/
theorem ofList_toList_of_fits (hsig : sig.IsSound) (h : a.Fits sig) :
    ofList sig a.toList = .ok ⟨a.values.reverse, a.operand⟩ := by
  have hrun := run_toList hsig h.distinct h.takes
  rw [if_pos h.operand] at hrun
  rw [ofList_of_run hrun rfl, names_reverse, if_pos]
  simp only [List.mem_reverse]
  exact ⟨h.required, h.needs⟩

/-- **Arguments that do not fit are a usage error**, as long as they are options of the
signature. -/
theorem isUsageError_ofList_toList (hsig : sig.IsSound)
    (hknown : ∀ name ∈ a.names, name ∈ sig.names) (h : ¬ a.Fits sig) :
    IsUsageError (ofList sig a.toList) := by
  by_cases hoptions : a.names.Nodup ∧ ∀ o ∈ a.values, sig.Takes o
  · have hrun := run_toList hsig hoptions.1 hoptions.2
    by_cases hoperand : a.operand.isSome = true → sig.operand = true
    · rw [if_pos hoperand] at hrun
      rw [ofList_of_run hrun rfl, names_reverse, if_neg]
      · exact ⟨.missing, rfl, rfl⟩
      · simp only [List.mem_reverse]
        rintro ⟨hrequired, hneeds⟩
        exact h ⟨hoptions.1, hoptions.2, hoperand, hrequired, hneeds⟩
    · rw [if_neg hoperand] at hrun
      rw [ofList, hrun]
      exact ⟨.unknownArgument, rfl, rfl⟩
  · have hrun : IsUsageError ((a.values.map written).foldlM (State.step sig) .start) := by
      refine State.isUsageError_run_written hsig ⟨rfl, rfl⟩ List.nodup_nil
        (fun o ho => hknown o.1 (List.mem_map_of_mem ho)) ?_
      rwa [nodup_start_iff]
    rw [ofList, toList, List.foldlM_append]
    exact (hrun.bind _).bind _

end Arguments

end NotebookGoto.CommandLine
