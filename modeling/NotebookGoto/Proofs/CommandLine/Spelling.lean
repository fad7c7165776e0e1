import NotebookGoto.CommandLine.Command
import NotebookGoto.Proofs.CommandLine.Written

/-!
# Spelling commands

A command is spelled by its name and by the options and the operand that say what it is to do,
written as `Arguments.toList` has them. The options may stand in any order, and one that would only
say what holds anyway may be left out (`Command.Spells`, `ServerCommand.Spells`).

* **`Filling.ofList_eq_ok`**: options that fill a signature, some of them left out, are read and
  found again.
* **`spelled_commands_are_read`**: a command is read back from each of its spellings; an option that
  comes twice is a usage error, and so is one without another that it needs.
-/

namespace NotebookGoto.CommandLine

open Text

/-! ## Options that may be left out -/

/-- The options among some, each with a value or without, that have one. -/
def present (options : List (String × Option String)) : List (String × String) :=
  options.filterMap fun o => o.2.map (o.1, ·)

section Present

variable {options : List (String × Option String)} {name v : String} {value : Option String}

theorem mem_present : (name, v) ∈ present options ↔ (name, some v) ∈ options := by
  rw [present, List.mem_filterMap]
  constructor
  · rintro ⟨⟨other, value⟩, hmem, h⟩
    obtain ⟨w, rfl, hpair⟩ := Option.map_eq_some_iff.1 h
    obtain ⟨rfl, rfl⟩ := Prod.mk.inj hpair
    exact hmem
  · intro hmem
    exact ⟨_, hmem, rfl⟩

theorem names_present_sublist :
    ((present options).map Prod.fst).Sublist (options.map Prod.fst) := by
  induction options with
  | nil => exact .slnil
  | cons o options ih =>
    obtain ⟨name, value⟩ := o
    cases value with
    | none => exact ih.cons name
    | some v => exact ih.cons_cons name

theorem lookup_present (hdistinct : (options.map Prod.fst).Nodup) (h : (name, value) ∈ options) :
    (present options).lookup name = value := by
  ext v
  constructor
  · intro hv
    have hgiven : options.lookup name = some value := lookup_of_mem hdistinct h
    have hfound : options.lookup name = some (some v) :=
      lookup_of_mem hdistinct (mem_present.1 (mem_of_lookup hv))
    exact Option.some.inj (hgiven.symm.trans hfound)
  · rintro rfl
    exact lookup_of_mem (names_present_sublist.nodup hdistinct) (mem_present.2 h)

end Present

/-! ## Options for a signature -/

/-- Whether a value stands under the name of an option and, if it is there, is of the option's
kind. -/
structure Flag.Holds (f : Flag) (o : String × Option String) : Prop where
  name : o.1 = f.name
  kind : ∀ v, o.2 = some v → f.kind.fault? v = none

/-- Whether options, each with a value or without, are those of a signature, and the ones that have
a value are what the signature asks for. -/
structure Filling (sig : Signature) (options : List (String × Option String)) : Prop where
  holds : List.Forall₂ (fun f o => f.Holds o) sig.flags options
  required : ∀ name ∈ sig.required, ∃ v, (name, some v) ∈ options
  needs : ∀ need ∈ sig.needs, (∃ v, (need.1, some v) ∈ options) → ∃ v, (need.2, some v) ∈ options

section Filling

variable {sig : Signature} {options : List (String × Option String)}
  {chosen : List (String × String)} {operand : Option String}

theorem names_eq_of_holds {flags : List Flag}
    (h : List.Forall₂ (fun f o => f.Holds o) flags options) :
    options.map Prod.fst = flags.map (·.name) := by
  induction h with
  | nil => rfl
  | cons ho _ ih => rw [List.map_cons, List.map_cons, ho.name, ih]

theorem exists_flag_of_holds {flags : List Flag}
    (h : List.Forall₂ (fun f o => f.Holds o) flags options) {o : String × Option String}
    (ho : o ∈ options) : ∃ f ∈ flags, f.Holds o := by
  induction h with
  | nil => cases ho
  | @cons f o' flags options hf _ ih =>
    rcases List.mem_cons.1 ho with rfl | ho
    · exact ⟨f, List.mem_cons_self, hf⟩
    · obtain ⟨g, hg, hholds⟩ := ih ho
      exact ⟨g, List.mem_cons_of_mem f hg, hholds⟩

theorem Filling.distinct (hsig : sig.IsSound) (hfill : Filling sig options) :
    (options.map Prod.fst).Nodup := by
  rw [names_eq_of_holds hfill.holds]
  exact hsig.distinct

theorem Filling.fits (hsig : sig.IsSound) (hfill : Filling sig options)
    (h : chosen.Perm (present options)) (hoperand : operand.isSome = true → sig.operand = true) :
    (⟨chosen, operand⟩ : Arguments).Fits sig := by
  have hnames (name : String) :
      name ∈ (⟨chosen, operand⟩ : Arguments).names ↔ ∃ v, (name, some v) ∈ options := by
    rw [Arguments.names, (h.map Prod.fst).mem_iff, List.mem_map]
    constructor
    · rintro ⟨⟨name, v⟩, hv, rfl⟩
      exact ⟨v, mem_present.1 hv⟩
    · rintro ⟨v, hv⟩
      exact ⟨(name, v), mem_present.2 hv, rfl⟩
  refine ⟨?_, fun o ho => ?_, hoperand, fun name hname => ?_, fun need hneed hone => ?_⟩
  · exact (h.map Prod.fst).nodup_iff.2 (names_present_sublist.nodup (hfill.distinct hsig))
  · obtain ⟨f, hf, hholds⟩ := exists_flag_of_holds hfill.holds (mem_present.1 (h.mem_iff.1 ho))
    exact ⟨f, hf, hholds.name.symm, hholds.kind o.2 rfl⟩
  · exact (hnames name).2 (hfill.required name hname)
  · exact (hnames need.2).2 (hfill.needs need hneed ((hnames need.1).1 hone))

/-- **Options that fill a signature are read**, in whatever order those with a value are written,
and each is found with the value that it has. -/
theorem Filling.ofList_eq_ok (hsig : sig.IsSound) (hfill : Filling sig options)
    (h : chosen.Perm (present options)) (operand : Option String)
    (hoperand : operand.isSome = true → sig.operand = true) :
    ∃ a, Arguments.ofList sig (Arguments.toList ⟨chosen, operand⟩) = .ok a ∧ a.operand = operand ∧
      ∀ o ∈ options, a.value? o.1 = o.2 := by
  refine ⟨_, Arguments.ofList_toList_of_fits hsig (hfill.fits hsig h hoperand), rfl, fun o ho => ?_⟩
  have hdistinct := hfill.distinct hsig
  have hperm : (present options).Perm chosen.reverse := h.symm.trans chosen.reverse_perm.symm
  rw [Arguments.value?, ← lookup_eq_of_perm (names_present_sublist.nodup hdistinct) hperm]
  exact lookup_present hdistinct ho

end Filling

/-! ## Spellings -/

/-- Whether some arguments of the client spell a command. Where an option or the operand is left
out, the command has what it says by default. -/
inductive Command.Spells : List String → Command → Prop where
  | template : Spells ["template"] .template
  | render (source : Option String) (line : UInt32) (column : Option UInt32) (path : String)
      (options : List (String × String))
      (h : options.Perm (present [("source", source), ("line", some (Decimal.text line.toNat)),
        ("column", column.map fun c => Decimal.text c.toNat), ("path", some path)])) :
    Spells ("render" :: Arguments.toList ⟨options, none⟩)
      (.render (source.getD "-") line (column.getD 0) path)
  | parseResult (input cwd notebook : Option String) (options : List (String × String))
      (hcwd : cwd.isSome = true → notebook.isSome = true)
      (h : options.Perm (present [("kernel-cwd", cwd), ("notebook", notebook)])) :
    Spells ("parse-result" :: Arguments.toList ⟨options, input⟩)
      (.parseResult (input.getD "-") cwd notebook)
  | check (url token extensionName : Option String) (options : List (String × String))
      (h : options.Perm
        (present [("url", url), ("token", token), ("extension-name", extensionName)])) :
    Spells ("check" :: Arguments.toList ⟨options, none⟩)
      (.check (url.getD "http://127.0.0.1:8888/") token
        (extensionName.getD Config.defaultExtensionName))

/-- Whether some arguments of the server spell what it is to do. A configuration file that is given
has a name. -/
inductive ServerCommand.Spells : List String → ServerCommand → Prop where
  | options (config : Option String) (overrides : Config.Overrides)
      (options : List (String × String)) (hconfig : config ≠ some "")
      (h : options.Perm (present [("config", config), ("bind", overrides.bind),
        ("base-url", overrides.baseUrl), ("extension-name", overrides.extensionName),
        ("token", overrides.token)])) :
    Spells (Arguments.toList ⟨options, none⟩) ⟨config.getD Config.defaultFile, overrides⟩

theorem Command.exists_spells_iff (c : Command) :
    (∃ args, Spells args c) ↔ ∀ input cwd, c ≠ .parseResult input (some cwd) none := by
  constructor
  · rintro ⟨args, h⟩ input cwd rfl
    cases h with
    | parseResult _ _ _ _ hcwd _ => cases hcwd rfl
  · intro h
    cases c with
    | template => exact ⟨_, .template⟩
    | render source line column path =>
      exact ⟨_, .render (some source) line (some column) path _ (.refl _)⟩
    | parseResult input cwd notebook =>
      refine ⟨_, .parseResult (some input) cwd notebook _ (fun hcwd => ?_) (.refl _)⟩
      obtain ⟨d, rfl⟩ := Option.isSome_iff_exists.1 hcwd
      cases notebook with
      | none => exact absurd rfl (h input d)
      | some n => rfl
    | check url token extensionName =>
      exact ⟨_, .check (some url) token (some extensionName) _ (.refl _)⟩

theorem ServerCommand.exists_spells_iff (c : ServerCommand) :
    (∃ args, Spells args c) ↔ c.config ≠ "" := by
  constructor
  · rintro ⟨args, h⟩
    cases h with
    | options config overrides options hconfig h =>
      cases config with
      | none =>
        show Config.defaultFile ≠ ""
        decide
      | some path => exact fun e => hconfig (congrArg some e)
  · intro h
    exact ⟨_, .options (some c.config) c.overrides _ (fun e => h (Option.some.inj e)) (.refl _)⟩

/-! ## Reading a spelling -/

theorem word?_ofList {ds : List Char} (hne : ds ≠ []) (hdigits : ∀ c ∈ ds, c.isDigit = true) :
    word? (String.ofList ds) = Decimal.word? (Decimal.value ds) := by
  have hall : (ds.isEmpty || !ds.all Char.isDigit) = false := by
    simpa [hne] using hdigits
  rw [word?, String.toList_ofList]
  split
  next negative digits hparts =>
    split at hparts
    next => exact absurd (hdigits '+' List.mem_cons_self) (by decide)
    next => exact absurd (hdigits '-' List.mem_cons_self) (by decide)
    next =>
      obtain ⟨rfl, rfl⟩ := Prod.mk.inj hparts
      rw [hall]
      rfl

theorem word?_text (n : UInt32) : word? (Decimal.text n.toNat) = some n := by
  have hne : Decimal.digits n.toNat ≠ [] := Nat.toDigits_ne_nil
  have hdigits : ∀ c ∈ Decimal.digits n.toNat, c.isDigit = true := fun c hc =>
    Nat.isDigit_of_mem_toDigits (b := 10) (by decide) (by decide) hc
  rw [Decimal.text, word?_ofList hne hdigits, Decimal.value_digits, Decimal.word?_toNat]

theorem fault?_text (n : UInt32) : ValueKind.word.fault? (Decimal.text n.toNat) = none := by
  rw [ValueKind.fault?, word?_text]
  rfl

theorem filling_render (source : Option String) (line : UInt32) (column : Option UInt32)
    (path : String) :
    Filling CommandName.render.signature
      [("source", source), ("line", some (Decimal.text line.toNat)),
        ("column", column.map fun c => Decimal.text c.toNat), ("path", some path)] := by
  refine ⟨?_, by simp [CommandName.signature], by simp [CommandName.signature]⟩
  refine .cons ⟨rfl, fun _ _ => rfl⟩ (.cons ⟨rfl, fun v hv => ?_⟩ (.cons ⟨rfl, fun v hv => ?_⟩
    (.cons ⟨rfl, fun _ _ => rfl⟩ .nil)))
  · obtain rfl := Option.some.inj hv
    exact fault?_text line
  · obtain ⟨c, -, rfl⟩ := Option.map_eq_some_iff.1 hv
    exact fault?_text c

theorem filling_parseResult {cwd notebook : Option String}
    (h : cwd.isSome = true → notebook.isSome = true) :
    Filling CommandName.parseResult.signature [("kernel-cwd", cwd), ("notebook", notebook)] := by
  refine ⟨.cons ⟨rfl, fun _ _ => rfl⟩ (.cons ⟨rfl, fun _ _ => rfl⟩ .nil),
    by simp [CommandName.signature], fun need hneed => ?_⟩
  obtain rfl := List.mem_singleton.1 hneed
  rintro ⟨v, hv⟩
  have hcwd : cwd = some v := by simpa [eq_comm] using hv
  obtain ⟨w, rfl⟩ := Option.isSome_iff_exists.1 (h (by rw [hcwd]; rfl))
  exact ⟨w, by simp⟩

theorem filling_check (url token extensionName : Option String) :
    Filling CommandName.check.signature
      [("url", url), ("token", token), ("extension-name", extensionName)] :=
  ⟨.cons ⟨rfl, fun _ _ => rfl⟩ (.cons ⟨rfl, fun _ _ => rfl⟩ (.cons ⟨rfl, fun _ _ => rfl⟩ .nil)),
    by simp [CommandName.signature], by simp [CommandName.signature]⟩

theorem filling_server {config : Option String} (h : config ≠ some "") (o : Config.Overrides) :
    Filling ServerCommand.signature [("config", config), ("bind", o.bind), ("base-url", o.baseUrl),
      ("extension-name", o.extensionName), ("token", o.token)] := by
  have hconfig (v : String) (hv : config = some v) : ValueKind.nonempty.fault? v = none := by
    have hne : v ≠ "" := by
      rintro rfl
      exact h hv
    rw [ValueKind.fault?, if_neg hne]
  exact ⟨.cons ⟨rfl, hconfig⟩ (.cons ⟨rfl, fun _ _ => rfl⟩ (.cons ⟨rfl, fun _ _ => rfl⟩
    (.cons ⟨rfl, fun _ _ => rfl⟩ (.cons ⟨rfl, fun _ _ => rfl⟩ .nil)))),
    by simp [ServerCommand.signature], by simp [ServerCommand.signature]⟩

theorem CommandName.isSound_signature (name : CommandName) : name.signature.IsSound := by
  cases name <;> exact ⟨by decide, by decide⟩

theorem ServerCommand.isSound_signature : signature.IsSound :=
  ⟨by decide, by decide⟩

theorem Command.ofList_cons (name : CommandName) (args : List String) :
    Command.ofList (name.text :: args) =
      (Arguments.ofList name.signature args).map name.command := by
  cases name <;> rfl

theorem Command.Spells.ofList_eq {args : List String} {c : Command} (h : Command.Spells args c) :
    Command.ofList args = .ok c := by
  cases h with
  | template => rfl
  | render source line column path options h =>
    obtain ⟨a, ha, -, hvalues⟩ := (filling_render source line column path).ofList_eq_ok
      (CommandName.isSound_signature _) h none (by simp)
    simp only [List.forall_mem_cons] at hvalues
    obtain ⟨hsource, hline, hcolumn, hpath, -⟩ := hvalues
    refine (Command.ofList_cons .render _).trans ?_
    rw [ha]
    show Except.ok (Command.render ((a.value? "source").getD "-")
      (((a.value? "line").bind word?).getD 0) (((a.value? "column").bind word?).getD 0)
      ((a.value? "path").getD "")) = _
    rw [hsource, hline, hcolumn, hpath, Option.bind_some, word?_text]
    cases column with
    | none => rfl
    | some c =>
      rw [Option.map_some, Option.bind_some, word?_text]
      rfl
  | parseResult input cwd notebook options hcwd h =>
    obtain ⟨a, ha, hinput, hvalues⟩ := (filling_parseResult hcwd).ofList_eq_ok
      (CommandName.isSound_signature _) h input fun _ => rfl
    simp only [List.forall_mem_cons] at hvalues
    obtain ⟨hvalue, hnotebook, -⟩ := hvalues
    refine (Command.ofList_cons .parseResult _).trans ?_
    rw [ha]
    show Except.ok (Command.parseResult (a.operand.getD "-") (a.value? "kernel-cwd")
      (a.value? "notebook")) = _
    rw [hinput, hvalue, hnotebook]
  | check url token extensionName options h =>
    obtain ⟨a, ha, -, hvalues⟩ := (filling_check url token extensionName).ofList_eq_ok
      (CommandName.isSound_signature _) h none (by simp)
    simp only [List.forall_mem_cons] at hvalues
    obtain ⟨hurl, htoken, hextensionName, -⟩ := hvalues
    refine (Command.ofList_cons .check _).trans ?_
    rw [ha]
    show Except.ok (Command.check ((a.value? "url").getD "http://127.0.0.1:8888/")
      (a.value? "token") ((a.value? "extension-name").getD Config.defaultExtensionName)) = _
    rw [hurl, htoken, hextensionName]

theorem ServerCommand.Spells.ofList_eq {args : List String} {c : ServerCommand}
    (h : ServerCommand.Spells args c) : ServerCommand.ofList args = .ok c := by
  cases h with
  | options config overrides options hconfig h =>
    obtain ⟨a, ha, -, hvalues⟩ := (filling_server hconfig overrides).ofList_eq_ok
      ServerCommand.isSound_signature h none (by simp)
    simp only [List.forall_mem_cons] at hvalues
    obtain ⟨hpath, hbind, hbaseUrl, hextensionName, htoken, -⟩ := hvalues
    rw [ServerCommand.ofList, ha]
    show Except.ok (ServerCommand.mk ((a.value? "config").getD Config.defaultFile)
      ⟨a.value? "bind", a.value? "base-url", a.value? "extension-name", a.value? "token"⟩) = _
    rw [hpath, hbind, hbaseUrl, hextensionName, htoken]

/-! ## Usage errors -/

theorem Command.isUsageError (name : CommandName) {a : Arguments}
    (hknown : ∀ n ∈ a.names, n ∈ name.signature.names) (h : ¬ a.Fits name.signature) :
    IsUsageError (Command.ofList (name.text :: a.toList)) := by
  rw [Command.ofList_cons]
  exact (Arguments.isUsageError_ofList_toList name.isSound_signature hknown h).map _

theorem ServerCommand.isUsageError {a : Arguments} (hknown : ∀ n ∈ a.names, n ∈ signature.names)
    (h : ¬ a.Fits signature) : IsUsageError (ServerCommand.ofList a.toList) :=
  (Arguments.isUsageError_ofList_toList isSound_signature hknown h).bind _

/-- **Command lines denote what was written.** A command is read back from each of its spellings,
and there are spellings for every command, a working directory without a notebook and a
configuration file without a name excepted. An option that comes twice is a usage error, and so is
the working directory without the notebook, whatever else is there. -/
theorem spelled_commands_are_read :
    (∀ c : Command,
      ((∃ args, Command.Spells args c) ↔ ∀ input cwd, c ≠ .parseResult input (some cwd) none) ∧
      ∀ args, Command.Spells args c → Command.ofList args = .ok c) ∧
    (∀ c : ServerCommand, ((∃ args, ServerCommand.Spells args c) ↔ c.config ≠ "") ∧
      ∀ args, ServerCommand.Spells args c → ServerCommand.ofList args = .ok c) ∧
    (∀ (name : CommandName) (a : Arguments), (∀ n ∈ a.names, n ∈ name.signature.names) →
      ¬ a.names.Nodup → IsUsageError (Command.ofList (name.text :: a.toList))) ∧
    (∀ a : Arguments, (∀ n ∈ a.names, n ∈ ServerCommand.signature.names) →
      ¬ a.names.Nodup → IsUsageError (ServerCommand.ofList a.toList)) ∧
    (∀ a : Arguments, (∀ n ∈ a.names, n ∈ CommandName.parseResult.signature.names) →
      "kernel-cwd" ∈ a.names → "notebook" ∉ a.names →
        IsUsageError (Command.ofList ("parse-result" :: a.toList))) := by
  refine ⟨fun c => ⟨c.exists_spells_iff, fun _ h => h.ofList_eq⟩,
    fun c => ⟨c.exists_spells_iff, fun _ h => h.ofList_eq⟩, fun name a hknown hrepeated => ?_,
    fun a hknown hrepeated => ?_, fun a hknown hcwd hnotebook => ?_⟩
  · exact Command.isUsageError name hknown fun hfits => hrepeated hfits.distinct
  · exact ServerCommand.isUsageError hknown fun hfits => hrepeated hfits.distinct
  · refine Command.isUsageError .parseResult hknown fun hfits => hnotebook ?_
    exact hfits.needs ("kernel-cwd", "notebook") List.mem_cons_self hcwd

/-- Values that look like options or hold the mark that ends a name, and errors among them. -/
theorem spelled_hostile_values :
    Command.ofList ["render", "--path=--", "--line=4294967295", "--source="] =
        .ok (.render "" 4294967295 0 "--") ∧
      Command.ofList ["parse-result", "--notebook=", "--kernel-cwd=-h", "--", "--notebook=n"] =
        .ok (.parseResult "--notebook=n" (some "-h") (some "")) ∧
      ServerCommand.ofList ["--token=a=b", "--config=-"] = .ok ⟨"-", none, none, none, some "a=b"⟩ ∧
      IsUsageError (Command.ofList ["check", "--token=t", "--url=", "--token=t"]) ∧
      IsUsageError (ServerCommand.ofList ["--config=", "--bind=", "--bind=a"]) ∧
      IsUsageError (Command.ofList ["parse-result", "--kernel-cwd=", "--", ""]) := by
  obtain ⟨hread, hreadServer, hrepeated, hrepeatedServer, hcwd⟩ := spelled_commands_are_read
  refine ⟨?_, ?_, ?_, ?_, ?_, ?_⟩
  · exact (hread _).2 _ (.render (some "") 4294967295 none "--"
      [("path", "--"), ("line", "4294967295"), ("source", "")] (by decide))
  · exact (hread _).2 _ (.parseResult (some "--notebook=n") (some "-h") (some "")
      [("notebook", ""), ("kernel-cwd", "-h")] (by decide) (by decide))
  · exact (hreadServer _).2 _ (.options (some "-") ⟨none, none, none, some "a=b"⟩
      [("token", "a=b"), ("config", "-")] (by decide) (by decide))
  · exact hrepeated .check ⟨[("token", "t"), ("url", ""), ("token", "t")], none⟩ (by decide)
      (by decide)
  · exact hrepeatedServer ⟨[("config", ""), ("bind", ""), ("bind", "a")], none⟩ (by decide)
      (by decide)
  · exact hcwd ⟨[("kernel-cwd", "")], some ""⟩ (by decide) (by decide) (by decide)

end NotebookGoto.CommandLine
