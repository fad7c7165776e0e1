import Mathlib.Data.List.Basic
import NotebookGoto.CommandLine.Command

/-!
# The layers of a configuration

A setting can be given by a flag, by the environment or by the configuration file, and has a
default. Each of these sources is a function from keys to values, a `Layer`. What they give together
is at each key what the first of them gives that gives anything there (`first`), whatever stands at
the other keys.

* **`ofText?_eq_some_iff`**: what a file must say to give anything.
* **`get?_gather`**: the four sources together.
* **`gather_by_layers`**: when there is a configuration, what it is and what else can happen.
-/

namespace NotebookGoto

/-- The settings, by their place in a configuration. -/
inductive Config.Key where
  | bind | baseUrl | extensionName | token
  deriving DecidableEq, Repr

namespace Config

namespace Key

/-- The key of a setting in a file. -/
def inFile : Key → String
  | .bind => "bind"
  | .baseUrl => "base_url"
  | .extensionName => "extension_name"
  | .token => "token"

/-- The variable that holds a setting. -/
def inEnvironment : Key → String
  | .bind => "JUMPDEF_BIND"
  | .baseUrl => "JUMPDEF_BASE_URL"
  | .extensionName => "JUMPDEF_EXTENSION_NAME"
  | .token => "JUMPDEF_TOKEN"

/-- The option that gives a setting. -/
def option : Key → String
  | .bind => "bind"
  | .baseUrl => "base-url"
  | .extensionName => "extension-name"
  | .token => "token"

end Key

/-! ## Layers -/

/-- A source of settings. -/
abbrev Layer := Key → Option String

/-- What the first of some layers gives that gives anything at a key. -/
def first (layers : List Layer) : Layer := fun k => layers.findSome? (· k)

/-- The settings of a configuration. Only the token may be absent. -/
def get? (c : Config) : Layer
  | .bind => some c.bind
  | .baseUrl => some c.baseUrl
  | .extensionName => some c.extensionName
  | .token => c.token

/-- The settings that overrides give. -/
def Overrides.get? (o : Overrides) : Layer
  | .bind => o.bind
  | .baseUrl => o.baseUrl
  | .extensionName => o.extensionName
  | .token => o.token

/-- The settings that an environment gives. A token that is set to nothing is not given. -/
def environment (w : Surroundings) : Layer
  | .token => (w.getVariable Key.token.inEnvironment).filter (· ≠ "")
  | k => w.getVariable k.inEnvironment

variable {c c' : Config} {o o' : Overrides} {w : Surroundings} {k : Key}

theorem ext_get? (h : ∀ k, c.get? k = c'.get? k) : c = c' := by
  obtain ⟨bind, baseUrl, extensionName, token⟩ := c
  obtain rfl : bind = c'.bind := Option.some.inj (h .bind)
  obtain rfl : baseUrl = c'.baseUrl := Option.some.inj (h .baseUrl)
  obtain rfl : extensionName = c'.extensionName := Option.some.inj (h .extensionName)
  obtain rfl : token = c'.token := h .token
  rfl

theorem first_cons (layer : Layer) (layers : List Layer) (k : Key) :
    first (layer :: layers) k = (layer k).or (first layers k) := by
  rw [first, List.findSome?_cons]
  cases layer k <;> rfl

theorem first_nil (k : Key) : first [] k = none :=
  rfl

theorem get?_override (c : Config) (o : Overrides) (k : Key) :
    (c.override o).get? k = (o.get? k).or (c.get? k) := by
  obtain ⟨bind, baseUrl, extensionName, token⟩ := o
  cases k with
  | bind => cases bind <;> rfl
  | baseUrl => cases baseUrl <;> rfl
  | extensionName => cases extensionName <;> rfl
  | token => cases token <;> rfl

theorem get?_ofVariables (w : Surroundings) (k : Key) :
    (Overrides.ofVariables w.getVariable).get? k = environment w k := by
  cases k <;> rfl

/-- Overrides that have been applied change nothing when they are applied again, though others have
been applied since. -/
theorem override_again (c : Config) (o o' : Overrides) :
    (((c.override o).override o').override o).override o' = (c.override o).override o' := by
  apply ext_get?
  intro k
  simp only [get?_override]
  cases o'.get? k <;> cases o.get? k <;> rfl

/-! ## Files -/

/-- Whether a document gives some settings and no others: each key stands in it once with its text,
or not at all, and no table is opened under a key. -/
structure Holds (d : Toml.Document) (o : Overrides) : Prop where
  entries (k : Key) : d.entries.filter (·.1 = k.inFile.toList) =
    (o.get? k).toList.map fun s => (k.inFile.toList, .value (.text s.toList))
  headers : ∀ h ∈ d.headers, ∀ k : Key, h.path.head? ≠ some k.inFile.toList

theorem text?_eq_some_iff {d : Toml.Document} {key : String} {value : Option String} :
    text? d key = some value ↔ d.entries.filter (·.1 = key.toList) =
      value.toList.map fun s => (key.toList, .value (.text s.toList)) := by
  rw [text?]
  constructor
  · intro h
    split at h
    next hnone =>
      obtain rfl := Option.some.inj h
      exact hnone
    next name s hone =>
      obtain rfl := Option.some.inj h
      have hname : name = key.toList := by
        have hmem : (name, _) ∈ d.entries.filter (·.1 = key.toList) :=
          hone ▸ List.mem_singleton_self _
        exact of_decide_eq_true (List.mem_filter.1 hmem).2
      rw [hone, hname]
      simp
    next => cases h
  · intro h
    rw [h]
    cases value with
    | none => rfl
    | some s => simp

theorem any_isTaken_eq_false_iff {d : Toml.Document} :
    d.headers.any isTaken = false ↔
      ∀ h ∈ d.headers, ∀ k : Key, h.path.head? ≠ some k.inFile.toList := by
  have hkeys : keys = [Key.bind, .baseUrl, .extensionName, .token].map Key.inFile := rfl
  have hall (k : Key) : k ∈ [Key.bind, .baseUrl, .extensionName, .token] := by
    cases k <;> decide
  rw [List.any_eq_false]
  refine forall₂_congr fun h _ => ?_
  rw [Bool.not_eq_true, isTaken, hkeys, List.any_map, List.any_eq_false]
  constructor
  · intro hno k
    simpa using hno k (hall k)
  · intro hno k _
    simpa using hno k

theorem holds_iff {d : Toml.Document} :
    Holds d o ↔ d.headers.any isTaken = false ∧ ∀ k, text? d k.inFile = some (o.get? k) := by
  simp only [any_isTaken_eq_false_iff, text?_eq_some_iff]
  exact ⟨fun h => ⟨h.headers, h.entries⟩, fun h => ⟨h.2, h.1⟩⟩

/-- **What a file must say** is a document that gives some settings. They override the default. -/
theorem ofText?_eq_some_iff {s : List Char} :
    ofText? s = some c ↔
      ∃ d o, Toml.Document.ofText? s = some d ∧ Holds d o ∧ c = default.override o := by
  rw [ofText?, Option.bind_eq_bind, Option.bind_eq_some_iff]
  constructor
  · rintro ⟨d, hd, hc⟩
    split at hc
    next => cases hc
    next hheaders =>
      simp only [Option.bind_eq_bind, Option.bind_eq_some_iff] at hc
      obtain ⟨bind, hbind, baseUrl, hbaseUrl, extensionName, hextensionName, token, htoken, hc⟩ :=
        hc
      refine ⟨d, ⟨bind, baseUrl, extensionName, token⟩, hd,
        holds_iff.2 ⟨Bool.eq_false_iff.2 hheaders, fun k => ?_⟩, ?_⟩
      · cases k with
        | bind => exact hbind
        | baseUrl => exact hbaseUrl
        | extensionName => exact hextensionName
        | token => exact htoken
      · rw [← Option.some.inj hc]
        cases token <;> rfl
  · rintro ⟨d, o, hd, ho, rfl⟩
    obtain ⟨hheaders, htexts⟩ := holds_iff.1 ho
    refine ⟨d, hd, ?_⟩
    rw [hheaders, if_neg Bool.false_ne_true]
    show (text? d Key.bind.inFile).bind (fun bind =>
      (text? d Key.baseUrl.inFile).bind fun baseUrl =>
        (text? d Key.extensionName.inFile).bind fun extensionName =>
          (text? d Key.token.inFile).bind fun token => some _) = _
    rw [htexts, htexts, htexts, htexts]
    show some _ = some _
    cases htoken : o.token <;> simp [override, Overrides.get?, htoken, default]

/-- What the file at a path gives: nothing where there is none. -/
inductive Gives (w : Surroundings) (path : String) : Overrides → Prop
  | absent (fault : IoFault) (h : w.entry path = .error fault) :
    Gives w path ⟨none, none, none, none⟩
  | file (s : String) (d : Toml.Document) (o : Overrides) (hread : w.readFile path = .ok s)
      (hd : Toml.Document.ofText? s.toList = some d) (ho : Holds d o) :
    Gives w path o

theorem load_of_unreadable {path : String} {entry : FileEntry} {fault : IoFault}
    (hentry : w.entry path = .ok entry) (hread : w.readFile path = .error fault) :
    load w path = .error (.configUnreadable path fault) := by
  rw [load, hentry, hread]

/-- A file that can be read is there, and its text decides. -/
theorem load_of_readFile {path s : String} (hread : w.readFile path = .ok s) :
    load w path = (ofText? s.toList).elim (.error (.configMalformed path)) .ok := by
  cases hentry : w.entry path with
  | error fault =>
    rw [Surroundings.readFile, hentry] at hread
    cases hread
  | ok entry =>
    rw [load, hentry, hread]
    cases htext : ofText? s.toList <;> simp only [htext] <;> rfl

theorem Gives.load_eq {path : String} (h : Gives w path o) :
    load w path = .ok (default.override o) := by
  cases h with
  | absent fault hentry =>
    rw [load, hentry]
    rfl
  | file s d _ hread hd ho =>
    have htext : ofText? s.toList = some (default.override o) :=
      ofText?_eq_some_iff.2 ⟨d, o, hd, ho, rfl⟩
    rw [load_of_readFile hread, htext]
    rfl

theorem load_of_malformed {path s : String} (hread : w.readFile path = .ok s)
    (hno : ∀ d o, Toml.Document.ofText? s.toList = some d → ¬ Holds d o) :
    load w path = .error (.configMalformed path) := by
  have htext : ofText? s.toList = none := by
    rw [Option.eq_none_iff_forall_ne_some]
    intro c hc
    obtain ⟨d, o, hd, ho, -⟩ := ofText?_eq_some_iff.1 hc
    exact hno d o hd ho
  rw [load_of_readFile hread, htext]
  rfl

/-! ## All layers -/

theorem gather_eq (w : Surroundings) (path : String) (flags : Overrides) :
    gather w path flags = (load w path).map fun c =>
      (c.override (.ofVariables w.getVariable)).override flags := by
  rw [gather]
  cases load w path <;> rfl

theorem get?_gather {path : String} {file : Overrides} (h : Gives w path file) (flags : Overrides) :
    ∃ c, gather w path flags = .ok c ∧
      ∀ k, c.get? k = first [flags.get?, environment w, file.get?, default.get?] k := by
  refine ⟨_, by rw [gather_eq, h.load_eq]; rfl, fun k => ?_⟩
  simp only [get?_override, get?_ofVariables, first_cons, first_nil, Option.or_none]

/-- **A setting is what the first of four layers gives.** -/
theorem gather_by_layers (c : CommandLine.ServerCommand) (w : Surroundings) :
    (∀ file, Gives w c.config file → ∃ config, c.gather w = .ok config ∧
      (∀ k, config.get? k =
        first [c.overrides.get?, environment w, file.get?, default.get?] k) ∧
      (config.override (.ofVariables w.getVariable)).override c.overrides = config) ∧
    (∀ entry fault, w.entry c.config = .ok entry → w.readFile c.config = .error fault →
      c.gather w = .error (.configUnreadable c.config fault)) ∧
    (∀ s, w.readFile c.config = .ok s →
      (∀ d file, Toml.Document.ofText? s.toList = some d → ¬ Holds d file) →
      c.gather w = .error (.configMalformed c.config)) ∧
    ∀ args, CommandLine.ServerCommand.ofList args = .ok c →
      ∃ a, CommandLine.Arguments.ofList CommandLine.ServerCommand.signature args = .ok a ∧
        ∀ k, c.overrides.get? k = a.value? k.option := by
  have hgather := gather_eq w c.config c.overrides
  refine ⟨fun file hfile => ?_, fun entry fault hentry hread => ?_, fun s hread hno => ?_,
    fun args hargs => ?_⟩
  · obtain ⟨config, hconfig, hget⟩ := get?_gather hfile c.overrides
    refine ⟨config, hconfig, hget, ?_⟩
    rw [hgather, hfile.load_eq] at hconfig
    rw [← Except.ok.inj hconfig, override_again]
  · exact hgather.trans (by rw [load_of_unreadable hentry hread]; rfl)
  · exact hgather.trans (by rw [load_of_malformed hread hno]; rfl)
  · rw [CommandLine.ServerCommand.ofList] at hargs
    cases ha : CommandLine.Arguments.ofList CommandLine.ServerCommand.signature args with
    | error fault =>
      rw [ha] at hargs
      cases hargs
    | ok a =>
      rw [ha] at hargs
      obtain rfl := Except.ok.inj hargs
      exact ⟨a, rfl, fun k => by cases k <;> rfl⟩

/-- A file that says something about every setting but the address, one that gives the address as a
number, a directory, and an environment in which the token is set to nothing. -/
def mixed : Surroundings where
  entry path :=
    if path = "a.toml" then
      .ok (.file (Text.Utf8.encode
        "token = 'f'\nbase_url = \"/f\"\nextension_name = 'f'\nport = 1\n[log]\nbind = 'f'".toList))
    else if path = "b.toml" then .ok (.file (Text.Utf8.encode "bind = 1".toList))
    else if path = "c" then .ok .directory
    else .error .notFound
  input := []
  getVariable name :=
    [("JUMPDEF_TOKEN", ""), ("JUMPDEF_BASE_URL", "/v"), ("JUMPDEF_EXTENSION_NAME", "v")].lookup name

theorem gather_mixed :
    CommandLine.ServerCommand.ofList ["--extension-name=o", "-ca.toml"] =
        .ok ⟨"a.toml", none, none, some "o", none⟩ ∧
      (⟨"a.toml", none, none, some "o", none⟩ : CommandLine.ServerCommand).gather mixed =
        .ok ⟨"127.0.0.1:8888", "/v", "o", some "f"⟩ ∧
      (⟨"b.toml", none, none, none, none⟩ : CommandLine.ServerCommand).gather mixed =
        .error (.configMalformed "b.toml") ∧
      (⟨"c", none, none, none, none⟩ : CommandLine.ServerCommand).gather mixed =
        .error (.configUnreadable "c" .isDirectory) := by
  refine ⟨by decide, ?_, ?_, ?_⟩
  · have hread : ∃ s, mixed.readFile "a.toml" = .ok s ∧
        ofText? s.toList = some ⟨"127.0.0.1:8888", "/f", "f", some "f"⟩ :=
      ⟨_, rfl, by decide +kernel⟩
    obtain ⟨s, hread, htext⟩ := hread
    obtain ⟨d, file, hd, hfile, hdefault⟩ := ofText?_eq_some_iff.1 htext
    obtain ⟨config, hconfig, hget, -⟩ :=
      (gather_by_layers ⟨"a.toml", none, none, some "o", none⟩ mixed).1 file
        (.file s d file hread hd hfile)
    rw [hconfig]
    refine congrArg Except.ok (ext_get? fun k => ?_)
    rw [hget, first_cons, first_cons, first_cons, first_cons, first_nil, Option.or_none,
      ← get?_override, ← hdefault]
    cases k <;> rfl
  · have hread : ∃ s, mixed.readFile "b.toml" = .ok s ∧ ofText? s.toList = none :=
      ⟨_, rfl, by decide +kernel⟩
    obtain ⟨s, hread, htext⟩ := hread
    refine (gather_by_layers ⟨"b.toml", none, none, none, none⟩ mixed).2.2.1 s hread
      fun d o hd ho => ?_
    rw [ofText?_eq_some_iff.2 ⟨d, o, hd, ho, rfl⟩] at htext
    cases htext
  · exact (gather_by_layers ⟨"c", none, none, none, none⟩ mixed).2.1 .directory .isDirectory rfl rfl

end Config

end NotebookGoto
