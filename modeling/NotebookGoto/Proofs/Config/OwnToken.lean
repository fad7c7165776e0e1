import NotebookGoto.Proofs.Config.Layers
import NotebookGoto.Proofs.Program.Announcement

/-!
# Entering with one's own token

A server lets its own token in unless that token is the empty text. The environment never gives the
empty text, and a token that is made up is never empty, so it can only come from a flag or from the
file, which are taken as they are.

* **`token_eq_empty_iff`**: when the layers leave a server with the empty text.
* **`own_token_let_in_iff`**: the server that is started with it.
-/

namespace NotebookGoto

open CommandLine Http

theorem Http.Token.verify_secret_iff {t : Token} : t.verify t.secret = true ↔ t.secret ≠ "" := by
  rw [verify_iff]
  exact and_iff_right rfl

namespace Config

/-- Whether the token is set to nothing and counts: by a flag, or by the file where neither a flag
nor the environment gives one. -/
def Emptied (flags : Overrides) (w : Surroundings) (file : Overrides) : Prop :=
  flags.token = some "" ∨
    flags.token = none ∧ environment w .token = none ∧ file.token = some ""

instance (flags : Overrides) (w : Surroundings) (file : Overrides) :
    Decidable (Emptied flags w file) := by
  unfold Emptied
  infer_instance

variable {c : Config} {w : Surroundings} {path fresh : String} {flags file : Overrides}

theorem environment_token_ne_empty (w : Surroundings) : environment w .token ≠ some "" := by
  intro h
  have hkept := (Option.filter_eq_some_iff.1 h).2
  exact absurd rfl (of_decide_eq_true hkept)

theorem exists_gives_of_load (h : load w path = .ok c) :
    ∃ file, Gives w path file ∧ c = default.override file := by
  cases hread : w.readFile path with
  | error fault =>
    cases hentry : w.entry path with
    | error fault =>
      rw [load, hentry] at h
      exact ⟨_, .absent fault hentry, (Except.ok.inj h).symm⟩
    | ok entry =>
      rw [load_of_unreadable hentry hread] at h
      cases h
  | ok s =>
    rw [load_of_readFile hread] at h
    cases htext : ofText? s.toList with
    | none =>
      rw [htext] at h
      cases h
    | some c' =>
      rw [htext] at h
      obtain ⟨d, file, hd, hfile, hdefault⟩ := ofText?_eq_some_iff.1 htext
      exact ⟨file, .file s d file hread hd hfile, (Except.ok.inj h).symm.trans hdefault⟩

/-- **Where an empty token comes from.** -/
theorem token_eq_empty_iff (hfile : Gives w path file) (hfresh : fresh ≠ "")
    (h : gather w path flags = .ok c) : (c.ensureToken fresh).1 = "" ↔ Emptied flags w file := by
  obtain ⟨c', hc', hget⟩ := get?_gather hfile flags
  obtain rfl := Except.ok.inj (h.symm.trans hc')
  have htoken : c.token = flags.token.or ((environment w .token).or file.token) := by
    show c.get? .token = _
    rw [hget, first_cons, first_cons, first_cons, first_cons, first_nil]
    show flags.token.or ((environment w .token).or (file.token.or none)) = _
    rw [Option.or_none]
  have hensure : (c.ensureToken fresh).1 = "" ↔ c.token = some "" := by
    rw [ensureToken]
    cases c.token with
    | none => simp [hfresh]
    | some t => simp
  rw [hensure, htoken, Emptied]
  have henvironment := environment_token_ne_empty w
  cases flags.token with
  | some t => simp
  | none =>
    cases hset : environment w .token with
    | some t =>
      rw [hset] at henvironment
      simpa using henvironment
    | none => simp

/-- A server that is started has the token of its configuration, or the one that was made up. -/
theorem secret_of_server {command : ServerCommand} {ready : Program.Ready}
    (hconfig : command.gather w = .ok c) (h : Program.server w fresh command = .ok ready) :
    ready.site.token.secret = (c.ensureToken fresh).1 := by
  rw [Program.server, hconfig] at h
  have hready : Program.plain (Program.Ready.ofConfig c fresh) = .ok ready := h
  cases hcheck : c.check with
  | error e =>
    rw [Program.Ready.ofConfig, hcheck] at hready
    cases hready
  | ok u =>
    obtain ⟨address, -, hconfigured⟩ := Program.Ready.ofConfig_of_check hcheck fresh
    rw [hconfigured] at hready
    obtain rfl := Except.ok.inj hready
    rfl

/-- **A server lets its own token in** unless a flag, or else the file, has set it to nothing. Then
what it has for its token is the empty text, and it refuses every request at its endpoints. -/
theorem own_token_let_in_iff (command : ServerCommand) (w : Surroundings) (fresh : String)
    (config : Config) (hfresh : Token.IsFresh fresh) (hconfig : command.gather w = .ok config) :
    ∃ file, Gives w command.config file ∧
      ((config.ensureToken fresh).1 ≠ "" ∧
          (⟨(config.ensureToken fresh).1⟩ : Token).verify (config.ensureToken fresh).1 = true ↔
        ¬ Emptied command.overrides w file) ∧
      (Emptied command.overrides w file → (config.ensureToken fresh).1 = "" ∧
        ∀ ready, Program.server w fresh command = .ok ready →
          ∀ request e, ready.site.endpoint? request.target.path = some e →
            ready.site.respond request = .refusal e request.method) := by
  have hload := gather_eq w command.config command.overrides
  have hgathered : gather w command.config command.overrides = .ok config := hconfig
  cases hc : load w command.config with
  | error e =>
    rw [hload, hc] at hgathered
    cases hgathered
  | ok c =>
    obtain ⟨file, hfile, -⟩ := exists_gives_of_load hc
    have hempty := token_eq_empty_iff hfile hfresh.ne_empty hgathered
    refine ⟨file, hfile, ?_,
      fun hemptied => ⟨hempty.2 hemptied, fun ready hready request e he => ?_⟩⟩
    · rw [← hempty, Token.verify_secret_iff]
      exact and_self_iff
    · have hsecret : ready.site.token.secret = "" :=
        (secret_of_server hconfig hready).trans (hempty.2 hemptied)
      exact Site.respond_eq_refusal he fun hpresents => hpresents.2 hsecret

/-- A file that sets the token to nothing, and an environment with a token. -/
def quiet (token : String) : Surroundings where
  entry path :=
    if path = "a.toml" then .ok (.file (Text.Utf8.encode "token = ''".toList)) else .error .notFound
  input := []
  getVariable := fun name => if name = "JUMPDEF_TOKEN" then some token else none

/-- A token from the environment goes before the empty one from the file, and a client gets in with
it. -/
theorem own_token_of_quiet :
    (⟨"a.toml", none, none, none, none⟩ : ServerCommand).gather (quiet "v") =
        .ok { default with token := some "v" } ∧
      (⟨"v"⟩ : Token).verify "v" = true ∧
      ∃ file, Gives (quiet "v") "a.toml" file ∧
        ¬ Emptied ⟨none, none, none, none⟩ (quiet "v") file := by
  have hconfig : (⟨"a.toml", none, none, none, none⟩ : ServerCommand).gather (quiet "v") =
      .ok { default with token := some "v" } := by decide +kernel
  obtain ⟨file, hfile, hiff, -⟩ :=
    own_token_let_in_iff _ _ Program.Ready.madeUp _ (by decide) hconfig
  have hverify : (⟨"v"⟩ : Token).verify "v" = true := by decide
  refine ⟨hconfig, hverify, file, hfile, hiff.1 ⟨?_, hverify⟩⟩
  show "v" ≠ ""
  decide

/-- A configuration in which the token is set to nothing. -/
def tokenless : Config :=
  ⟨"127.0.0.1:8888", "/", defaultExtensionName, some ""⟩

/-- **A server can be started that nobody can enter.** A flag or a file that sets the token to
nothing is taken at its word, other than a variable that does, and no token is made up. -/
theorem empty_token_locks_out :
    ServerCommand.ofList ["--token="] = .ok ⟨"jumpdef.toml", none, none, none, some ""⟩ ∧
      (⟨"jumpdef.toml", none, none, none, some ""⟩ : ServerCommand).gather (quiet "v") =
        .ok tokenless ∧
      (⟨"a.toml", none, none, none, none⟩ : ServerCommand).gather (quiet "") = .ok tokenless ∧
      (⟨"jumpdef.toml", none, none, none, none⟩ : ServerCommand).gather (quiet "") = .ok default ∧
      tokenless.ensureToken Program.Ready.madeUp = ("", false) ∧
      (∀ presented, (⟨""⟩ : Token).verify presented = false) ∧
      ∃ ready, Program.server (quiet "v") Program.Ready.madeUp
          ⟨"jumpdef.toml", none, none, none, some ""⟩ = .ok ready ∧
        ∀ request e, ready.site.endpoint? request.target.path = some e →
          ready.site.respond request = .refusal e request.method := by
  have hverify (presented : String) : (⟨""⟩ : Token).verify presented = false := by
    rw [Bool.eq_false_iff]
    exact fun h => (Token.verify_iff.1 h).2 rfl
  have hflag : (⟨"jumpdef.toml", none, none, none, some ""⟩ : ServerCommand).gather (quiet "v") =
      .ok tokenless := rfl
  have hcheck : tokenless.check = .ok () := by decide +kernel
  obtain ⟨address, -, hready⟩ := Program.Ready.ofConfig_of_check hcheck Program.Ready.madeUp
  have hserver : Program.server (quiet "v") Program.Ready.madeUp
      ⟨"jumpdef.toml", none, none, none, some ""⟩ =
        .ok ⟨address, tokenless.site ⟨""⟩ Template.jedi, false⟩ := by
    rw [Program.server, hflag]
    show Program.plain (Program.Ready.ofConfig tokenless Program.Ready.madeUp) = _
    rw [hready]
    rfl
  refine ⟨by decide, hflag, by decide +kernel, rfl, rfl, hverify, _, hserver,
    fun request e he => ?_⟩
  exact Site.respond_eq_refusal he fun hpresents => hpresents.2 rfl

end Config

end NotebookGoto
