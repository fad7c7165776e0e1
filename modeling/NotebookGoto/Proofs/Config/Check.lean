import NotebookGoto.Config.Check
import NotebookGoto.Proofs.Http.Segments

/-!
# What the check of a configuration reports

The settings are judged one after the other, each by a rule of its own (`Config.Wrong`). Each of the
three checks either passes, and then its setting is right, or complains about that setting, and then
it is wrong (`Judges`). Run in their order they report the first setting that is wrong.

* **`Config.check_cases`**: what the whole check does.
* **`Config.check_eq_ok_iff`** and **`Config.exists_check_eq_error_iff`**: read off it.
-/

namespace NotebookGoto

/-- The settings that are looked at before one. -/
def Setting.earlier : Setting → List Setting
  | .bind => []
  | .baseUrl => [.bind]
  | .extensionName => [.bind, .baseUrl]

namespace Config

open Http Text

/-! ## Rules -/

/-- Whether a segment starts with the mark of a capture or of a wildcard, or holds a brace. -/
def IsPattern (segment : List Char) : Prop :=
  segment.head? = some ':' ∨ segment.head? = some '*' ∨ '\x7b' ∈ segment ∨ '\x7d' ∈ segment

/-- What is wrong with a setting: the address is none; the base path does not start with a slash or
has a segment that is a pattern; the extension's name without the slashes around it is empty, is
more than one segment or has one that is a pattern. -/
def Wrong (c : Config) : Setting → Prop
  | .bind => SocketAddress.ofText? c.bind.toList = none
  | .baseUrl =>
    c.baseUrl.toList.head? ≠ some '/' ∨ ∃ segment ∈ c.baseUrl.toList.splitOn '/', IsPattern segment
  | .extensionName =>
    Route.trimSlashes c.extensionName.toList = [] ∨ '/' ∈ Route.trimSlashes c.extensionName.toList ∨
      ∃ segment ∈ (Route.trimSlashes c.extensionName.toList).splitOn '/', IsPattern segment

/-- Whether a setting is wrong and none that is looked at before it is. -/
def FirstWrong (c : Config) (key : Setting) : Prop :=
  c.Wrong key ∧ ∀ other ∈ key.earlier, ¬ c.Wrong other

theorem isLiteral_iff {segment : List Char} : isLiteral segment = true ↔ ¬ IsPattern segment := by
  simp only [isLiteral, IsPattern, Bool.and_eq_true, decide_eq_true_eq, not_or, and_assoc, ne_eq]

/-! ## The check of one setting -/

/-- Whether a check tells what is wrong with a setting: it passes if nothing is, and else names
it. -/
def Judges {α : Type} (result : Except Error α) (key : Setting) (wrong : Prop) : Prop :=
  ((∃ a, result = .ok a) ∧ ¬ wrong) ∨ (∃ fault, result = .error (.setting key fault)) ∧ wrong

theorem judges_checkLiteral (key : Setting) (path : List Char) :
    Judges (checkLiteral key path) key (∃ segment ∈ path.splitOn '/', IsPattern segment) := by
  rw [checkLiteral]
  cases hfind : (path.splitOn '/').find? (!isLiteral ·) with
  | none =>
    refine .inl ⟨⟨(), rfl⟩, ?_⟩
    rintro ⟨segment, hmem, hpattern⟩
    have hliteral : isLiteral segment = true := by
      simpa using List.find?_eq_none.1 hfind segment hmem
    exact isLiteral_iff.1 hliteral hpattern
  | some segment =>
    have hpattern : IsPattern segment := by
      by_contra hnot
      have hliteral := List.find?_some hfind
      rw [isLiteral_iff.2 hnot] at hliteral
      cases hliteral
    exact .inr ⟨⟨_, rfl⟩, segment, List.mem_of_find?_eq_some hfind, hpattern⟩

theorem judges_address (c : Config) : Judges c.address .bind (c.Wrong .bind) := by
  unfold address
  cases haddress : SocketAddress.ofText? c.bind.toList with
  | none => exact .inr ⟨⟨_, rfl⟩, haddress⟩
  | some a =>
    refine .inl ⟨⟨a, rfl⟩, ?_⟩
    show ¬ SocketAddress.ofText? c.bind.toList = none
    simp [haddress]

theorem judges_checkBaseUrl (c : Config) : Judges c.checkBaseUrl .baseUrl (c.Wrong .baseUrl) := by
  unfold checkBaseUrl
  by_cases hslash : c.baseUrl.toList.head? ≠ some '/'
  · rw [if_pos hslash]
    exact .inr ⟨⟨_, rfl⟩, .inl hslash⟩
  · rw [if_neg hslash]
    -- With its slash the base path is wrong for its segments alone.
    refine (judges_checkLiteral .baseUrl c.baseUrl.toList).imp ?_ ?_
    · rintro ⟨hok, hnone⟩
      exact ⟨hok, fun hwrong => hwrong.elim hslash hnone⟩
    · exact fun ⟨herror, hsome⟩ => ⟨herror, .inr hsome⟩

theorem judges_checkExtensionName (c : Config) :
    Judges c.checkExtensionName .extensionName (c.Wrong .extensionName) := by
  unfold checkExtensionName
  dsimp only
  by_cases hname : Route.trimSlashes c.extensionName.toList = [] ∨
      '/' ∈ Route.trimSlashes c.extensionName.toList
  · rw [if_pos hname]
    exact .inr ⟨⟨_, rfl⟩, or_assoc.1 (.inl hname)⟩
  · rw [if_neg hname]
    refine (judges_checkLiteral .extensionName
      (Route.trimSlashes c.extensionName.toList)).imp ?_ ?_
    · rintro ⟨hok, hnone⟩
      exact ⟨hok, fun hwrong => (or_assoc.2 hwrong).elim hname hnone⟩
    · exact fun ⟨herror, hsome⟩ => ⟨herror, .inr (.inr hsome)⟩

/-! ## The whole check -/

/-- **What the check does**: it passes a configuration of which no setting is wrong, and else
complains about the first setting that is. -/
theorem check_cases (c : Config) :
    (c.check = .ok () ∧ ∀ key, ¬ c.Wrong key) ∨
      ∃ key fault, c.check = .error (.setting key fault) ∧ c.FirstWrong key := by
  unfold check
  rcases judges_address c with ⟨⟨a, ha⟩, hbind⟩ | ⟨⟨fault, hfault⟩, hwrong⟩
  · rcases judges_checkBaseUrl c with ⟨⟨_, hb⟩, hbase⟩ | ⟨⟨fault, hfault⟩, hwrong⟩
    · rcases judges_checkExtensionName c with ⟨⟨_, hn⟩, hname⟩ | ⟨⟨fault, hfault⟩, hwrong⟩
      · left
        rw [ha, hb, hn]
        refine ⟨rfl, fun key => ?_⟩
        cases key with
        | bind => exact hbind
        | baseUrl => exact hbase
        | extensionName => exact hname
      · refine .inr ⟨.extensionName, fault, ?_, hwrong, ?_⟩
        · rw [ha, hb, hfault]
          rfl
        · simp [Setting.earlier, hbind, hbase]
    · refine .inr ⟨.baseUrl, fault, ?_, hwrong, ?_⟩
      · rw [ha, hfault]
        rfl
      · simp [Setting.earlier, hbind]
  · refine .inr ⟨.bind, fault, ?_, hwrong, nofun⟩
    rw [hfault]
    rfl

theorem check_eq_ok_iff {c : Config} : c.check = .ok () ↔ ∀ key, ¬ c.Wrong key := by
  rcases check_cases c with ⟨hok, hright⟩ | ⟨key, fault, herror, hwrong, -⟩
  · exact iff_of_true hok hright
  · rw [herror]
    exact iff_of_false nofun fun hright => hright key hwrong

/-- No two settings are the first that is wrong: of two, one is looked at before the other. -/
theorem FirstWrong.unique {c : Config} {key other : Setting} (h : c.FirstWrong key)
    (h' : c.FirstWrong other) : key = other := by
  by_contra hne
  have horder : other ∈ key.earlier ∨ key ∈ other.earlier := by
    cases key <;> cases other <;> simp_all [Setting.earlier]
  rcases horder with hearlier | hearlier
  · exact h.2 other hearlier h'.1
  · exact h'.2 key hearlier h.1

/-- **The setting that is reported** is the first that is wrong. -/
theorem exists_check_eq_error_iff {c : Config} {key : Setting} :
    (∃ fault, c.check = .error (.setting key fault)) ↔ c.FirstWrong key := by
  rcases check_cases c with ⟨hok, hright⟩ | ⟨first, fault, herror, hfirst⟩
  · rw [hok]
    exact iff_of_false (fun ⟨_, h⟩ => nomatch h) fun h => hright key h.1
  · rw [herror]
    constructor
    · rintro ⟨_, h⟩
      cases h
      exact hfirst
    · intro h
      rw [h.unique hfirst]
      exact ⟨fault, rfl⟩

/-! ## Configurations that pass -/

section

variable {c : Config}

theorem isSegment_of_check (h : c.check = .ok ()) :
    Route.IsSegment (Route.trimSlashes c.extensionName.toList) := by
  have hname : ¬ c.Wrong .extensionName := check_eq_ok_iff.1 h .extensionName
  exact ⟨fun hnil => hname (.inl hnil), fun hslash => hname (.inr (.inl hslash))⟩

/-- The segments of the routes are those that were looked at, so none of them is a pattern. -/
theorem not_isPattern_of_mem_segments (h : c.check = .ok ()) {segment : List Char}
    (hmem : segment ∈ Route.segments c.baseUrl c.extensionName) : ¬ IsPattern segment := by
  intro hpattern
  rcases List.mem_append.1 hmem with hmem | hmem
  · apply check_eq_ok_iff.1 h .baseUrl
    exact .inr ⟨segment, Route.mem_splitOn_of_mem_baseSegments hmem, hpattern⟩
  · have hself := List.splitOn_eq_singleton (isSegment_of_check h).2
    apply check_eq_ok_iff.1 h .extensionName
    refine .inr (.inr ⟨segment, ?_, hpattern⟩)
    rw [hself]
    exact hmem

end

end Config

end NotebookGoto
