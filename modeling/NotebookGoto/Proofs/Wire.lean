import NotebookGoto.Proofs.Json.List
import NotebookGoto.Proofs.Json.Magnitude
import NotebookGoto.Wire

/-!
# The formats are sound

The names of each format are distinct and its fields may hold what is put there, so the values that
travel as JSON are read back from their texts. An outcome is no format, for its status says which
fields follow. Its record is kept whole until the status is known (`Outcome.all_keepable`,
`Outcome.shallow_objectTokens`), and taken apart then (`Outcome.read?_keyed_iff`).

* **`Outcome.ofText?_mixed`**: an outcome is read back from its members in any order.
* **`ofText?_toText_of_every_kind`**: reading undoes writing, for every kind of value.
-/

namespace NotebookGoto.Wire

open Json Text

/-! ## Formats -/

theorem holds_ofText (s : Option String) : (Kind.optional .text).Holds (ofText s) := by
  cases s <;> trivial

theorem holds_ofWord (n : Option UInt32) : (Kind.optional .word).Holds (ofWord n) := by
  cases n <;> trivial

theorem sound_lookup : lookup.Sound where
  distinct := by decide
  holds _ := .cons trivial (.cons trivial (.cons trivial (.cons trivial .nil)))

theorem sound_report : report.Sound where
  distinct := by decide
  holds r := .cons (holds_ofText r.file) (.cons (holds_ofWord r.line)
    (.cons (holds_ofText r.message) .nil))

theorem cellKindName_mem (k : CellKind) : cellKindName k ∈ ["code", "markdown", "raw"] := by
  cases k <;> decide

theorem sound_cell : cell.Sound where
  distinct := by decide
  holds c := .cons (cellKindName_mem c.kind) (.cons trivial .nil)

theorem sound_config : config.Sound where
  distinct := by decide
  holds c := .cons trivial (.cons trivial (.cons trivial (.cons (holds_ofText c.token) .nil)))

theorem sound_single (name : String) : (single name).Sound where
  distinct := List.nodup_singleton name
  holds _ := .cons trivial .nil

/-- What a site tells of a fault is read back from the body of its answer. -/
theorem ofText?_toText_problem (message : String) :
    problem.ofText? (problem.toText message) = some message :=
  Format.ofText?_toText (sound_single "message") message

/-- So is code. -/
theorem ofText?_toText_code (text : String) : code.ofText? (code.toText text) = some text :=
  Format.ofText?_toText (sound_single "code") text

/-! ## Reasons for a failure -/

theorem failureName_mem (f : Failure) : f.name ∈ Failure.all.map (·.name) := by
  cases f <;> decide

/-- The reason for a failure is read back from its name. -/
theorem failureOfText?_failureToText (f : Failure) :
    failureOfText? (failureToText f) = some f := by
  have htokens : tokens ((writeString f.name.toList).map some) = [(Datum.text f.name).token] := by
    have h := tokens_writeString f.name.toList []
    rwa [List.append_nil, tokens_nil] at h
  have hvalue : readAll ((failureToText f).map some) = (Datum.text f.name).json := by
    apply readAll_of_run
    rw [failureToText, htokens]
    rfl
  rw [failureOfText?, hvalue, readChoice_json false (failureName_mem f)]
  exact Failure.ofName?_name f

/-! ## Outcomes -/

namespace Outcome

/-- What is written into a record can be kept until the record's status is known. -/
theorem keepable_token (d : Datum) : keepable d.token = true := by
  cases d with
  | null => rfl
  | text s => rw [Datum.token, keepable, text?_map_some]; rfl
  | word n =>
    have hroom : n.toNat < Magnitude.room := Nat.lt_trans n.toNat_lt (by decide)
    rw [Datum.token, keepable, Number.isTooLarge_digits hroom]
    rfl

theorem all_keepable {ms : List (String × List Token)} (h : ∀ m ∈ ms, m.2.all keepable = true) :
    (objectTokens (ms.map keyed)).all keepable = true := by
  have hmembers : ([.comma].intercalate ((ms.map keyed).map memberTokens)).all keepable = true :=
    all_members rfl rfl (List.forall_mem_map.2 fun m hm => ⟨keepable_token (.text m.1), h m hm⟩)
  rw [objectTokens, List.cons_append, List.all_cons, List.all_append, hmembers]
  rfl

/-- Whether a token opens or closes nothing. -/
def isFlat : Token → Bool
  | .opening _ => false
  | .closing _ => false
  | _ => true

theorem shallow_append {ts : List Token} (h : ts.all isFlat = true) (room : Nat) (us : List Token) :
    shallow room (ts ++ us) = shallow room us := by
  induction ts with
  | nil => rfl
  | cons t ts ih =>
    rw [List.all_cons, Bool.and_eq_true] at h
    cases t with
    | opening | closing => cases h.1
    | _ => exact ih h.2

/-- An object that holds no further one is not nested deeply. -/
theorem shallow_objectTokens {ms : List (Symbols × List Token)}
    (h : ∀ m ∈ ms, m.2.all isFlat = true) : shallow depth (objectTokens ms) = true := by
  have hflat : ([.comma].intercalate (ms.map memberTokens)).all isFlat = true :=
    all_members rfl rfl fun m hm => ⟨rfl, h m hm⟩
  show shallow 126 ([.comma].intercalate (ms.map memberTokens) ++ [.closing .brace]) = true
  rw [shallow_append hflat]
  rfl

/-! ### Taking a record apart -/

theorem isStatus_keyed (m : String × Json) : isStatus (keyed m) = decide (m.1 = "status") := by
  rw [isStatus, keyed, text?_map_some, String.ofList_toList]
  simp

theorem holds_toData (o : Outcome) :
    List.Forall₂ (fun field d => field.kind.Holds d) (status o).fields (toData o) := by
  cases o with
  | definition file line => exact .cons trivial (.cons trivial .nil)
  | failed kind message => exact .cons (failureName_mem kind) (.cons trivial .nil)

theorem distinct_fields (s : Status) : (s.fields.map (·.name)).Nodup := by
  cases s <;> decide

theorem ofName?_name (s : Status) : Status.ofName? s.name = some s := by
  cases s <;> decide

theorem readStatus?_json (s : Status) : readStatus? (Datum.text s.name).json = some s := by
  rw [Datum.json, readStatus?, text?_map_some, String.ofList_toList]
  exact ofName?_name s

theorem outcome?_toData (o : Outcome) : (status o).outcome? (toData o) = some o := by
  cases o with
  | definition file line => rfl
  | failed kind message =>
    show (Failure.ofName? kind.name).map (Outcome.failed · message) = _
    rw [Failure.ofName?_name]
    rfl

theorem names_members (o : Outcome) :
    (members o).map Prod.fst = "status" :: (status o).fields.map (·.name) := by
  cases o <;> rfl

theorem filter_status_members (o : Outcome) :
    (members o).filter (·.1 = "status") = [("status", .text (status o).name)] := by
  cases o <;> rfl

theorem filter_fields_members (o : Outcome) :
    (members o).filter (·.1 ≠ "status") = ((status o).fields.map (·.name)).zip (toData o) := by
  cases o <;> rfl

/-- What is read from members is the outcome of the one status among them with the data of the
others. -/
theorem read?_keyed_iff {ms : List (String × Json)} {o : Outcome} :
    read? (.object (ms.map keyed) true) = some o ↔
      ∃ v s ds, ms.filter (·.1 = "status") = [("status", v)] ∧ readStatus? v = some s ∧
        s.fields.read false (.object ((ms.filter (·.1 ≠ "status")).map keyed) true) = .ok ds ∧
        s.outcome? ds = some o := by
  have hstatus : (ms.map keyed).filter isStatus = (ms.filter (·.1 = "status")).map keyed := by
    have hkeyed : isStatus ∘ keyed = fun m : String × Json => decide (m.1 = "status") :=
      funext isStatus_keyed
    rw [List.filter_map, hkeyed]
  have hothers : (ms.map keyed).filter (not ∘ isStatus) =
      (ms.filter (·.1 ≠ "status")).map keyed := by
    have hkeyed : (not ∘ isStatus) ∘ keyed = fun m : String × Json => decide (m.1 ≠ "status") :=
      funext fun m => by rw [Function.comp_apply, Function.comp_apply, isStatus_keyed, decide_not]
    rw [List.filter_map, hkeyed]
  rw [read?, List.partition_eq_filter_filter, hstatus, hothers]
  match hone : ms.filter (·.1 = "status") with
  | [] =>
    rw [hone]
    simp
  | [m] =>
    have hm : m ∈ ms.filter (·.1 = "status") := hone ▸ List.mem_singleton_self m
    have hname : m.1 = "status" := of_decide_eq_true (List.mem_filter.1 hm).2
    obtain ⟨name, v⟩ := m
    cases hname
    rw [hone]
    have hok (s : Status) (ds : List Datum) (v : Json) :
        (s.fields.read false v).toOption = some ds ↔ s.fields.read false v = .ok ds := by
      cases s.fields.read false v <;> simp [Except.toOption]
    simp [keyed, Option.bind_eq_some_iff, hok]
  | m :: m' :: rest =>
    rw [hone]
    simp

/-- **An outcome is read back from its members**, of which the status decides how the others are
read, in whatever order they stand and whatever stands between them. -/
theorem read?_mixed (o : Outcome) {ms : List (String × Json)} {found : List (String × Datum)}
    (h : Mixed ((members o).map Prod.fst) Datum.json (·.whole = true) ms found)
    (hfound : found.Perm (members o)) : read? (.object (ms.map keyed) true) = some o := by
  rw [names_members] at h
  have hstatus : ms.filter (·.1 = "status") = [("status", (Datum.text (status o).name).json)] := by
    have hone : found.filter (·.1 = "status") = [("status", .text (status o).name)] := by
      rw [← List.perm_singleton, ← filter_status_members]
      exact hfound.filter _
    rw [h.filter_eq "status", hone]
    rfl
  have hfields : (found.filter (·.1 ≠ "status")).Perm
      (((status o).fields.map (·.name)).zip (toData o)) := by
    rw [← filter_fields_members]
    exact hfound.filter _
  exact read?_keyed_iff.2 ⟨_, status o, toData o, hstatus, readStatus?_json (status o),
    Fields.read_of_perm false (distinct_fields (status o)) (holds_toData o) (h.filter_ne "status")
      hfields, outcome?_toData o⟩

/-- **Members that repeat a name of an outcome are those of none**, where its status is one of
them. -/
theorem read?_repeated (o : Outcome) {ms : List (String × Json)} {name : String}
    (hstatus : ("status", (Datum.text (status o).name).json) ∈ ms)
    (hname : name ∈ (members o).map Prod.fst) (hcount : 1 < (ms.map Prod.fst).count name) :
    read? (.object (ms.map keyed) true) = none := by
  rw [Option.eq_none_iff_forall_ne_some]
  intro o' ho'
  obtain ⟨v, s, ds, hone, hs, hread, -⟩ := read?_keyed_iff.1 ho'
  -- The one status that is read is the one that is known to be there.
  have hv : (Datum.text (status o).name).json = v := by
    have hmem : ("status", (Datum.text (status o).name).json) ∈ ms.filter (·.1 = "status") :=
      List.mem_filter.2 ⟨hstatus, decide_eq_true rfl⟩
    rw [hone, List.mem_singleton] at hmem
    exact congrArg Prod.snd hmem
  rw [← hv, readStatus?_json, Option.some.injEq] at hs
  subst hs
  rw [names_members, List.mem_cons] at hname
  rcases hname with rfl | hfield
  · have hcounted : (ms.map Prod.fst).count "status" = (ms.filter (·.1 = "status")).length := by
      rw [List.count, List.countP_map, List.countP_eq_length_filter]
      rfl
    rw [hcounted, hone] at hcount
    exact absurd hcount (Nat.lt_irrefl 1)
  · have hne : name ≠ "status" := by
      rintro rfl
      revert hfield
      cases status o <;> decide
    have hkept : ((ms.filter (·.1 ≠ "status")).map Prod.fst).count name =
        (ms.map Prod.fst).count name := by
      rw [List.count, List.countP_map, List.countP_map, List.countP_filter]
      refine List.countP_congr fun m _ => ?_
      simp
      rintro rfl
      exact hne
    have hle := Fields.count_le_one_of_read hfield hread
    rw [hkept] at hle
    exact absurd hle (Nat.not_le.2 hcount)

/-! ### Texts of outcomes -/

/-- Values that can be kept until the status is known: texts, whole numbers of 64 bits, and any
other number that a double can hold. Nothing is nested in them. -/
inductive IsPlain : List Token → Prop where
  | null : IsPlain [.null]
  | bool (b : Bool) : IsPlain [.bool b]
  | text (s : String) : IsPlain [.string (s.toList.map some)]
  | whole {n : Nat} (h : n < UInt64.size) : IsPlain [.number ⟨false, Decimal.digits n, [], none⟩]
  | number {n : Number} (h : n.isTooLarge = false) : IsPlain [.number n]

namespace IsPlain

variable {ts : List Token}

theorem isValue (h : IsPlain ts) : IsValue ts := by
  cases h with
  | null => exact .null
  | bool b => exact .bool b
  | text s => exact .string _
  | whole | number => exact .number _

theorem all_isFlat (h : IsPlain ts) : ts.all isFlat = true := by
  cases h <;> rfl

theorem all_keepable (h : IsPlain ts) : ts.all keepable = true := by
  cases h with
  | null | bool => rfl
  | text s =>
    have hs : keepable (.string (s.toList.map some)) = true := keepable_token (.text s)
    rw [List.all_cons, hs]
    rfl
  | whole h =>
    rw [List.all_cons, keepable, Number.isTooLarge_digits h]
    rfl
  | number h =>
    rw [List.all_cons, keepable, h]
    rfl

end IsPlain

variable {ms : List (String × List Token)} {text : List Char}

/-- **An outcome is read back from every text of its members**, in whatever order they stand, with
plain values under foreign names between them. -/
theorem ofText?_mixed (o : Outcome) {found : List (String × Datum)}
    (h : Mixed ((members o).map Prod.fst) (fun d => [d.token]) IsPlain ms found)
    (hfound : found.Perm (members o))
    (htext : tokens (text.map some) = objectTokens (ms.map keyed)) : ofText? text = some o := by
  have hkeepable : (objectTokens (ms.map keyed)).all keepable = true := by
    refine Outcome.all_keepable (h.forall_mem (fun d => ?_) fun _ hv => hv.all_keepable)
    rw [List.all_cons, keepable_token]
    rfl
  have hshallow : shallow depth (objectTokens (ms.map keyed)) = true := by
    have hflat : ∀ m ∈ ms, m.2.all isFlat = true :=
      h.forall_mem (fun d => by cases d <;> rfl) fun _ hv => hv.all_isFlat
    exact shallow_objectTokens (List.forall_mem_map.2 hflat)
  have hvalues : ∀ m ∈ ms, IsComplete m.2 :=
    h.forall_mem (fun d => d.isValue_token.isComplete.1) fun _ hv => hv.isValue.isComplete.1
  have hmixed : Mixed ((members o).map Prod.fst) Datum.json (·.whole = true)
      (ms.map fun m => (m.1, valueOf m.2)) found :=
    h.map (fun d => valueOf_of_run d.run_token) fun _ hv => hv.isValue.isComplete.2
  rw [ofText?, readAll_of_run (htext ▸ run_keyed hvalues), htext, hkeepable, hshallow]
  exact read?_mixed o hmixed hfound

/-- **A text that repeats a name of an outcome is none of any**, where that outcome's status is in
it. -/
theorem ofText?_repeated (o : Outcome) {name : String} (hvalues : ∀ m ∈ ms, IsComplete m.2)
    (hstatus : ("status", [(Datum.text (status o).name).token]) ∈ ms)
    (hname : name ∈ (members o).map Prod.fst) (hcount : 1 < (ms.map Prod.fst).count name)
    (htext : tokens (text.map some) = objectTokens (ms.map keyed)) : ofText? text = none := by
  have hread : read? (.object ((ms.map fun m => (m.1, valueOf m.2)).map keyed) true) = none := by
    refine read?_repeated o (List.mem_map.2 ⟨_, hstatus, ?_⟩) hname ?_
    · rw [valueOf_of_run (Datum.text (status o).name).run_token]
    · rwa [List.map_map]
  rw [ofText?, readAll_of_run (htext ▸ run_keyed hvalues), hread]
  exact ite_self none

/-- **Every layout of an outcome is read back.** -/
theorem ofText?_toText {layout : Layout} (hl : layout.Spaced) (o : Outcome) :
    ofText? (toText layout o) = some o := by
  have htokens : tokens ((toText layout o).map some) =
      objectTokens (((members o).map fun m => (m.1, [m.2.token])).map keyed) := by
    rw [List.map_map]
    exact tokens_record hl (members o)
  exact ofText?_mixed o (.of_subset fun m hm => List.mem_map_of_mem hm) (.refl _) htokens

end Outcome

/-! ## All kinds of values -/

/-- **Reading undoes writing** for every kind of value that travels: lookups, reports, outcomes in
one line as well as on several, the reasons for a failure, cells and lists of them, configurations,
the greeting and the code. -/
theorem ofText?_toText_of_every_kind :
    (∀ l : Lookup, lookup.ofText? (lookup.toText l) = some l) ∧
    (∀ r : Report, report.ofText? (report.toText r) = some r) ∧
    (∀ o : Outcome, Outcome.ofText? (Outcome.toText .compact o) = some o) ∧
    (∀ o : Outcome, Outcome.ofText? (Outcome.toText .pretty o) = some o) ∧
    (∀ f : Failure, failureOfText? (failureToText f) = some f) ∧
    (∀ c : Cell, cell.ofText? (cell.toText c) = some c) ∧
    (∀ cells : List Cell, cellsOfText? (cellsToText cells) = some cells) ∧
    (∀ c : Config, config.ofText? (config.toText c) = some c) ∧
    (∀ s : String, greeting.ofText? (greeting.toText s) = some s) ∧
    ∀ s : String, code.ofText? (code.toText s) = some s := by
  refine ⟨?_, ?_, ?_, ?_, failureOfText?_failureToText, ?_, ?_, ?_, ?_, ?_⟩
  · exact Format.ofText?_toText sound_lookup
  · exact Format.ofText?_toText sound_report
  · exact Outcome.ofText?_toText Layout.spaced_compact
  · exact Outcome.ofText?_toText Layout.spaced_pretty
  · exact Format.ofText?_toText sound_cell
  · intro cells
    rw [cellsOfText?, cellsToText, Format.readList_write sound_cell]
    rfl
  · exact Format.ofText?_toText sound_config
  · exact Format.ofText?_toText (sound_single "data")
  · exact ofText?_toText_code

end NotebookGoto.Wire
