import Mathlib.Data.List.Forall2
import Mathlib.Data.List.Nodup
import Mathlib.Data.List.Perm.Subperm
import NotebookGoto.Proofs.Json.Record
import NotebookGoto.Proofs.Text.Named

/-!
# Members in any order

The members of an object may stand in any order, with foreign ones among them, and a known one that
is left out may stand for something (`Mixed`). What is read does not depend on that: each name is
looked up among those found (`Fields.read_mixed`). Where a known name occurs twice nothing is read
(`Fields.count_le_one_of_read`).

A format is `Format.Sound` if its names are distinct and the data of every value fit its fields.
Such data are read back from the members of an object (`Format.read_members`), which is the half of
the round trip in which no text occurs.
-/

namespace NotebookGoto.Json

open Text

/-- A member by its name, as it stands in an object. -/
def keyed {β : Type} (m : String × β) : Symbols × β :=
  (m.1.toList.map some, m.2)

/-- Members of an object, of which those with known names hold data, as `write` has them, and all
others are `foreign`. The data are listed with their names, in the order of the members. -/
inductive Mixed {β : Type} (names : List String) (write : Datum → β) (foreign : β → Prop) :
    List (String × β) → List (String × Datum) → Prop where
  | nil : Mixed names write foreign [] []
  | known {name : String} {d : Datum} {ms : List (String × β)} {found : List (String × Datum)}
      (hname : name ∈ names) (h : Mixed names write foreign ms found) :
    Mixed names write foreign ((name, write d) :: ms) ((name, d) :: found)
  | foreign {name : String} {v : β} {ms : List (String × β)} {found : List (String × Datum)}
      (hname : name ∉ names) (hv : foreign v) (h : Mixed names write foreign ms found) :
    Mixed names write foreign ((name, v) :: ms) found

namespace Mixed

variable {β γ : Type} {names : List String} {write : Datum → β} {foreign : β → Prop}
  {ms : List (String × β)} {found : List (String × Datum)}

theorem map {write' : Datum → γ} {foreign' : γ → Prop} {f : β → γ}
    (hwrite : ∀ d, f (write d) = write' d) (hforeign : ∀ v, foreign v → foreign' (f v))
    (h : Mixed names write foreign ms found) :
    Mixed names write' foreign' (ms.map fun m => (m.1, f m.2)) found := by
  induction h with
  | nil => exact .nil
  | known hname _ ih =>
    rw [List.map_cons, hwrite]
    exact .known hname ih
  | foreign hname hv _ ih => exact .foreign hname (hforeign _ hv) ih

theorem forall_mem {p : β → Prop} (hwrite : ∀ d, p (write d)) (hforeign : ∀ v, foreign v → p v)
    (h : Mixed names write foreign ms found) : ∀ m ∈ ms, p m.2 := by
  induction h with
  | nil => exact fun m hm => nomatch hm
  | known _ _ ih => exact List.forall_mem_cons.2 ⟨hwrite _, ih⟩
  | foreign _ hv _ ih => exact List.forall_mem_cons.2 ⟨hforeign _ hv, ih⟩

/-- Members of which none is foreign. -/
theorem of_subset (h : ∀ m ∈ found, m.1 ∈ names) :
    Mixed names write foreign (found.map fun m => (m.1, write m.2)) found := by
  induction found with
  | nil => exact .nil
  | cons m found ih =>
    exact .known (h m List.mem_cons_self) (ih fun m' hm' => h m' (List.mem_cons_of_mem m hm'))

theorem filter_eq (name : String) (h : Mixed (name :: names) write foreign ms found) :
    ms.filter (·.1 = name) = (found.filter (·.1 = name)).map fun m => (m.1, write m.2) := by
  induction h with
  | nil => rfl
  | @known other d ms found hname h ih =>
    by_cases heq : other = name
    · rw [List.filter_cons_of_pos (by simpa using heq),
        List.filter_cons_of_pos (by simpa using heq), ih]
      rfl
    · rw [List.filter_cons_of_neg (by simpa using heq),
        List.filter_cons_of_neg (by simpa using heq), ih]
  | @foreign other v ms found hname hv h ih =>
    have hne : other ≠ name := fun heq => hname (heq ▸ List.mem_cons_self)
    rw [List.filter_cons_of_neg (by simpa using hne), ih]

theorem filter_ne (name : String) (h : Mixed (name :: names) write foreign ms found) :
    Mixed names write foreign (ms.filter (·.1 ≠ name)) (found.filter (·.1 ≠ name)) := by
  induction h with
  | nil => exact .nil
  | @known other d ms found hname h ih =>
    by_cases heq : other = name
    · rw [List.filter_cons_of_neg (by simpa using heq),
        List.filter_cons_of_neg (by simpa using heq)]
      exact ih
    · rw [List.filter_cons_of_pos (by simpa using heq),
        List.filter_cons_of_pos (by simpa using heq)]
      exact .known ((List.mem_cons.1 hname).resolve_left heq) ih
  | @foreign other v ms found hname hv h ih =>
    obtain ⟨hne, hother⟩ := not_or.1 (mt List.mem_cons.2 hname)
    rw [List.filter_cons_of_pos (by simpa using hne)]
    exact .foreign hother hv ih

end Mixed

namespace Fields

variable {fields : Fields} {acc found : List (String × Datum)} {ms : List (String × Json)}

theorem find?_eq_none_of_not_mem {name : String} (h : name ∉ fields.map (·.name)) :
    fields.find? (·.name = name) = none := by
  rw [List.find?_eq_none]
  intro field hfield hname
  exact h (List.mem_map.2 ⟨field, hfield, of_decide_eq_true hname⟩)

/-- What one more member does: a foreign one is passed over, and a known one is new and is found. -/
theorem readMembers_cons_iff {name : String} {v : Json} :
    readMembers fields acc (keyed (name, v) :: ms.map keyed) = .ok found ↔
      (fields.find? (·.name = name) = none ∧ v.whole = true ∧
        readMembers fields acc (ms.map keyed) = .ok found) ∨
      ∃ field d, fields.find? (·.name = name) = some field ∧ acc.lookup name = none ∧
        field.kind.read v = .ok d ∧
        readMembers fields ((name, d) :: acc) (ms.map keyed) = .ok found := by
  rw [keyed, readMembers, text?_map_some, String.ofList_toList]
  cases hfind : fields.find? (·.name = name) with
  | none =>
    cases v.whole <;> simp [hfind]
  | some field =>
    cases hlookup : acc.lookup name with
    | some d => simp [hfind, hlookup]
    | none =>
      cases hread : field.kind.read v <;> simp [hfind, hlookup, hread]

/-- **Members are found with their data**, the latest first, where their names are distinct and new
and their fields may hold them. -/
theorem readMembers_mixed
    (h : Mixed (fields.map (·.name)) Datum.json (·.whole = true) ms found)
    (hholds : ∀ m ∈ found, ∃ field, fields.find? (·.name = m.1) = some field ∧ field.kind.Holds m.2)
    (hdistinct : (found.map Prod.fst).Nodup) (hnew : ∀ m ∈ found, acc.lookup m.1 = none) :
    readMembers fields acc (ms.map keyed) = .ok (found.reverse ++ acc) := by
  induction h generalizing acc with
  | nil => rfl
  | @foreign name v ms found hname hv h ih =>
    exact readMembers_cons_iff.2
      (.inl ⟨find?_eq_none_of_not_mem hname, hv, ih hholds hdistinct hnew⟩)
  | @known name d ms found hname h ih =>
    obtain ⟨field, hfind, hd⟩ := hholds _ List.mem_cons_self
    obtain ⟨hfirst, hdistinct⟩ := List.nodup_cons.1 hdistinct
    -- No later member has this name, so what is found now hides nothing that is still to come.
    have hlater : ∀ m ∈ found, ((name, d) :: acc).lookup m.1 = none := by
      intro m hm
      have hne : m.1 ≠ name := fun e => hfirst (List.mem_map.2 ⟨m, hm, e⟩)
      rw [List.lookup_cons, beq_eq_false_iff_ne.2 hne]
      exact hnew m (List.mem_cons_of_mem _ hm)
    have hrest := ih (fun m hm => hholds m (List.mem_cons_of_mem _ hm)) hdistinct hlater
    rw [List.reverse_cons, List.append_assoc, List.singleton_append]
    exact readMembers_cons_iff.2
      (.inr ⟨field, d, hfind, hnew _ List.mem_cons_self, Kind.read_json hd, hrest⟩)

/-- **No known name is found twice.** Induction on the members, where a name that has been found
counts as one that occurs. -/
theorem count_le_one {field : Field} {name : String}
    (hfield : fields.find? (·.name = name) = some field)
    (h : readMembers fields acc (ms.map keyed) = .ok found) :
    (ms.map Prod.fst).count name + (acc.lookup name).toList.length ≤ 1 := by
  induction ms generalizing acc with
  | nil => cases acc.lookup name <;> simp
  | cons m ms ih =>
    rcases readMembers_cons_iff.1 h with ⟨hnone, -, hrest⟩ | ⟨other, d, hother, hnew, -, hrest⟩
    · have hne : m.1 ≠ name := by
        rintro rfl
        rw [hfield] at hnone
        cases hnone
      rw [List.map_cons, List.count_cons_of_ne hne]
      exact ih hrest
    · have hcount := ih hrest
      by_cases hname : m.1 = name
      · subst hname
        rw [List.lookup_cons_self] at hcount
        rw [List.map_cons, List.count_cons_self, hnew]
        simpa using hcount
      · rw [List.lookup_cons, beq_eq_false_iff_ne.2 (Ne.symm hname)] at hcount
        rw [List.map_cons, List.count_cons_of_ne hname]
        exact hcount

theorem pick_of_mem {field : Field} {d : Datum} (hdistinct : (found.map Prod.fst).Nodup)
    (h : (field.name, d) ∈ found) : pick found field = .ok d := by
  rw [pick, lookup_of_mem hdistinct h]

theorem mapM_pick {ds : List Datum}
    (h : List.Forall₂ (fun field d => pick found field = .ok d) fields ds) :
    fields.mapM (pick found) = .ok ds := by
  induction h with
  | nil => rfl
  | cons hd _ ih =>
    rw [List.mapM_cons, hd, ih]
    rfl

/-- **Data are read back from their members**, in whatever order they stand and whatever stands
between them, where names are distinct and every field may hold its datum. What is left out must be
what a field that is left out holds. -/
theorem read_mixed (early : Bool) {ds : List Datum} (hdistinct : (fields.map (·.name)).Nodup)
    (hholds : List.Forall₂ (fun field d => field.kind.Holds d) fields ds)
    (h : Mixed (fields.map (·.name)) Datum.json (·.whole = true) ms found)
    (hfound : found.Subperm ((fields.map (·.name)).zip ds))
    (habsent : ∀ p ∈ fields.zip ds, (p.1.name, p.2) ∉ found → p.1.absent = some p.2) :
    fields.read early (.object (ms.map keyed) true) = .ok ds := by
  obtain ⟨hlength, hzip⟩ := List.forall₂_iff_zip.1 hholds
  have hnames : ((fields.map (·.name)).zip ds).map Prod.fst = fields.map (·.name) :=
    List.map_fst_zip (by simp [hlength])
  have hzipped : (((fields.map (·.name)).zip ds).map Prod.fst).Nodup := by rwa [hnames]
  have hnodup : (found.map Prod.fst).Nodup := by
    obtain ⟨kept, hperm, hsub⟩ := hfound
    exact (hperm.map Prod.fst).nodup_iff.1 (hzipped.sublist (hsub.map Prod.fst))
  have hknown : ∀ m ∈ found, ∃ field, fields.find? (·.name = m.1) = some field ∧
      field.kind.Holds m.2 := by
    intro m hm
    have hmem := hfound.subset hm
    rw [List.zip_map_left] at hmem
    obtain ⟨⟨field, d⟩, hpair, rfl⟩ := List.mem_map.1 hmem
    exact ⟨field, find?_of_mem hdistinct (List.of_mem_zip hpair).1, hzip hpair⟩
  have hread : readMembers fields [] (ms.map keyed) = .ok (found.reverse ++ []) :=
    readMembers_mixed h hknown hnodup fun _ _ => rfl
  -- Members are found the latest first, which does not matter where each name occurs once.
  have hpick : fields.mapM (pick (found.reverse ++ [])) = .ok ds := by
    refine mapM_pick (List.forall₂_iff_zip.2 ⟨hlength, fun {field d} hpair => ?_⟩)
    have hreverse : ((found.reverse ++ []).map Prod.fst).Nodup := by
      rw [List.append_nil, List.map_reverse]
      exact List.nodup_reverse.2 hnodup
    by_cases hin : (field.name, d) ∈ found
    · exact pick_of_mem hreverse (by simpa using hin)
    · have hnone : (found.reverse ++ []).lookup field.name = none := by
        rw [Option.eq_none_iff_forall_ne_some]
        intro d' hd'
        have hmem : (field.name, d') ∈ found := by simpa using mem_of_lookup hd'
        have hpaired : (field.name, d) ∈ (fields.map (·.name)).zip ds := by
          rw [List.zip_map_left]
          exact List.mem_map.2 ⟨(field, d), hpair, rfl⟩
        have hsame : some d' = some d :=
          (lookup_of_mem hzipped (hfound.subset hmem)).symm.trans (lookup_of_mem hzipped hpaired)
        exact hin (Option.some.inj hsame ▸ hmem)
      rw [pick, hnone, habsent _ hpair hin]
  rw [read, hread]
  exact hpick

/-- **All data are read back** where no field is left out. -/
theorem read_of_perm (early : Bool) {ds : List Datum} (hdistinct : (fields.map (·.name)).Nodup)
    (hholds : List.Forall₂ (fun field d => field.kind.Holds d) fields ds)
    (h : Mixed (fields.map (·.name)) Datum.json (·.whole = true) ms found)
    (hfound : found.Perm ((fields.map (·.name)).zip ds)) :
    fields.read early (.object (ms.map keyed) true) = .ok ds := by
  refine read_mixed early hdistinct hholds h hfound.subperm fun p hp hnot => absurd ?_ hnot
  rw [hfound.mem_iff, List.zip_map_left]
  exact List.mem_map.2 ⟨p, hp, rfl⟩

/-- **What is read repeats no known name.** -/
theorem count_le_one_of_read {early : Bool} {name : String} {ds : List Datum}
    (hname : name ∈ fields.map (·.name))
    (h : fields.read early (.object (ms.map keyed) true) = .ok ds) :
    (ms.map Prod.fst).count name ≤ 1 := by
  have hknown : (fields.find? (·.name = name)).isSome = true := by
    obtain ⟨field, hfield, rfl⟩ := List.mem_map.1 hname
    exact List.find?_isSome.2 ⟨field, hfield, decide_eq_true rfl⟩
  obtain ⟨field, hfind⟩ := Option.isSome_iff_exists.1 hknown
  rw [read] at h
  cases hmembers : readMembers fields [] (ms.map keyed) with
  | error e =>
    rw [hmembers] at h
    cases h
  | ok found => exact Nat.le_trans (Nat.le_add_right _ _) (count_le_one hfind hmembers)

end Fields

/-- A member of an object, as it is written. -/
def member (m : String × Datum) : Symbols × Json :=
  keyed (m.1, m.2.json)

/-- **Data are read back from the members as which they are written.** -/
theorem Fields.read_member {fields : Fields} (early : Bool) {ds : List Datum}
    (hdistinct : (fields.map (·.name)).Nodup)
    (hholds : List.Forall₂ (fun field d => field.kind.Holds d) fields ds) :
    fields.read early (.object (((fields.map (·.name)).zip ds).map member) true) = .ok ds := by
  have hmixed : Mixed (fields.map (·.name)) Datum.json (·.whole = true)
      (((fields.map (·.name)).zip ds).map fun m => (m.1, m.2.json))
      ((fields.map (·.name)).zip ds) :=
    .of_subset fun m hm => (List.of_mem_zip hm).1
  have hread := Fields.read_of_perm early hdistinct hholds hmixed (.refl _)
  rwa [List.map_map] at hread

namespace Format

variable {α : Type} {f : Format α}

/-- A format whose names are distinct, and whose fields may hold the data of every value. -/
structure Sound (f : Format α) : Prop where
  distinct : (f.fields.map (·.name)).Nodup
  holds : ∀ a, List.Forall₂ (fun field d => field.kind.Holds d) f.fields (f.toData a)

theorem read_of_read_fields {v : Json} {a : α} (h : f.fields.read f.early v = .ok (f.toData a)) :
    f.read v = .ok a := by
  have hback : f.ofData? (f.toData a) = some a := f.ofData?_toData a
  rw [read, h]
  simp only [bind, Except.bind, hback]

theorem read_members (hf : f.Sound) (a : α) :
    f.read (.object ((f.members a).map member) true) = .ok a :=
  read_of_read_fields (Fields.read_member f.early hf.distinct (hf.holds a))

end Format

end NotebookGoto.Json
