import Mathlib.Data.List.Nodup
import Mathlib.Data.List.Perm.Basic

/-!
# Values under names

In a list of values under names a name is looked up from the front. Where each name stands only
once, what is found under it is what stands there (`lookup_of_mem`, `find?_of_mem`), in whatever
order the list is (`lookup_eq_of_perm`).
-/

namespace NotebookGoto.Text

variable {β : Type} {l l' : List (String × β)} {name : String} {b : β}

theorem lookup_of_mem {m : String × β} (hdistinct : (l.map Prod.fst).Nodup) (h : m ∈ l) :
    l.lookup m.1 = some m.2 := by
  induction l with
  | nil => cases h
  | cons k l ih =>
    obtain ⟨hk, hdistinct⟩ := List.nodup_cons.1 hdistinct
    rcases List.mem_cons.1 h with rfl | hmem
    · exact List.lookup_cons_self
    · have hne : m.1 ≠ k.1 := fun e => hk (e ▸ List.mem_map_of_mem hmem)
      rw [List.lookup_cons, beq_eq_false_iff_ne.2 hne]
      exact ih hdistinct hmem

theorem mem_of_lookup (h : l.lookup name = some b) : (name, b) ∈ l := by
  obtain ⟨l₁, l₂, rfl, -⟩ := List.lookup_eq_some_iff.1 h
  exact List.mem_append_right _ List.mem_cons_self

theorem lookup_isSome_iff : (l.lookup name).isSome = true ↔ name ∈ l.map Prod.fst := by
  simp [List.lookup_isSome_iff]

theorem lookup_eq_of_perm (hdistinct : (l.map Prod.fst).Nodup) (h : l.Perm l') (name : String) :
    l.lookup name = l'.lookup name := by
  have hdistinct' : (l'.map Prod.fst).Nodup := (h.map Prod.fst).nodup_iff.1 hdistinct
  ext b
  constructor
  · intro hb
    exact lookup_of_mem hdistinct' (h.mem_iff.1 (mem_of_lookup hb))
  · intro hb
    exact lookup_of_mem hdistinct (h.mem_iff.2 (mem_of_lookup hb))

theorem find?_of_mem {α κ : Type} [DecidableEq κ] {key : α → κ} {l : List α} {a : α}
    (hdistinct : (l.map key).Nodup) (h : a ∈ l) : l.find? (key · = key a) = some a := by
  have hsome : (l.find? (key · = key a)).isSome = true :=
    List.find?_isSome.2 ⟨a, h, decide_eq_true rfl⟩
  obtain ⟨b, hb⟩ := Option.isSome_iff_exists.1 hsome
  have hkey := List.find?_some hb
  rw [hb, List.inj_on_of_nodup_map hdistinct (List.mem_of_find?_eq_some hb) h
    (of_decide_eq_true hkey)]

end NotebookGoto.Text
