/-!
# Parts of a list

What follows a prefix, what precedes a suffix, and whether one list occurs inside another:
`afterPrefix? p s = some r` says that `s` is `p` followed by `r`, `beforeSuffix? p s = some r`
that it is `r` followed by `p`, and `occurs p s` that `p` stands somewhere in `s`.
-/

namespace NotebookGoto.Text

/-- What follows a prefix. -/
def afterPrefix? {α : Type} [DecidableEq α] : List α → List α → Option (List α)
  | [], s => some s
  | c :: p, d :: s => if c = d then afterPrefix? p s else none
  | _ :: _, [] => none

theorem afterPrefix?_eq_some_iff {α : Type} [DecidableEq α] {p s r : List α} :
    afterPrefix? p s = some r ↔ s = p ++ r := by
  fun_induction afterPrefix? p s with
  | case1 s => simp
  | case2 p d s ih => simpa using ih
  | case3 c p d s h => simp [h, eq_comm]
  | case4 => simp

theorem afterPrefix?_eq_none_iff {α : Type} [DecidableEq α] {p s : List α} :
    afterPrefix? p s = none ↔ ¬ p <+: s := by
  rw [Option.eq_none_iff_forall_ne_some]
  constructor
  · rintro h ⟨r, rfl⟩
    exact h r (afterPrefix?_eq_some_iff.2 rfl)
  · intro h r e
    exact h ⟨r, (afterPrefix?_eq_some_iff.1 e).symm⟩

/-- A prefix does not reach over an element that it does not hold. -/
theorem afterPrefix?_append_cons {α : Type} [DecidableEq α] {sep : α} {p : List α} (h : sep ∉ p)
    (s t : List α) : afterPrefix? p (s ++ sep :: t) = (afterPrefix? p s).map (· ++ sep :: t) := by
  induction p generalizing s with
  | nil => rfl
  | cons c p ih =>
    have hc : c ≠ sep := fun e => h (e ▸ List.mem_cons_self)
    cases s with
    | nil => simp [afterPrefix?, hc]
    | cons d s =>
      rw [List.cons_append, afterPrefix?, afterPrefix?, ih fun hp => h (List.mem_cons_of_mem c hp)]
      split <;> rfl

/-- What precedes a suffix. -/
def beforeSuffix? {α : Type} [DecidableEq α] (p s : List α) : Option (List α) :=
  (afterPrefix? p.reverse s.reverse).map List.reverse

theorem beforeSuffix?_eq_some_iff {α : Type} [DecidableEq α] {p s r : List α} :
    beforeSuffix? p s = some r ↔ s = r ++ p := by
  rw [beforeSuffix?, Option.map_eq_some_iff]
  constructor
  · rintro ⟨t, h, rfl⟩
    have := congrArg List.reverse (afterPrefix?_eq_some_iff.1 h)
    simpa using this
  · rintro rfl
    exact ⟨r.reverse, afterPrefix?_eq_some_iff.2 (by simp), by simp⟩

/-- Whether a list occurs inside another as one piece. -/
def occurs {α : Type} [BEq α] (p : List α) : List α → Bool
  | [] => p.isEmpty
  | c :: s => p.isPrefixOf (c :: s) || occurs p s

theorem occurs_iff {α : Type} [BEq α] [LawfulBEq α] {p s : List α} :
    occurs p s ↔ p <:+: s := by
  induction s with
  | nil => simp [occurs, List.infix_nil]
  | cons c s ih => simp [occurs, ih, List.infix_cons_iff]

/-! ## Joined lists -/

/-- Where nothing becomes nothing a list does not get shorter. -/
theorem length_le_length_flatMap {α β : Type} {f : α → List β} (h : ∀ a, f a ≠ []) (s : List α) :
    s.length ≤ (s.flatMap f).length := by
  induction s with
  | nil => exact Nat.le_refl 0
  | cons a s ih =>
    have ha := List.length_pos_iff.2 (h a)
    rw [List.flatMap_cons, List.length_append, List.length_cons]
    omega

theorem mem_of_mem_intercalate {α : Type} {a : α} {sep : List α} {ls : List (List α)}
    (h : a ∈ sep.intercalate ls) : a ∈ sep ∨ ∃ l ∈ ls, a ∈ l := by
  induction ls with
  | nil => cases h
  | cons l ls ih =>
    cases ls with
    | nil =>
      rw [List.intercalate_singleton] at h
      exact .inr ⟨l, List.mem_cons_self, h⟩
    | cons l' ls =>
      rw [List.intercalate_cons_cons, List.mem_append, List.mem_append] at h
      rcases h with (h | h) | h
      · exact .inr ⟨l, List.mem_cons_self, h⟩
      · exact .inl h
      · rcases ih h with hsep | ⟨k, hk, ha⟩
        · exact .inl hsep
        · exact .inr ⟨k, List.mem_cons_of_mem l hk, ha⟩

/-- What holds of the members of a list and of the separator holds of the joined list. -/
theorem all_intercalate {α : Type} {p : α → Bool} {sep : List α} {ls : List (List α)}
    (hsep : sep.all p = true) (hls : ∀ l ∈ ls, l.all p = true) :
    (sep.intercalate ls).all p = true := by
  rw [List.all_eq_true]
  intro a ha
  rcases mem_of_mem_intercalate ha with ha | ⟨l, hl, ha⟩
  · exact List.all_eq_true.1 hsep a ha
  · exact List.all_eq_true.1 (hls l hl) a ha

theorem mem_intercalate_of_mem {α : Type} {a : α} {l : List α} (sep : List α)
    {ls : List (List α)} (hl : l ∈ ls) (ha : a ∈ l) : a ∈ sep.intercalate ls := by
  induction ls with
  | nil => cases hl
  | cons k ls ih =>
    cases ls with
    | nil =>
      rw [List.intercalate_singleton]
      rwa [List.mem_singleton.1 hl] at ha
    | cons k' ls =>
      rw [List.intercalate_cons_cons]
      rcases List.mem_cons.1 hl with rfl | hl
      · exact List.mem_append_left _ (List.mem_append_left _ ha)
      · exact List.mem_append_right _ (ih hl)

theorem mem_of_mem_splitOn {α : Type} [BEq α] [LawfulBEq α] {a sep : α} {l s : List α}
    (hl : l ∈ s.splitOn sep) (ha : a ∈ l) : a ∈ s := by
  have h := mem_intercalate_of_mem [sep] hl ha
  rwa [List.intercalate_splitOn] at h

/-- Each list that is joined to a first one comes behind a separator. -/
theorem intercalate_cons_eq {α : Type} (sep l : List α) (ls : List (List α)) :
    sep.intercalate (l :: ls) = l ++ ls.flatMap (sep ++ ·) := by
  induction ls generalizing l with
  | nil => rw [List.intercalate_singleton, List.flatMap_nil, List.append_nil]
  | cons k ls ih =>
    rw [List.intercalate_cons_cons, ih, List.flatMap_cons, List.append_assoc, List.append_assoc]

theorem intercalate_append_eq {α : Type} (sep : List α) {ls : List (List α)} (h : ls ≠ [])
    (ls' : List (List α)) :
    sep.intercalate (ls ++ ls') = sep.intercalate ls ++ ls'.flatMap (sep ++ ·) := by
  obtain ⟨l, rest, rfl⟩ := List.exists_cons_of_ne_nil h
  rw [List.cons_append, intercalate_cons_eq, intercalate_cons_eq, List.flatMap_append,
    List.append_assoc]

/-- What joined lists end in. -/
theorem exists_intercalate_concat {α : Type} (sep : List α) (ls : List (List α)) (l : List α) :
    ∃ before, sep.intercalate (ls ++ [l]) = before ++ l := by
  induction ls with
  | nil => exact ⟨[], List.intercalate_singleton⟩
  | cons k ls ih =>
    obtain ⟨before, hbefore⟩ := ih
    have hne : ls ++ [l] ≠ [] := List.append_ne_nil_of_right_ne_nil ls (List.cons_ne_nil l [])
    obtain ⟨k', ls', hcons⟩ := List.exists_cons_of_ne_nil hne
    refine ⟨k ++ sep ++ before, ?_⟩
    rw [List.cons_append, hcons, List.intercalate_cons_cons, ← hcons, hbefore]
    simp

/-- A joined list splits into the parts into which its members split: a separator parts two members
just as it parts what stands around it inside one of them. -/
theorem splitOn_intercalate_flatMap {α : Type} [BEq α] [LawfulBEq α] (sep : α)
    {ls : List (List α)} (h : ls ≠ []) :
    ([sep].intercalate ls).splitOn sep = ls.flatMap (·.splitOn sep) := by
  induction ls with
  | nil => exact absurd rfl h
  | cons l ls ih =>
    cases ls with
    | nil => rw [List.intercalate_singleton, List.flatMap_singleton]
    | cons l' ls =>
      have hjoined : [sep].intercalate (l :: l' :: ls) =
          l ++ sep :: [sep].intercalate (l' :: ls) := by
        rw [List.intercalate_cons_cons, List.append_assoc, List.singleton_append]
      rw [hjoined, List.splitOn_append_cons_self, ih (List.cons_ne_nil l' ls)]
      rfl

end NotebookGoto.Text
