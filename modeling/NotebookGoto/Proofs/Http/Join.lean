import NotebookGoto.Proofs.Http.Segments

/-!
# Joining parts to a path

A part adds its segments to a path and nothing else: the slashes at its ends are lost, and a part of
nothing but slashes is left out. So parts may be joined in groups, and the groups again. Empty
segments inside a part stay, as slashes that stand next to each other, but none come about by
joining.

* **`trimSlashes_join`**: what is between the slashes at the ends of a path.
* **`pieces_join`**: the segments of a path.
* **`join_regroups_segments`**: joining in groups, and what a path is made of.
-/

namespace NotebookGoto.Http.Route

open Text

/-! ## The parts and the slash at the end -/

/-- Whether the last part ends in a slash. -/
def asksForSlash (parts : List (List Char)) : Bool :=
  (parts.getLast?.map endsInSlash).getD false

/-- A text behind a slash, with another slash behind it where one is asked for and none is there. -/
def between (slash : Bool) (s : List Char) : List Char :=
  if slash && !endsInSlash ('/' :: s) then '/' :: s ++ ['/'] else '/' :: s

theorem join_eq_between (parts : List (List Char)) :
    join parts = between (asksForSlash parts) (['/'].intercalate (kept parts)) := rfl

/-- A text that may be left of a part. -/
structure IsBare (s : List Char) : Prop where
  ne_nil : s ≠ []
  head : s.head? ≠ some '/'
  last : s.getLast? ≠ some '/'

theorem isBare_of_mem_kept {parts : List (List Char)} : ∀ s ∈ kept parts, IsBare s := by
  intro s hs
  unfold kept at hs
  obtain ⟨hmem, hne⟩ := List.mem_filter.1 hs
  obtain ⟨p, -, rfl⟩ := List.mem_map.1 hmem
  refine ⟨of_decide_eq_true hne, fun hhead => ?_, fun hlast => ?_⟩
  · exact not_of_head?_trimBy hhead (decide_eq_true rfl)
  · exact not_of_getLast?_trimBy hlast (decide_eq_true rfl)

theorem isBare_intercalate {ls : List (List Char)} (hls : ∀ s ∈ ls, IsBare s) (hne : ls ≠ []) :
    IsBare (['/'].intercalate ls) := by
  obtain ⟨s, rest, rfl⟩ := List.exists_cons_of_ne_nil hne
  have hs : IsBare s := hls s List.mem_cons_self
  have hfront : ['/'].intercalate (s :: rest) = s ++ rest.flatMap (['/'] ++ ·) :=
    intercalate_cons_eq ['/'] s rest
  refine ⟨?_, ?_, ?_⟩
  · rw [hfront]
    exact List.append_ne_nil_of_left_ne_nil hs.ne_nil _
  · rw [hfront, List.head?_append_of_ne_nil _ hs.ne_nil]
    exact hs.head
  · -- The end is that of the last member, which is split off from the other side.
    obtain ⟨front, t, hsplit⟩ := List.eq_nil_or_concat (s :: rest) |>.resolve_left hne
    rw [List.concat_eq_append] at hsplit
    have ht : IsBare t := hls t (hsplit ▸ List.mem_append_right _ List.mem_cons_self)
    obtain ⟨before, hbefore⟩ := exists_intercalate_concat ['/'] front t
    rw [hsplit, hbefore, List.getLast?_append_of_ne_nil _ ht.ne_nil]
    exact ht.last

theorem head?_intercalate_kept (parts : List (List Char)) :
    (['/'].intercalate (kept parts)).head? ≠ some '/' := by
  by_cases hnil : kept parts = []
  · rw [hnil]
    exact nofun
  · exact (isBare_intercalate isBare_of_mem_kept hnil).head

/-- Behind the first slash another one ends the text only if nothing is left of the parts. -/
theorem endsInSlash_cons_intercalate_kept (parts : List (List Char)) :
    endsInSlash ('/' :: ['/'].intercalate (kept parts)) = true ↔ kept parts = [] := by
  constructor
  · intro hends
    by_contra hnil
    have hbare := isBare_intercalate isBare_of_mem_kept hnil
    rw [← List.singleton_append, endsInSlash,
      List.getLast?_append_of_ne_nil _ hbare.ne_nil] at hends
    exact hbare.last (of_decide_eq_true hends)
  · intro hnil
    rw [hnil]
    decide

theorem kept_eq_nil_iff {parts : List (List Char)} :
    kept parts = [] ↔ ∀ p ∈ parts, ∀ c ∈ p, c = '/' := by
  unfold kept
  rw [List.filter_eq_nil_iff, List.forall_mem_map]
  refine forall₂_congr fun p _ => ?_
  rw [decide_eq_true_iff, not_not]
  constructor
  · intro hnil c hc
    by_contra hslash
    have hkept : c ∈ trimSlashes p := mem_trimBy_of_mem hc (by simpa using hslash)
    rw [hnil] at hkept
    cases hkept
  · intro hall
    have hp : p.all (· = '/') = true := by simpa using hall
    show trimBy (· = '/') p = []
    rw [trimBy, dropWhile_of_all hp]
    rfl

/-! ## Joining in groups -/

theorem endsInSlash_between (slash : Bool) (s : List Char) :
    endsInSlash (between slash s) = (slash || endsInSlash ('/' :: s)) := by
  unfold between
  split
  · rename_i hadd
    rw [(Bool.and_eq_true_iff.1 hadd).1, Bool.true_or, endsInSlash, List.getLast?_concat]
    rfl
  · rename_i hnot
    cases slash with
    | false => rw [Bool.false_or]
    | true => simpa using hnot

theorem between_endsInSlash_between (slash : Bool) (s : List Char) :
    between (endsInSlash (between slash s)) s = between slash s := by
  rw [endsInSlash_between]
  unfold between
  cases slash <;> cases hends : endsInSlash ('/' :: s) <;> simp

theorem exists_join_eq (parts : List (List Char)) :
    ∃ slashes, join parts = ['/'] ++ (['/'].intercalate (kept parts) ++ slashes) ∧
      slashes.all (· = '/') = true := by
  rw [join_eq_between, between]
  split
  · exact ⟨['/'], rfl, by decide⟩
  · exact ⟨[], by rw [List.append_nil]; rfl, rfl⟩

/-- **Between the slashes at its ends** a path is what was left of its parts. -/
theorem trimSlashes_join (parts : List (List Char)) :
    trimSlashes (join parts) = ['/'].intercalate (kept parts) := by
  obtain ⟨slashes, hjoin, hslashes⟩ := exists_join_eq parts
  rw [hjoin]
  refine trimBy_between (by decide) hslashes (fun c hc => ?_) (fun c hc => ?_)
  · have hslash : c ≠ '/' := fun e => head?_intercalate_kept parts (e ▸ hc)
    simpa using hslash
  · have hne : kept parts ≠ [] := by
      intro hnil
      rw [hnil] at hc
      cases hc
    have hslash : c ≠ '/' := fun e => (isBare_intercalate isBare_of_mem_kept hne).last (e ▸ hc)
    simpa using hslash

theorem intercalate_kept_join (a b : List (List Char)) :
    ['/'].intercalate (kept (join a :: b)) = ['/'].intercalate (kept (a ++ b)) := by
  rw [show join a :: b = [join a] ++ b from rfl, kept_append, kept_append]
  -- A group of which nothing is left is a part of slashes alone, and left out like the others.
  by_cases hnil : kept a = []
  · have hnone : trimSlashes (join a) = [] := by
      rw [trimSlashes_join, hnil]
      rfl
    rw [hnil, show kept [join a] = [] by simp [kept, hnone]]
  · have hne := (isBare_intercalate isBare_of_mem_kept hnil).ne_nil
    rw [kept_singleton (by rwa [trimSlashes_join]), trimSlashes_join, List.singleton_append,
      intercalate_cons_eq, intercalate_append_eq ['/'] hnil]

/-- **Parts may be joined in groups.** -/
theorem join_join_cons (a b : List (List Char)) : join (join a :: b) = join (a ++ b) := by
  rw [join_eq_between, join_eq_between (a ++ b), intercalate_kept_join]
  -- With nothing behind the group, the slash at its end is what asks for one.
  by_cases hb : b = []
  · rw [hb, List.append_nil]
    show between (endsInSlash (join a)) _ = _
    rw [join_eq_between, between_endsInSlash_between]
  · have hlast : asksForSlash (join a :: b) = asksForSlash (a ++ b) := by
      unfold asksForSlash
      rw [← List.singleton_append, List.getLast?_append_of_ne_nil _ hb,
        List.getLast?_append_of_ne_nil _ hb]
    rw [hlast]

/-! ## Segments -/

/-- The segments of a text, without the empty ones. -/
def pieces (s : List Char) : List (List Char) :=
  (s.splitOn '/').filter (· ≠ [])

@[simp] theorem pieces_nil : pieces [] = [] := by
  simp [pieces]

theorem pieces_append_slash (s t : List Char) : pieces (s ++ '/' :: t) = pieces s ++ pieces t := by
  unfold pieces
  rw [List.splitOn_append_cons_self, List.filter_append]

@[simp] theorem pieces_cons_slash (s : List Char) : pieces ('/' :: s) = pieces s := by
  simpa using pieces_append_slash [] s

theorem pieces_slashes_append {slashes : List Char} (h : slashes.all (· = '/') = true)
    (s : List Char) : pieces (slashes ++ s) = pieces s := by
  induction slashes with
  | nil => rfl
  | cons c slashes ih =>
    obtain ⟨hc, hrest⟩ := Bool.and_eq_true_iff.1 (List.all_cons ▸ h)
    rw [of_decide_eq_true hc, List.cons_append, pieces_cons_slash]
    exact ih hrest

theorem pieces_append_slashes {slashes : List Char} (h : slashes.all (· = '/') = true)
    (s : List Char) : pieces (s ++ slashes) = pieces s := by
  cases slashes with
  | nil => rw [List.append_nil]
  | cons c slashes =>
    obtain ⟨hc, hrest⟩ := Bool.and_eq_true_iff.1 (List.all_cons ▸ h)
    have hnone : pieces slashes = [] := by
      simpa using pieces_slashes_append hrest []
    rw [of_decide_eq_true hc, pieces_append_slash, hnone, List.append_nil]

theorem pieces_trimSlashes (s : List Char) : pieces (trimSlashes s) = pieces s := by
  obtain ⟨before, behind, hs, hbefore, hbehind⟩ := exists_trimBy (· = '/') s
  conv_rhs => rw [hs]
  rw [pieces_slashes_append hbefore, pieces_append_slashes hbehind]
  rfl

theorem pieces_intercalate (ls : List (List Char)) :
    pieces (['/'].intercalate ls) = ls.flatMap pieces := by
  by_cases hne : ls = []
  · rw [hne]
    exact pieces_nil
  · unfold pieces
    rw [splitOn_intercalate_flatMap '/' hne, List.filter_flatMap]

theorem flatMap_pieces_kept (parts : List (List Char)) :
    (kept parts).flatMap pieces = parts.flatMap pieces := by
  induction parts with
  | nil => rfl
  | cons p parts ih =>
    rw [show p :: parts = [p] ++ parts from rfl, kept_append, List.flatMap_append, ih,
      List.flatMap_append]
    congr 1
    by_cases hnil : trimSlashes p = []
    · have hnone : pieces p = [] := by rw [← pieces_trimSlashes, hnil, pieces_nil]
      simp [kept, hnil, hnone]
    · simp [kept, hnil, pieces_trimSlashes]

/-- **The segments of a path** are those of its parts, in order. -/
theorem pieces_join (parts : List (List Char)) : pieces (join parts) = parts.flatMap pieces := by
  rw [← pieces_trimSlashes, trimSlashes_join, pieces_intercalate, flatMap_pieces_kept]

/-! ## Slashes next to each other -/

/-- Two slashes next to each other in a joined text stand in one of the two texts, unless one stands
on each side of the joint. -/
theorem double_infix_append {s t : List Char}
    (h : s.getLast? ≠ some '/' ∨ t.head? ≠ some '/') :
    ['/', '/'] <:+: s ++ t ↔ ['/', '/'] <:+: s ∨ ['/', '/'] <:+: t := by
  induction s with
  | nil => simp [List.infix_nil]
  | cons c s ih =>
    rw [List.cons_append, List.infix_cons_iff, List.infix_cons_iff]
    cases s with
    | nil =>
      -- The joint itself is no double slash: one of its sides is another character.
      have hjoint : ¬ ['/', '/'] <+: c :: t := by
        rw [List.cons_prefix_cons]
        rintro ⟨hc, ⟨rest, hrest⟩⟩
        rcases h with hlast | hhead
        · exact hlast (by rw [← hc]; rfl)
        · exact hhead (by rw [← hrest]; rfl)
      simp [hjoint]
    | cons d s =>
      have hfront : ['/', '/'] <+: c :: (d :: s ++ t) ↔ ['/', '/'] <+: c :: d :: s := by
        simp [List.cons_prefix_cons]
      rw [hfront, ih (by simpa using h), or_assoc]

theorem double_infix_intercalate {ls : List (List Char)} (hls : ∀ s ∈ ls, IsBare s) :
    ['/', '/'] <:+: ['/'].intercalate ls ↔ ∃ s ∈ ls, ['/', '/'] <:+: s := by
  induction ls with
  | nil => simp [List.infix_nil]
  | cons s ls ih =>
    cases ls with
    | nil => simp
    | cons t ls =>
      have htail : ∀ u ∈ t :: ls, IsBare u := fun u hu => hls u (List.mem_cons_of_mem s hu)
      have hrest : (['/'].intercalate (t :: ls)).head? ≠ some '/' :=
        (isBare_intercalate htail (List.cons_ne_nil t ls)).head
      have hslash : ¬ ['/', '/'] <:+: ['/'] := fun hinfix => absurd hinfix.length_le (by decide)
      rw [List.intercalate_cons_cons, List.append_assoc,
        double_infix_append (.inl (hls s List.mem_cons_self).last),
        double_infix_append (.inr hrest), ih htail]
      simp [hslash]

/-- No slashes come to stand next to each other by joining. -/
theorem double_infix_join (parts : List (List Char)) :
    ['/', '/'] <:+: join parts ↔ ∃ p ∈ parts, ['/', '/'] <:+: trimSlashes p := by
  have hslash : ¬ ['/', '/'] <:+: ['/'] := fun hinfix => absurd hinfix.length_le (by decide)
  have hjoined : ['/', '/'] <:+: '/' :: ['/'].intercalate (kept parts) ↔
      ∃ s ∈ kept parts, ['/', '/'] <:+: s := by
    show ['/', '/'] <:+: ['/'] ++ ['/'].intercalate (kept parts) ↔ _
    rw [double_infix_append (.inr (head?_intercalate_kept parts)),
      double_infix_intercalate isBare_of_mem_kept]
    simp [hslash]
  have hpath : ['/', '/'] <:+: join parts ↔
      ['/', '/'] <:+: '/' :: ['/'].intercalate (kept parts) := by
    rw [join_eq_between, between]
    split
    · rename_i hends
      have hlast : ('/' :: ['/'].intercalate (kept parts)).getLast? ≠ some '/' := by
        intro hslash'
        simp [endsInSlash, hslash'] at hends
      rw [double_infix_append (.inl hlast)]
      simp [hslash]
    · rfl
  rw [hpath, hjoined]
  constructor
  · rintro ⟨s, hs, hdouble⟩
    obtain ⟨p, hp, rfl⟩ := List.mem_map.1 (List.mem_filter.1 hs).1
    exact ⟨p, hp, hdouble⟩
  · rintro ⟨p, hp, hdouble⟩
    have hne : trimSlashes p ≠ [] := by
      intro hnil
      rw [hnil, List.infix_nil] at hdouble
      cases hdouble
    exact ⟨trimSlashes p, List.mem_filter.2 ⟨List.mem_map_of_mem hp, decide_eq_true hne⟩, hdouble⟩

theorem endsInSlash_join_iff (parts : List (List Char)) :
    endsInSlash (join parts) = true ↔
      (∃ last ∈ parts.getLast?, endsInSlash last = true) ∨ ∀ p ∈ parts, ∀ c ∈ p, c = '/' := by
  rw [join_eq_between, endsInSlash_between, Bool.or_eq_true, endsInSlash_cons_intercalate_kept,
    kept_eq_nil_iff]
  refine or_congr_left ?_
  unfold asksForSlash
  cases parts.getLast? with
  | none => simp
  | some last => simp

/-- **Joining knows no groups, and a path is made of segments.** Parts that are joined in groups
give the path that they give at once. A path starts with a slash, and its segments are those of its
parts, in order. Slashes stand next to each other only where they do inside a part, apart from its
ends. The path ends in a slash where its last part does, or where there is nothing but slashes. -/
theorem join_regroups_segments :
    (∀ a b : List (List Char), join ([join a] ++ b) = join (a ++ b)) ∧
    ∀ parts : List (List Char),
      (join parts).head? = some '/' ∧
      pieces (join parts) = parts.flatMap pieces ∧
      (['/', '/'] <:+: join parts ↔ ∃ p ∈ parts, ['/', '/'] <:+: trimSlashes p) ∧
      (endsInSlash (join parts) = true ↔
        (∃ last ∈ parts.getLast?, endsInSlash last = true) ∨ ∀ p ∈ parts, ∀ c ∈ p, c = '/') := by
  refine ⟨join_join_cons, fun parts => ⟨?_, pieces_join parts, double_infix_join parts,
    endsInSlash_join_iff parts⟩⟩
  obtain ⟨slashes, hjoin, -⟩ := exists_join_eq parts
  rw [hjoin]
  rfl

/-- Slashes around the parts are lost and those inside stay. -/
example : join ["/".toList, "/a//b/".toList, "".toList, "c/".toList] = "/a//b/c/".toList := by
  decide

end NotebookGoto.Http.Route
