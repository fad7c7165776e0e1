import NotebookGoto.Proofs.Json.Value

/-!
# Values inside values

Tokens that are a value by themselves put it into the array or the object that is open
(`Step.run_item`, `Step.run_member`), so the tokens of an array lead to the array of the items'
values, and those of an object to the object with the members' values (`Step.run_arrayTokens`,
`Step.run_objectTokens`).

* **`IsValue`**: the grammar of values, over tokens.
* **`IsValue.isComplete`**: whatever follows this grammar is read up to its end.
-/

namespace NotebookGoto.Json

/-- The tokens of an array, by those of its items. -/
def arrayTokens (items : List (List Token)) : List Token :=
  .opening .square :: [.comma].intercalate items ++ [.closing .square]

/-- The tokens of a member of an object, by its key with the tokens of its value. -/
def memberTokens (m : Symbols × List Token) : List Token :=
  .string m.1 :: .colon :: m.2

/-- The tokens of an object, by its members. -/
def objectTokens (members : List (Symbols × List Token)) : List Token :=
  .opening .brace :: [.comma].intercalate (members.map memberTokens) ++ [.closing .brace]

/-- What holds of all tokens of the members holds of an object between its braces. -/
theorem all_members {p : Token → Bool} {members : List (Symbols × List Token)}
    (hcomma : p .comma = true) (hcolon : p .colon = true)
    (h : ∀ m ∈ members, p (.string m.1) = true ∧ m.2.all p = true) :
    ([.comma].intercalate (members.map memberTokens)).all p = true := by
  refine Text.all_intercalate (by simp [hcomma]) (List.forall_mem_map.2 fun m hm => ?_)
  rw [memberTokens, List.all_cons, List.all_cons, (h m hm).1, hcolon, (h m hm).2]
  rfl

/-- The value that some tokens start with. -/
def valueOf (ts : List Token) : Json :=
  (build [] .value ts).1

/-- Whether some tokens are a value and no more. -/
def IsComplete (ts : List Token) : Prop :=
  Step.run [] .value ts = .complete (valueOf ts)

theorem isComplete_of_run {ts : List Token} {v : Json} (h : Step.run [] .value ts = .complete v) :
    IsComplete ts := by
  rw [IsComplete, valueOf, build_of_run h, h]

theorem valueOf_of_run {ts : List Token} {v : Json} (h : Step.run [] .value ts = .complete v) :
    valueOf ts = v := by
  rw [valueOf, build_of_run h]

namespace Step

variable {stack : List Frame} {want : Want} {ts : List Token}

/-! ## Arrays -/

/-- What can be a value by itself does not close an array. -/
theorem run_valueOrEnd (h : IsComplete ts) (stack : List Frame) :
    run stack .valueOrEnd ts = run stack .value ts := by
  cases ts with
  | nil => cases h
  | cons t ts =>
    have ht : Step.of stack .valueOrEnd t = Step.of stack .value t := by
      cases t with
      | closing b => cases h
      | _ => rfl
    rw [run, run, ht]

/-- **A value is one more item** of the array that is open. -/
theorem run_item (hwant : want = .value ∨ want = .valueOrEnd) (h : IsComplete ts)
    (done : List Json) (stack : List Frame) (us : List Token) :
    run (.array done :: stack) want (ts ++ us) =
      run (.array (valueOf ts :: done) :: stack) .commaOrEnd us := by
  have hput : run (.array done :: stack) .value ts =
      .more (.array (valueOf ts :: done) :: stack) .commaOrEnd :=
    run_onto (.array done :: stack) (fun _ => rfl) h
  have hitem : run (.array done :: stack) want ts =
      .more (.array (valueOf ts :: done) :: stack) .commaOrEnd := by
    rcases hwant with rfl | rfl
    · exact hput
    · rw [run_valueOrEnd h, hput]
  rw [run_append, hitem]

theorem run_items (hwant : want = .value ∨ want = .valueOrEnd) {items : List (List Token)}
    (h : ∀ item ∈ ts :: items, IsComplete item) (done : List Json) (stack : List Frame)
    (us : List Token) :
    run (.array done :: stack) want ([.comma].intercalate (ts :: items) ++ us) =
      run (.array (((ts :: items).map valueOf).reverse ++ done) :: stack) .commaOrEnd us := by
  have hfirst : IsComplete ts := h ts List.mem_cons_self
  induction items generalizing ts want done with
  | nil =>
    rw [List.intercalate_singleton, run_item hwant hfirst]
    rfl
  | cons item items ih =>
    have hcomma (done : List Json) (vs : List Token) :
        run (.array done :: stack) .commaOrEnd (.comma :: vs) =
          run (.array done :: stack) .value vs :=
      rfl
    have hrest : ∀ other ∈ item :: items, IsComplete other := fun other hother =>
      h other (List.mem_cons_of_mem _ hother)
    -- Behind a comma the array cannot be closed any more.
    rw [List.intercalate_cons_cons, List.append_assoc, List.append_assoc, run_item hwant hfirst,
      List.singleton_append, hcomma, ih (.inl rfl) hrest _ (hrest item List.mem_cons_self)]
    simp

/-- **The tokens of an array lead to the array of its items.** -/
theorem run_arrayTokens {items : List (List Token)} (h : ∀ item ∈ items, IsComplete item) :
    run [] .value (arrayTokens items) = .complete (.array (items.map valueOf) true) := by
  show run [.array []] .valueOrEnd ([.comma].intercalate items ++ [.closing .square]) = _
  cases items with
  | nil => rfl
  | cons item items =>
    have hclose (done : List Json) :
        run [.array done] .commaOrEnd [.closing .square] = .complete (.array done.reverse true) :=
      rfl
    rw [run_items (.inr rfl) h, hclose, List.append_nil, List.reverse_reverse]

/-! ## Objects -/

/-- **A key with a value is one more member** of the object that is open. -/
theorem run_member (hwant : want = .key ∨ want = .keyOrEnd) {m : Symbols × List Token}
    (h : IsComplete m.2) (done : List (Symbols × Json)) (stack : List Frame) (us : List Token) :
    run (.object done :: stack) want (memberTokens m ++ us) =
      run (.object ((m.1, valueOf m.2) :: done) :: stack) .commaOrEnd us := by
  have hput : run (.member done m.1 :: stack) .value m.2 =
      .more (.object ((m.1, valueOf m.2) :: done) :: stack) .commaOrEnd :=
    run_onto (.member done m.1 :: stack) (fun _ => rfl) h
  have hkey : run (.object done :: stack) want (memberTokens m ++ us) =
      run (.member done m.1 :: stack) .value (m.2 ++ us) := by
    rcases hwant with rfl | rfl <;> rfl
  rw [hkey, run_append, hput]

theorem run_members (hwant : want = .key ∨ want = .keyOrEnd) {m : Symbols × List Token}
    {members : List (Symbols × List Token)} (h : ∀ m' ∈ m :: members, IsComplete m'.2)
    (done : List (Symbols × Json)) (stack : List Frame) (us : List Token) :
    run (.object done :: stack) want
        ([.comma].intercalate ((m :: members).map memberTokens) ++ us) =
      run (.object (((m :: members).map fun m => (m.1, valueOf m.2)).reverse ++ done) :: stack)
        .commaOrEnd us := by
  have hfirst : IsComplete m.2 := h m List.mem_cons_self
  induction members generalizing m want done with
  | nil =>
    rw [List.map_singleton, List.map_singleton, List.intercalate_singleton, run_member hwant hfirst]
    rfl
  | cons m' members ih =>
    have hcomma (done : List (Symbols × Json)) (vs : List Token) :
        run (.object done :: stack) .commaOrEnd (.comma :: vs) =
          run (.object done :: stack) .key vs :=
      rfl
    have hrest : ∀ other ∈ m' :: members, IsComplete other.2 := fun other hother =>
      h other (List.mem_cons_of_mem _ hother)
    -- Behind a comma a key has to come, whatever was wanted before the first member.
    rw [List.map_cons, List.map_cons, List.intercalate_cons_cons, List.append_assoc,
      List.append_assoc, run_member hwant hfirst, List.singleton_append, hcomma, ← List.map_cons,
      ih (.inl rfl) hrest _ (hrest m' List.mem_cons_self)]
    simp

/-- **The tokens of an object lead to the object with its members.** -/
theorem run_objectTokens {members : List (Symbols × List Token)}
    (h : ∀ m ∈ members, IsComplete m.2) :
    run [] .value (objectTokens members) =
      .complete (.object (members.map fun m => (m.1, valueOf m.2)) true) := by
  show run [.object []] .keyOrEnd
    ([.comma].intercalate (members.map memberTokens) ++ [.closing .brace]) = _
  cases members with
  | nil => rfl
  | cons m members =>
    have hclose (done : List (Symbols × Json)) :
        run [.object done] .commaOrEnd [.closing .brace] =
          .complete (.object done.reverse true) :=
      rfl
    rw [run_members (.inr rfl) h, hclose, List.append_nil, List.reverse_reverse]

end Step

/-! ## The grammar of values -/

/-- Tokens that are a value. Numbers of any size, strings with any code units, keys that occur twice
and any depth are all right here. -/
inductive IsValue : List Token → Prop where
  | null : IsValue [.null]
  | bool (b : Bool) : IsValue [.bool b]
  | number (n : Number) : IsValue [.number n]
  | string (s : Symbols) : IsValue [.string s]
  | array {items : List (List Token)} (h : ∀ item ∈ items, IsValue item) :
    IsValue (arrayTokens items)
  | object {members : List (Symbols × List Token)} (h : ∀ m ∈ members, IsValue m.2) :
    IsValue (objectTokens members)

/-- **Whatever follows the grammar is a value** that is read up to its end. -/
theorem IsValue.isComplete {ts : List Token} (h : IsValue ts) :
    IsComplete ts ∧ (valueOf ts).whole = true := by
  induction h with
  | null | bool | number | string => exact ⟨rfl, rfl⟩
  | array h ih =>
    have hrun := Step.run_arrayTokens fun item hitem => (ih item hitem).1
    exact ⟨isComplete_of_run hrun, by rw [valueOf_of_run hrun]; rfl⟩
  | object h ih =>
    have hrun := Step.run_objectTokens fun m hm => (ih m hm).1
    exact ⟨isComplete_of_run hrun, by rw [valueOf_of_run hrun]; rfl⟩

end NotebookGoto.Json
