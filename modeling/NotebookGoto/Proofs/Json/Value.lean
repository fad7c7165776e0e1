import NotebookGoto.Json.Value
import NotebookGoto.Proofs.Json.Tokens

/-!
# How tokens build a value

`build` stops at the first complete value and abandons what breaks. For a text that holds one value
and nothing else only two things count: where some tokens lead to (`Step.run`), and that this is a
complete value just when the last of them is reached.

* **`exists_run_of_whole`** and **`readAll_of_run`**: the well-formed values of texts are exactly
  those to which the tokens lead.
* **`Step.run_onto`**: tokens that are a value by themselves put that value into whatever was open
  before them, and close none of it. So a text that is complete by itself does not complete anything
  that stands before it (`run_ne_complete`).
-/

namespace NotebookGoto.Json

/-! ## Going through tokens -/

namespace Step

/-- Where some tokens lead to. No token may follow a complete value. -/
def run (stack : List Frame) (want : Want) : List Token → Step
  | [] => .more stack want
  | t :: ts =>
    match Step.of stack want t with
    | .more stack want => run stack want ts
    | .complete v => if ts = [] then .complete v else .fault
    | .fault => .fault

/-- Some tokens complete a value if the first of them leads on to where the others do so, or if it
does so itself and is the only one. -/
theorem run_cons_eq_complete_iff {stack : List Frame} {want : Want} {t : Token} {ts : List Token}
    {v : Json} :
    run stack want (t :: ts) = .complete v ↔
      (∃ stack' want', Step.of stack want t = .more stack' want' ∧
        run stack' want' ts = .complete v) ∨
      Step.of stack want t = .complete v ∧ ts = [] := by
  rw [run]
  cases Step.of stack want t with
  | more stack' want' => simp [and_assoc]
  | complete w => by_cases hts : ts = [] <;> simp [hts]
  | fault => simp

theorem run_cons_eq_more_iff {stack stack'' : List Frame} {want want'' : Want} {t : Token}
    {ts : List Token} :
    run stack want (t :: ts) = .more stack'' want'' ↔
      ∃ stack' want', Step.of stack want t = .more stack' want' ∧
        run stack' want' ts = .more stack'' want'' := by
  rw [run]
  cases Step.of stack want t with
  | more stack' want' => simp [and_assoc]
  | complete w => by_cases hts : ts = [] <;> simp [hts]
  | fault => simp

/-- What follows some tokens goes on where they lead to. -/
theorem run_append (stack : List Frame) (want : Want) (ts us : List Token) :
    run stack want (ts ++ us) =
      match run stack want ts with
      | .more stack want => run stack want us
      | .complete v => if us = [] then .complete v else .fault
      | .fault => .fault := by
  induction ts generalizing stack want with
  | nil => rfl
  | cons t ts ih =>
    rw [List.cons_append, run, run]
    cases Step.of stack want t with
    | more stack' want' => exact ih stack' want'
    | complete v =>
      by_cases hts : ts = []
      · simp [hts]
      · simp [hts]
    | fault => rfl

/-- Where a text breaks there is no value. -/
theorem of_broken (stack : List Frame) (want : Want) : Step.of stack want .broken = .fault := by
  cases want <;> first | rfl | (cases stack with | nil => rfl | cons f _ => cases f <;> rfl)

theorem broken_not_mem_of_run {stack : List Frame} {want : Want} {ts : List Token} {v : Json}
    (h : run stack want ts = .complete v) : .broken ∉ ts := by
  induction ts generalizing stack want with
  | nil => exact List.not_mem_nil
  | cons t ts ih =>
    have ht : .broken ≠ t := by
      rintro rfl
      rw [run, of_broken] at h
      cases h
    rcases run_cons_eq_complete_iff.1 h with ⟨_, _, -, hrest⟩ | ⟨-, rfl⟩
    · exact List.not_mem_cons_of_ne_of_not_mem ht (ih hrest)
    · exact List.not_mem_cons_of_ne_of_not_mem ht List.not_mem_nil

/-! ## What is open below -/

/-- A step with more frames below its own. What it completes goes into them. -/
def onto (base : List Frame) : Step → Step
  | .more stack want => .more (stack ++ base) want
  | .complete v => put v base
  | .fault => .fault

theorem put_append (v : Json) (stack base : List Frame) :
    put v (stack ++ base) = (put v stack).onto base := by
  cases stack with
  | nil => rfl
  | cons f stack => cases f <;> rfl

/-- **Frames below do not matter.** A token does the same on top of them, where there are frames of
its own or a value has to come. -/
theorem of_append {stack : List Frame} {want : Want} (base : List Frame) (t : Token)
    (h : stack = [] → want = .value) :
    Step.of (stack ++ base) want t = (Step.of stack want t).onto base := by
  have hvalue : value (stack ++ base) t = (value stack t).onto base := by
    cases t with
    | opening b => cases b <;> rfl
    | null | bool | number | string => exact put_append _ stack base
    | _ => rfl
  cases stack with
  | nil => rw [h rfl]; exact hvalue
  | cons f stack =>
    have hclose (b : Bracket) :
        close b (f :: stack ++ base) = (close b (f :: stack)).onto base := by
      cases f with
      | member => rfl
      | array done | object done =>
        rw [List.cons_append, close, close]
        split
        · exact put_append _ stack base
        · rfl
    have hkey : key (f :: stack ++ base) t = (key (f :: stack) t).onto base := by
      cases f <;> cases t <;> rfl
    have hcomma : comma (f :: stack ++ base) = (comma (f :: stack)).onto base := by
      cases f <;> rfl
    cases want with
    | value => exact hvalue
    | key => exact hkey
    | valueOrEnd => cases t <;> first | exact hclose _ | exact hvalue
    | keyOrEnd => cases t <;> first | exact hclose _ | exact hkey
    | colon => cases t <;> rfl
    | commaOrEnd => cases t <;> first | exact hclose _ | exact hcomma | rfl

/-- A step that leaves something to come leaves a frame open. -/
theorem ne_nil_of_more {stack stack' : List Frame} {want want' : Want} {t : Token}
    (hs : stack = [] → want = .value) (h : Step.of stack want t = .more stack' want') :
    stack' ≠ [] := by
  have hput (v : Json) (s : List Frame) (e : put v s = .more stack' want') : stack' ≠ [] := by
    cases s with
    | nil => cases e
    | cons f s => cases f <;> cases e <;> exact List.cons_ne_nil _ _
  have hvalue (e : value stack t = .more stack' want') : stack' ≠ [] := by
    cases t with
    | opening b => cases b <;> cases e <;> exact List.cons_ne_nil _ _
    | null | bool | number | string => exact hput _ _ e
    | _ => cases e
  have hclose (b : Bracket) (e : close b stack = .more stack' want') : stack' ≠ [] := by
    cases stack with
    | nil => cases e
    | cons f s =>
      cases f with
      | member => cases e
      | array done | object done =>
        rw [close] at e
        split at e
        · exact hput _ _ e
        · cases e
  have hkey (e : key stack t = .more stack' want') : stack' ≠ [] := by
    cases stack with
    | nil => cases e
    | cons f s =>
      cases f with
      | object done =>
        cases t with
        | string u => cases e; exact List.cons_ne_nil _ _
        | _ => cases e
      | array | member => cases t <;> cases e
  have hcomma (e : comma stack = .more stack' want') : stack' ≠ [] := by
    cases stack with
    | nil => cases e
    | cons f s => cases f <;> cases e <;> exact List.cons_ne_nil _ _
  cases want with
  | value => exact hvalue h
  | key => exact hkey h
  | valueOrEnd => cases t <;> first | exact hclose _ h | exact hvalue h
  | keyOrEnd => cases t <;> first | exact hclose _ h | exact hkey h
  | colon =>
    cases t with
    | colon =>
      cases h
      exact fun e => nomatch hs e
    | _ => cases h
  | commaOrEnd => cases t <;> first | exact hclose _ h | exact hcomma h | cases h

/-- Tokens that leave something to come leave a frame open. -/
theorem ne_nil_of_run {stack stack' : List Frame} {want want' : Want} {ts : List Token}
    (hs : stack = [] → want = .value) (hts : ts ≠ [])
    (h : run stack want ts = .more stack' want') : stack' ≠ [] := by
  induction ts generalizing stack want with
  | nil => exact absurd rfl hts
  | cons t ts ih =>
    obtain ⟨s, w, hstep, hrest⟩ := run_cons_eq_more_iff.1 h
    have hne : s ≠ [] := ne_nil_of_more hs hstep
    by_cases hnil : ts = []
    · subst hnil
      cases hrest
      exact hne
    · exact ih (fun e => absurd e hne) hnil hrest

/-- **A value goes into what is open.** Tokens that are a value by themselves do the same on top of
some frames, up to the last of them, which puts the value there. -/
theorem run_onto {stack : List Frame} {want : Want} {ts : List Token} {v : Json}
    (base : List Frame) (hs : stack = [] → want = .value)
    (h : run stack want ts = .complete v) : run (stack ++ base) want ts = put v base := by
  induction ts generalizing stack want with
  | nil => cases h
  | cons t ts ih =>
    rw [run, of_append base t hs]
    rcases run_cons_eq_complete_iff.1 h with ⟨stack', want', hstep, hrest⟩ | ⟨hstep, rfl⟩
    · rw [hstep]
      exact ih (fun e => absurd e (ne_nil_of_more hs hstep)) hrest
    · rw [hstep, onto]
      cases put v base <;> rfl

/-- Before an opening mark a value has to come. -/
theorem of_opening (stack : List Frame) (want : Want) (b : Bracket) :
    Step.of stack want (.opening b) = Step.of stack .value (.opening b) ∨
      Step.of stack want (.opening b) = .fault := by
  cases want with
  | value | valueOrEnd => exact .inl rfl
  | key | keyOrEnd =>
    right
    cases stack with
    | nil => rfl
    | cons f _ => cases f <;> rfl
  | colon | commaOrEnd => exact .inr rfl

/-- **Nothing before a value makes it another one.** Tokens before those of an array or an object
are never completed by them: what they left open stays open. -/
theorem run_ne_complete {ts us : List Token} {b : Bracket} {v : Json} (hts : ts ≠ [])
    (h : run [] .value (.opening b :: us) = .complete v) (w : Json) :
    run [] .value (ts ++ .opening b :: us) ≠ .complete w := by
  rw [run_append]
  cases hrun : run [] .value ts with
  | fault => exact nofun
  | complete x =>
    dsimp only
    rw [if_neg (List.cons_ne_nil _ _)]
    exact nofun
  | more stack want =>
    have hput : run stack .value (.opening b :: us) = put v stack :=
      run_onto stack (fun _ => rfl) h
    have hne : put v stack ≠ .complete w := by
      cases stack with
      | nil => exact absurd rfl (ne_nil_of_run (fun _ => rfl) hts hrun)
      | cons f s => cases f <;> exact nofun
    show run stack want (.opening b :: us) ≠ .complete w
    rcases of_opening stack want b with heq | hfault
    · rw [run] at hput ⊢
      rw [heq, hput]
      exact hne
    · rw [run, hfault]
      exact nofun

end Step

/-! ## Values of whole texts -/

/-- What is abandoned is not well-formed. -/
theorem whole_abandon (stack : List Frame) : (abandon .broken stack).whole = false := by
  have hopen : ∀ (s : List Frame) (v : Json), v.whole = false → (abandon v s).whole = false := by
    intro s
    induction s with
    | nil => exact fun _ h => h
    | cons f s ih => cases f <;> exact fun _ _ => ih _ rfl
  exact hopen stack .broken rfl

/-- Where some tokens complete a value, it is the one that is built, and the rest is left over. -/
theorem build_append_of_run {stack : List Frame} {want : Want} {ts : List Token} {v : Json}
    (h : Step.run stack want ts = .complete v) (rest : List Token) :
    build stack want (ts ++ rest) = (v, rest) := by
  induction ts generalizing stack want with
  | nil => cases h
  | cons t ts ih =>
    rw [List.cons_append, build]
    rcases Step.run_cons_eq_complete_iff.1 h with ⟨stack', want', hstep, hrest⟩ | ⟨hstep, rfl⟩
    · rw [hstep]
      exact ih hrest
    · rw [hstep]
      rfl

theorem build_of_run {stack : List Frame} {want : Want} {ts : List Token} {v : Json}
    (h : Step.run stack want ts = .complete v) : build stack want ts = (v, []) := by
  have hbuild := build_append_of_run h []
  rwa [List.append_nil] at hbuild

/-- A well-formed value that is built is completed by the tokens before those that are left over. -/
theorem exists_run_of_build {stack : List Frame} {want : Want} {ts rest : List Token} {v : Json}
    (h : build stack want ts = (v, rest)) (hv : v.whole = true) :
    ∃ us, ts = us ++ rest ∧ Step.run stack want us = .complete v := by
  induction ts generalizing stack want with
  | nil =>
    cases h
    rw [whole_abandon] at hv
    cases hv
  | cons t ts ih =>
    rw [build] at h
    cases hstep : Step.of stack want t with
    | more stack' want' =>
      rw [hstep] at h
      obtain ⟨us, rfl, hrun⟩ := ih h
      refine ⟨t :: us, rfl, ?_⟩
      rw [Step.run, hstep]
      exact hrun
    | complete w =>
      rw [hstep] at h
      cases h
      refine ⟨[t], rfl, ?_⟩
      rw [Step.run, hstep]
      rfl
    | fault =>
      rw [hstep] at h
      cases h
      rw [whole_abandon] at hv
      cases hv

theorem readAll_of_run {s : Symbols} {v : Json}
    (h : Step.run [] .value (tokens s) = .complete v) : readAll s = v := by
  rw [readAll, read, build_of_run h]

/-- **The value of a well-formed text** is what its tokens lead to. -/
theorem exists_run_of_whole {s : Symbols} (h : (readAll s).whole = true) :
    Step.run [] .value (tokens s) = .complete (readAll s) := by
  unfold readAll read at h ⊢
  rcases hb : build [] .value (tokens s) with ⟨v, _ | ⟨t, ts⟩⟩
  · rw [hb] at h
    obtain ⟨us, htokens, hrun⟩ := exists_run_of_build hb h
    rwa [htokens, List.append_nil]
  · rw [hb] at h
    cases h

/-- The value of a text depends on its tokens only. -/
theorem readAll_congr {s s' : Symbols} (h : tokens s = tokens s') : readAll s = readAll s' := by
  rw [readAll, readAll, read, read, h]

end NotebookGoto.Json
