import NotebookGoto.Proofs.Http.Admission
import NotebookGoto.Proofs.Json.Prefix
import NotebookGoto.Proofs.Wire

/-!
# What a body says

A site reads a lookup from the head of a body and does not look at what follows it. So a body is
answered with code just when one of its prefixes is a lookup by itself, and that prefix is the only
one.

* **`Site.respond_of_heads`**: a prefix that holds a lookup decides the answer.
* **`Site.respond_of_no_head`**: without one the body is refused as JSON.
* **`Site.posted_answered_by_head`**: both together, and the prefix is unique.
-/

namespace NotebookGoto.Http

open Text

/-- A request with the token that sends a text as JSON, which is not too long. -/
structure Site.Posted (s : Site) (text : List Char) (r : Request) : Prop
    extends s.Asked .code .post r where
  hasJson : r.hasJson = true
  body : r.body = Utf8.encode text
  short : r.body.length ≤ 2097152

namespace Site

variable {s : Site} {r : Request} {text p : List Char} {l : Lookup}

/-- The lookup in a body is the value at the head of its text. -/
theorem Posted.lookup_eq (h : s.Posted text r) :
    r.lookup = (Wire.lookup.read (Json.read (text.map some)).1).mapError .json := by
  have hshort : ¬ Request.bodyLimit < r.body.length := Nat.not_lt.2 h.short
  rw [Request.lookup, h.hasJson, if_neg (by decide), if_neg hshort, h.body, Utf8.decode_encode]

theorem Posted.respond_eq (h : s.Posted text r) : s.respond r = s.render r :=
  respond_of_asked h.toAsked nofun

/-- **A prefix that holds a lookup decides the answer**, whatever follows it. -/
theorem respond_of_heads (h : s.Posted text r) (hp : Wire.lookup.Heads text p l) :
    s.respond r =
      match Template.render s.template l with
      | .ok code => .json 200 (Wire.code.toText code)
      | .error e => .ofError e := by
  have hlookup : r.lookup = .ok l := by
    rw [h.lookup_eq, Json.Format.read_iff_exists_heads.2 ⟨p, hp⟩]
    rfl
  rw [h.respond_eq]
  cases hrender : Template.render s.template l with
  | ok code => simp only [render, hlookup, hrender]
  | error e => simp only [render, hlookup, hrender]

/-- **A body without such a prefix is refused**, with a message that starts in one of two ways. -/
theorem respond_of_no_head (h : s.Posted text r) (hp : ∀ p l, ¬ Wire.lookup.Heads text p l) :
    ∃ fault : Json.Fault,
      s.respond r = .problem 400 ((BodyFault.json fault).message (s.account r.body)) := by
  cases hread : Wire.lookup.read (Json.read (text.map some)).1 with
  | ok l =>
    obtain ⟨p, hheads⟩ := Json.Format.read_iff_exists_heads.1 hread
    exact absurd hheads (hp p l)
  | error fault =>
    have hlookup : r.lookup = .error (.json fault) := by
      rw [h.lookup_eq, hread]
      rfl
    refine ⟨fault, ?_⟩
    rw [h.respond_eq, render, hlookup]

/-- A prefix with a lookup on a line is answered with its code, and one at line zero is refused for
its position. -/
theorem respond_of_heads_of_line (h : s.Posted text r) (hp : Wire.lookup.Heads text p l) :
    (1 ≤ l.line → ∃ code, Template.render s.template l = .ok code ∧
      s.respond r = .json 200 (Wire.code.toText code)) ∧
    (l.line = 0 → s.respond r =
      .problem 400 "invalid cursor position: line 0 (lines are 1-based)") := by
  have hrespond := respond_of_heads h hp
  constructor
  · intro hline
    have hrender := Template.render_eq_ok hline s.template
    rw [hrender] at hrespond
    exact ⟨_, hrender, hrespond⟩
  · intro hline
    rw [Template.render_eq_error hline] at hrespond
    exact hrespond

/-- An answer with code is the answer to a prefix with a lookup on a line. -/
theorem answered_iff_heads (h : s.Posted text r) (code : String) :
    ((s.respond r).status = 200 ∧ Wire.code.ofText? (s.respond r).body = some code) ↔
      ∃ p l, Wire.lookup.Heads text p l ∧ 1 ≤ l.line ∧ Template.render s.template l = .ok code := by
  constructor
  · rintro ⟨hstatus, hbody⟩
    by_cases hno : ∀ p l, ¬ Wire.lookup.Heads text p l
    · obtain ⟨fault, hrespond⟩ := respond_of_no_head h hno
      rw [hrespond] at hstatus
      cases hstatus
    · push Not at hno
      obtain ⟨p, l, hp⟩ := hno
      obtain ⟨hon, hoff⟩ := respond_of_heads_of_line h hp
      have hline : 1 ≤ l.line := by
        by_contra hzero
        rw [one_le_line_iff, not_not] at hzero
        rw [hoff hzero] at hstatus
        cases hstatus
      obtain ⟨code', hrender, hrespond⟩ := hon hline
      rw [hrespond] at hbody
      have hsame : code' = code :=
        Option.some.inj ((Wire.ofText?_toText_code code').symm.trans hbody)
      exact ⟨p, l, hp, hline, hsame ▸ hrender⟩
  · rintro ⟨p, l, hp, hline, hrender⟩
    obtain ⟨code', hrender', hrespond⟩ := (respond_of_heads_of_line h hp).1 hline
    rw [hrender'] at hrender
    cases hrender
    rw [hrespond]
    exact ⟨rfl, Wire.ofText?_toText_code code⟩

/-- **The body reader is the strict reader up to trailing text.** A text that is sent as JSON is
answered with code just when a prefix that ends in a closing mark is by itself a lookup on some
line, and the code is that of this lookup. No other prefix is a lookup. If its line is zero the
answer names the position, and if there is no such prefix the answer tells that the text is no JSON
or no lookup, and then, behind a colon, what the reader has to say about it. -/
theorem posted_answered_by_head (s : Site) (text : List Char) (r : Request) (h : s.Posted text r) :
    (∀ code, ((s.respond r).status = 200 ∧ Wire.code.ofText? (s.respond r).body = some code) ↔
      ∃ p l, Wire.lookup.Heads text p l ∧ 1 ≤ l.line ∧ Template.render s.template l = .ok code) ∧
    (∀ p p' l l', Wire.lookup.Heads text p l → Wire.lookup.Heads text p' l' → p = p' ∧ l = l') ∧
    (∀ p l, Wire.lookup.Heads text p l → l.line = 0 →
      (s.respond r).status = 400 ∧ Wire.problem.ofText? (s.respond r).body =
        some "invalid cursor position: line 0 (lines are 1-based)") ∧
    ((∀ p l, ¬ Wire.lookup.Heads text p l) →
      (s.respond r).status = 400 ∧
      ∃ start ∈ ["Failed to parse the request body as JSON",
          "Failed to deserialize the JSON body into the target type"],
        Wire.problem.ofText? (s.respond r).body =
          some (start ++ (s.account r.body).elim "" (": " ++ ·))) := by
  refine ⟨answered_iff_heads h, ?_, ?_, ?_⟩
  · intro p p' l l' hp hp'
    obtain rfl := hp.unique hp'
    exact ⟨rfl, Option.some.inj (hp.read.symm.trans hp'.read)⟩
  · intro p l hp hline
    rw [(respond_of_heads_of_line h hp).2 hline]
    exact ⟨rfl, Wire.ofText?_toText_problem _⟩
  · intro hno
    -- Where reading stopped decides only how the message starts.
    obtain ⟨fault, hrespond⟩ := respond_of_no_head h hno
    rw [hrespond]
    refine ⟨rfl, BodyFault.start fault, ?_, Wire.ofText?_toText_problem _⟩
    cases fault <;> decide

/-- A lookup with more marks behind it, one at line zero in an array, and an object that lacks a
member, of which the reader has something to say. -/
theorem posted_answered_by_head_before_marks :
    let s : Site := ⟨"/", "ext", ⟨"abc"⟩, "x", fun _ => some "missing field"⟩
    let post (text : String) : Request :=
      ⟨"POST".toList, ⟨"/ext/introspection-code".toList, some "token=abc".toList⟩,
        [⟨"Content-Type".toList, "application/json".toList⟩], Utf8.encode text.toList⟩
    let text := "\x7b\"source\":\"\x7d\",\"line\":1,\"column\":0,\"path\":\"\"\x7d]\x7d"
    (s.Posted text.toList (post text) ∧ (s.respond (post text)).status = 200 ∧
      Wire.code.ofText? (s.respond (post text)).body = some "x") ∧
    Wire.problem.ofText? (s.respond (post "[\"\",0,0,\"\"]]")).body =
      some "invalid cursor position: line 0 (lines are 1-based)" ∧
    (s.respond (post "\x7b\"source\":\"\"\x7d")).status = 400 ∧
    ∃ start ∈ ["Failed to parse the request body as JSON",
        "Failed to deserialize the JSON body into the target type"],
      Wire.problem.ofText? (s.respond (post "\x7b\"source\":\"\"\x7d")).body =
        some (start ++ ": missing field") := by
  intro s post text
  -- Neither the way to the endpoint nor the token depends on the body.
  have hasked : s.Asked .code .post (post "") :=
    ⟨by decide, rfl, by decide, by decide +kernel, by decide⟩
  have hjson : (post "").hasJson = true := by decide
  have hposted (t : String) (ht : (Utf8.encode t.toList).length ≤ 2097152) :
      s.Posted t.toList (post t) :=
    ⟨⟨hasked.endpoint, rfl, hasked.allowed, hasked.presents⟩, hjson, rfl, ht⟩
  have htext : s.Posted text.toList (post text) := hposted text (by decide +kernel)
  refine ⟨⟨htext, ((posted_answered_by_head s _ _ htext).1 "x").2 ?_⟩, ?_, ?_⟩
  · refine ⟨text.toList.dropLast.dropLast, ⟨"\x7d", 1, 0, ""⟩, ⟨?_, ?_, ?_⟩, ?_, ?_⟩
    all_goals decide +kernel
  · refine ((posted_answered_by_head s _ _ (hposted _ (by decide +kernel))).2.2.1
      "[\"\",0,0,\"\"]".toList ⟨"", 0, 0, ""⟩ ⟨?_, ?_, ?_⟩ rfl).2
    all_goals decide +kernel
  · refine (posted_answered_by_head s _ _ (hposted _ (by decide +kernel))).2.2.2 ?_
    intro p l hp
    have hread : Wire.lookup.read (Json.read ("\x7b\"source\":\"\"\x7d".toList.map some)).1 =
        .error .mistyped := by decide +kernel
    have hsome := Json.Format.read_iff_exists_heads.2 ⟨p, hp⟩
    rw [hread] at hsome
    cases hsome

end Site

end NotebookGoto.Http
