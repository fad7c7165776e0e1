import NotebookGoto.Proofs.Http.Admission
import NotebookGoto.Proofs.Http.Segments

/-!
# Routes that capture

A registered path matches itself, whatever stands in it. Where one of its segments holds a colon it
matches more: what stands behind the colon is the name of a capture, and in its place a request may
have any text. So a site is reached by other paths than its own as soon as its base path or its
extension's name holds a colon (`Site.reached_through_capture`).

A router does not take every path. Of a segment with a second mark in it, of one in which nothing
follows the colon, and of a wildcard in front of other segments, there is no route at all
(`Route.Registrable`).
-/

namespace NotebookGoto.Http

open Text

namespace Route

/-- A segment in front of others that can stand in a registered path: it holds no mark, or one colon
with a name behind it. -/
def Registrable (segment : List Char) : Prop :=
  '*' ∉ segment ∧ (':' ∈ segment → ∃ literal name,
    segment = literal ++ ':' :: name ∧ ':' ∉ literal ∧ ':' ∉ name ∧ name ≠ [])

/-! ## Matching -/

theorem matchesSegment_self (registered : List Char) :
    matchesSegment registered registered = true := by
  unfold matchesSegment
  dsimp only
  split
  · simp
  · rw [List.isPrefixOf_iff_prefix]
    exact List.takeWhile_prefix _

/-- In the place of a capture anything may stand. -/
theorem matchesSegment_capture {literal : List Char} (h : ':' ∉ literal) (name value : List Char) :
    matchesSegment (literal ++ ':' :: name) (literal ++ value) = true := by
  have htake : (literal ++ ':' :: name).takeWhile (· ≠ ':') = literal := by
    have hbefore : ∀ c ∈ literal, decide (c ≠ ':') = true := fun c hc =>
      decide_eq_true (ne_of_mem_of_not_mem hc h)
    rw [List.takeWhile_append_of_pos hbefore]
    simp
  have hshort : ¬ literal.length = (literal ++ ':' :: name).length := by simp
  unfold matchesSegment
  dsimp only
  rw [htake, if_neg hshort, List.isPrefixOf_iff_prefix]
  exact List.prefix_append literal value

theorem matchesAll_append {rs rs' ss ss' : List (List Char)} (h : matchesAll rs ss = true)
    (h' : matchesAll rs' ss' = true) : matchesAll (rs ++ rs') (ss ++ ss') = true := by
  induction rs generalizing ss with
  | nil =>
    cases ss with
    | nil => exact h'
    | cons s ss => cases h
  | cons r rs ih =>
    cases ss with
    | nil => cases h
    | cons s ss =>
      rw [matchesAll, Bool.and_eq_true] at h
      show (matchesSegment r s && matchesAll (rs ++ rs') (ss ++ ss')) = true
      rw [h.1, ih h.2]
      rfl

theorem matchesAll_self (rs : List (List Char)) : matchesAll rs rs = true := by
  induction rs with
  | nil => rfl
  | cons r rs ih =>
    rw [matchesAll, matchesSegment_self, ih]
    rfl

/-! ## Captures -/

section

variable {baseUrl extensionName : String} {before behind : List (List Char)}
  {literal name value : List Char}

theorem splitOn_captured (hext : IsSegment (trimSlashes extensionName.toList))
    (hsegments : segments baseUrl extensionName = before ++ (literal ++ ':' :: name) :: behind)
    (hvalue : '/' ∉ value) (e : Endpoint) :
    (ofWords (before ++ (literal ++ value) :: (behind ++ [e.name.toList]))).splitOn '/' =
      [] :: (before ++ (literal ++ value) :: (behind ++ [e.name.toList])) := by
  have hslash := slash_not_mem_of_mem_segments baseUrl hext
  have hname : '/' ∉ e.name.toList := by cases e <;> decide
  rw [hsegments] at hslash
  refine splitOn_ofWords (fun w hw => ?_) (by simp)
  simp only [List.mem_append, List.mem_cons, List.not_mem_nil, or_false] at hw
  rcases hw with hw | rfl | hw | rfl
  · exact hslash w (by simp [hw])
  · have hmiddle : '/' ∉ literal ++ ':' :: name := hslash _ (by simp)
    have hliteral : '/' ∉ literal := fun hmem => hmiddle (List.mem_append_left _ hmem)
    simp [hliteral, hvalue]
  · exact hslash w (by simp [hw])
  · exact hname

/-- A path with a capture matches whatever has some text in its place. -/
theorem accepts_captured (hext : IsSegment (trimSlashes extensionName.toList))
    (hsegments : segments baseUrl extensionName = before ++ (literal ++ ':' :: name) :: behind)
    (hliteral : ':' ∉ literal) (hvalue : '/' ∉ value) (e : Endpoint) :
    accepts (path baseUrl extensionName e)
      (ofWords (before ++ (literal ++ value) :: (behind ++ [e.name.toList]))) = true := by
  rw [accepts, splitOn_path baseUrl hext e, splitOn_captured hext hsegments hvalue e, hsegments]
  show (matchesSegment [] [] && matchesAll _ _) = true
  rw [matchesSegment_self, Bool.true_and, List.append_assoc, List.cons_append]
  refine matchesAll_append (matchesAll_self before) ?_
  show (matchesSegment (literal ++ ':' :: name) (literal ++ value) && matchesAll _ _) = true
  rw [matchesSegment_capture hliteral, matchesAll_self]
  rfl

/-- Where it is not the capture itself that stands there, it is no path of an endpoint. -/
theorem captured_ne_path (hext : IsSegment (trimSlashes extensionName.toList))
    (hsegments : segments baseUrl extensionName = before ++ (literal ++ ':' :: name) :: behind)
    (hvalue : '/' ∉ value) (hne : value ≠ ':' :: name) (e e' : Endpoint) :
    ofWords (before ++ (literal ++ value) :: (behind ++ [e.name.toList])) ≠
      path baseUrl extensionName e' := by
  intro heq
  have hwords := congrArg (List.splitOn '/') heq
  rw [splitOn_captured hext hsegments hvalue e, splitOn_path baseUrl hext e', hsegments,
    List.append_assoc, List.cons_append] at hwords
  -- The segments before the capture cancel, and so does what stands before its colon.
  have hsegment := List.append_cancel_left (List.cons.inj hwords).2
  exact hne (List.append_cancel_left (List.cons.inj hsegment).1)

end

end Route

/-- **A site with a capture in its paths is reached by others too**: by each path that has any text
in the place of the capture. -/
theorem Site.reached_through_capture {s : Site}
    (hext : Route.IsSegment (Route.trimSlashes s.extensionName.toList))
    (htaken : ∀ segment ∈ Route.segments s.baseUrl s.extensionName, Route.Registrable segment)
    (hcolon : ':' ∈ s.baseUrl.toList ++ s.extensionName.toList) :
    ∃ before literal name behind,
      Route.segments s.baseUrl s.extensionName = before ++ (literal ++ ':' :: name) :: behind ∧
      ∀ value : List Char, '/' ∉ value →
        let stray := Route.ofWords (before ++ (literal ++ value) :: (behind ++ ["hello".toList]))
        s.endpoint? stray = some .hello ∧
          (value ≠ ':' :: name → ∀ e, stray ≠ Route.path s.baseUrl s.extensionName e) := by
  obtain ⟨segment, hmem, hsegment⟩ :=
    Route.mem_segment_of_mem (by decide) (List.mem_append.1 hcolon)
  -- What stands before the colon has to be there; the name may be replaced.
  obtain ⟨literal, name, rfl, hliteral, -, -⟩ := (htaken segment hmem).2 hsegment
  obtain ⟨before, behind, hsegments⟩ := List.append_of_mem hmem
  refine ⟨before, literal, name, behind, hsegments, fun value hvalue => ⟨?_, fun hne e => ?_⟩⟩
  · have haccepts := Route.accepts_captured hext hsegments hliteral hvalue .hello
    show List.find? (fun e => Route.accepts (Route.path s.baseUrl s.extensionName e)
      (Route.ofWords (before ++ (literal ++ value) :: (behind ++ ["hello".toList]))))
      [.hello, .code] = some .hello
    exact List.find?_cons_of_pos haccepts
  · exact Route.captured_ne_path hext hsegments hvalue hne .hello e

end NotebookGoto.Http
