import Mathlib.Data.List.TakeWhile
import NotebookGoto.Proofs.Http.Spelling
import NotebookGoto.Proofs.Http.Token

/-!
# Tokens in queries

A token may be presented in the query instead of a header field. A query takes some characters for
marks: `&` and `=` part its pairs, and plus and percent stand for something else. A text without
these marks spells itself, so a token without them is read back as it was put behind its key.

* **`Target.ofText?_query`**: a path and a query, unless they are too long together.
* **`Request.token?_of_holds`**: the token of a request with it in its query and no credential.
* **`Request.token?_of_query`**: the same where nothing else stands in the query.
-/

namespace NotebookGoto.Http

open Text

/-- A character that a query does not take for a mark. -/
def Query.isPlain (c : Char) : Bool :=
  c ∉ ['&', '=', '+', '%']

/-! ## Targets -/

namespace Target

variable {path query : List Char}

theorem ofText?_eq_none_of_long {s : List Char} (h : 65534 < (Utf8.encode s).length) :
    ofText? s = none := by
  unfold ofText?
  exact if_pos h

theorem ofPath?_query (hpath : ∀ c ∈ path, inPath c = true)
    (hquery : ∀ c ∈ query, inQuery c = true) :
    ofPath? (path ++ '?' :: query) = some ⟨path, some query⟩ := by
  have hfragment : (path ++ '?' :: query).takeWhile (· ≠ '#') = path ++ '?' :: query := by
    rw [List.takeWhile_eq_self_iff]
    intro c hc
    apply decide_eq_true
    rcases List.mem_append.1 hc with hc | hc
    · exact ne_of_class (hpath c hc) (by decide)
    rcases List.mem_cons.1 hc with rfl | hc
    · decide
    · exact ne_of_class (hquery c hc) (by decide)
  have hmark : ∀ c ∈ path, decide (c ≠ '?') = true :=
    fun c hc => decide_eq_true (ne_of_class (hpath c hc) (by decide))
  have htake : (path ++ '?' :: query).takeWhile (· ≠ '?') = path :=
    takeWhile_append_cons hmark (by decide) query
  have hdrop : (path ++ '?' :: query).dropWhile (· ≠ '?') = '?' :: query :=
    dropWhile_append_cons hmark (by decide) query
  rw [ofPath?, hfragment]
  simp only [htake, hdrop, Option.getD_some, List.all_eq_true.2 hpath, List.all_eq_true.2 hquery]
  rfl

/-- **A path and a query are a target**, unless they are too long together. -/
theorem ofText?_query (hslash : path.head? = some '/') (hpath : ∀ c ∈ path, inPath c = true)
    (hquery : ∀ c ∈ query, inQuery c = true) :
    ofText? (path ++ '?' :: query) =
      if 65534 < (Utf8.encode (path ++ '?' :: query)).length then none
      else some ⟨path, some query⟩ := by
  obtain ⟨rest, rfl⟩ := List.head?_eq_some_iff.1 hslash
  unfold ofText?
  split
  · rfl
  · exact ofPath?_query hpath hquery

end Target

/-! ## Requests -/

namespace Request

theorem token?_of_holds {r : Request} {query token : List Char} (hr : ∀ t, ¬ r.Carries t)
    (hquery : r.target.query = some query) (h : Query.Holds "token".toList token query) :
    r.token? = some (String.ofList token) := by
  rw [token?_of_not_carries hr, hquery, Option.bind_some, Query.single?_of_spells (by decide) h]
  rfl

/-- The token of a request that presents it in its query and has no credential in a header field. -/
theorem token?_of_query {r : Request} {t : List Char}
    (hheaders : ∀ h ∈ r.headers, Header.sameName h.name "authorization".toList = false)
    (hquery : r.target.query = some ("token=".toList ++ t))
    (ht : ∀ c ∈ t, Query.isPlain c = true) : r.token? = some (String.ofList t) := by
  have hliteral : ∀ c ∈ t, Query.isLiteral c = true := by
    intro c hc
    have hsub : ['&', '+', '%'] ⊆ ['&', '=', '+', '%'] := by decide
    have hmarks : c ∉ ['&', '=', '+', '%'] := of_decide_eq_true (ht c hc)
    exact decide_eq_true fun hmem => hmarks (hsub hmem)
  have hkey : Query.IsSpelling "token".toList "token".toList :=
    Query.isSpelling_of_all_literal (forall_mem_of_all (by decide))
  apply token?_of_holds (not_carries_of_no_field hheaders) hquery
  exact ⟨[], "token".toList, t, [], by simp, hkey, Query.isSpelling_of_all_literal hliteral, nofun⟩

end Request

end NotebookGoto.Http
