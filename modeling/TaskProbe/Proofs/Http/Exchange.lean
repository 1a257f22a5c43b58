import TaskProbe.ContentCoding
import TaskProbe.Http.Exchange
import TaskProbe.Proofs.Gzip.Roundtrip
import TaskProbe.Proofs.Text.Utf8

/-!
# Exchanges

What an exchange gives (`exchangeFrom_eq_ok_iff`) and what it leaves with the server
(`exchangeFrom_seen`), and that it comes to the same for two requests if the server cannot tell them
apart (`exchangeFrom_result_congr`). What a server that
unpacks bodies can tell apart is the `gist` of a request. A redirect keeps or drops the body together
with its label, so equal gists stay equal from one request to the next. A limit of time only matters to
an exchange that would never end (`Exchange.within_of_ends`).
-/

namespace TaskProbe.Http

section

variable [Url.Idna]

/-! ## One exchange -/

/-- A response that is not followed as a redirect ends the exchange. -/
theorem exchangeFrom_of_final {server : Server} {before : List Request} {request : Request}
    {r : Response} (h : server (before ++ [request]) = .answer r)
    (hf : r.target? request.url = none) (origin : Url) (redirects : Nat) :
    exchangeFrom server origin redirects before request = ⟨.ok r, before ++ [request]⟩ := by
  unfold exchangeFrom
  simp only [h, hf]

/-- The response that a request leads to, with so many redirects left: the server's answer if it is not
followed as a redirect, or else the response to the request that follows it. -/
inductive Arrives (server : Server) (r : Response) : Nat → List Request → Request → Prop where
  | final {redirects : Nat} {before : List Request} {request : Request}
      (h : server (before ++ [request]) = .answer r) (hf : r.target? request.url = none) :
      Arrives server r redirects before request
  | redirected {redirects : Nat} {before : List Request} {request : Request} {r' : Response}
      {target : Url} (h : server (before ++ [request]) = .answer r')
      (ht : r'.target? request.url = some target) (hweb : target.isWeb = true)
      (hnext : Arrives server r redirects (before ++ [request])
        (request.redirected r'.status target)) :
      Arrives server r (redirects + 1) before request

/-- An exchange that gives a response has it from the first answer, or from the rest of the exchange
after a redirect. -/
theorem exchangeFrom_ok_cases {server : Server} {r : Response} {origin : Url} {redirects : Nat}
    {before : List Request} {request : Request}
    (h : (exchangeFrom server origin redirects before request).result = .ok r) :
    (server (before ++ [request]) = .answer r ∧ r.target? request.url = none) ∨
    ∃ n r' target, redirects = n + 1 ∧ server (before ++ [request]) = .answer r' ∧
      r'.target? request.url = some target ∧ target.isWeb = true ∧
      (exchangeFrom server origin n (before ++ [request])
        (request.redirected r'.status target)).result = .ok r := by
  unfold exchangeFrom at h
  cases hreply : server (before ++ [request]) with
  | answer response =>
    cases ht : response.target? request.url with
    | none =>
      simp only [hreply, ht] at h
      cases h
      exact .inl ⟨rfl, ht⟩
    | some target =>
      simp only [hreply, ht] at h
      cases redirects with
      | zero => cases h
      | succ n =>
        dsimp only at h
        by_cases hweb : target.isWeb = true
        · rw [if_pos hweb] at h
          exact .inr ⟨n, response, target, rfl, rfl, ht, hweb, h⟩
        · rw [if_neg hweb] at h
          cases h
  | _ =>
    simp only [hreply] at h
    cases h

/-- An exchange gives a response exactly if its request leads to it. -/
theorem exchangeFrom_eq_ok_iff {server : Server} {r : Response} {origin : Url} {redirects : Nat}
    {before : List Request} {request : Request} :
    (exchangeFrom server origin redirects before request).result = .ok r ↔
      Arrives server r redirects before request := by
  constructor
  · intro h
    induction redirects generalizing before request with
    | zero =>
      rcases exchangeFrom_ok_cases h with ⟨hr, hf⟩ | ⟨n, _, _, hn, _⟩
      · exact .final hr hf
      · cases hn
    | succ n ih =>
      rcases exchangeFrom_ok_cases h with ⟨hr, hf⟩ | ⟨m, r', target, hm, hr, ht, hweb, hnext⟩
      · exact .final hr hf
      · cases hm
        exact .redirected hr ht hweb (ih hnext)
  · intro h
    induction h with
    | final h hf => rw [exchangeFrom_of_final h hf]
    | redirected h ht hweb _ ih =>
      unfold exchangeFrom
      simp only [h, ht, hweb, if_true]
      exact ih

/-- The request is the first one that is sent, and it is sent if anybody takes the connection. -/
theorem exchangeFrom_seen (server : Server) (origin : Url) (redirects : Nat)
    (before : List Request) (request : Request) :
    (server (before ++ [request]) = .refused ∧
      (exchangeFrom server origin redirects before request).seen = before) ∨
    ∃ more, (exchangeFrom server origin redirects before request).seen
      = before ++ request :: more := by
  unfold exchangeFrom
  cases hreply : server (before ++ [request]) with
  | refused => exact .inl ⟨rfl, by simp only [hreply]⟩
  | closed => exact .inr ⟨[], by simp only [hreply]⟩
  | silence => exact .inr ⟨[], by simp only [hreply]⟩
  | answer response =>
    cases ht : response.target? request.url with
    | none => exact .inr ⟨[], by simp only [hreply, ht]⟩
    | some target =>
      simp only [hreply, ht]
      cases redirects with
      | zero => exact .inr ⟨[], rfl⟩
      | succ n =>
        dsimp only
        by_cases hweb : target.isWeb
        · rw [if_pos hweb]
          -- what follows the redirect comes after this request
          rcases exchangeFrom_seen server origin n (before ++ [request])
            (request.redirected response.status target) with ⟨-, h⟩ | ⟨more, h⟩
          · exact .inr ⟨[], h⟩
          · exact .inr ⟨_, by rw [h, List.append_assoc, List.singleton_append]⟩
        · rw [if_neg hweb]
          exact .inr ⟨[], rfl⟩

end

/-! ## A limit of time -/

namespace Exchange

variable (limit : Option Nat) {x : Exchange}

theorem within_seen (x : Exchange) : (x.within limit).seen = x.seen := by
  unfold within
  split <;> rfl

/-- An exchange that ends by itself takes no notice of the limit. -/
theorem within_of_ends (h : ∀ url, x.result ≠ .error (.unending url)) : x.within limit = x := by
  unfold within
  split
  · next hx => exact absurd hx (h _)
  · rfl

/-- An exchange never ends if it would not by itself and there is no limit. -/
theorem within_unending_iff {url : Url} : (x.within limit).result = .error (.unending url) ↔
    limit = none ∧ x.result = .error (.unending url) := by
  cases limit with
  | none => exact ⟨fun h => ⟨rfl, h⟩, fun h => h.2⟩
  | some secs =>
    refine ⟨fun h => ?_, fun h => nomatch h.1⟩
    unfold within at h
    split at h
    · cases h
    · next hx => exact absurd h (hx secs url rfl)

/-- A limit neither makes nor spoils a response. -/
theorem within_eq_ok_iff {r : Response} : (x.within limit).result = .ok r ↔ x.result = .ok r := by
  unfold within
  split
  · next hx => simp only [hx, reduceCtorEq]
  · exact Iff.rfl

theorem within_result_congr {y : Exchange} (h : x.result = y.result) :
    (x.within limit).result = (y.within limit).result := by
  unfold within
  rw [h]
  split
  · rfl
  · exact h

end Exchange

/-! ## What a server can tell apart -/

/-- The body of a request, unpacked as its label says. -/
def Request.document (q : Request) : Except ProbeError (List UInt8) :=
  ContentCoding.decode q.body (q.contentEncoding.map String.toList)

/-- What a request is about, however its body is packed. -/
def Request.gist (q : Request) : Method × Url × Except ProbeError (List UInt8) :=
  (q.method, q.url, q.document)

/-- A server that only looks at what requests are about. -/
def ReadsGists (server : Server) : Prop :=
  ∀ seen seen' : List Request, seen.map Request.gist = seen'.map Request.gist →
    server seen = server seen'

theorem gist_redirected {q q' : Request} (h : q.gist = q'.gist) (status : Nat) (target : Url) :
    (q.redirected status target).gist = (q'.redirected status target).gist := by
  have hmethod : q.method = q'.method := congrArg Prod.fst h
  have hdocument : q.document = q'.document := congrArg (·.2.2) h
  unfold Request.redirected
  rw [hmethod]
  split
  · rfl
  · show (q'.method, target, q.document) = (q'.method, target, q'.document)
    rw [hdocument]

/-- A server that only looks at gists makes no difference between requests of the same gist. -/
theorem exchangeFrom_result_congr [Url.Idna] {server : Server} (hserver : ReadsGists server) (origin : Url)
    (redirects : Nat) {before before' : List Request} {q q' : Request}
    (hbefore : before.map Request.gist = before'.map Request.gist) (hq : q.gist = q'.gist) :
    (exchangeFrom server origin redirects before q).result
      = (exchangeFrom server origin redirects before' q').result := by
  have hseen {before before' : List Request} {q q' : Request}
      (hbefore : before.map Request.gist = before'.map Request.gist) (hq : q.gist = q'.gist) :
      (before ++ [q]).map Request.gist = (before' ++ [q']).map Request.gist := by
    rw [List.map_append, List.map_append, hbefore, List.map_singleton, List.map_singleton, hq]
  have hurl : q.url = q'.url := congrArg (·.2.1) hq
  unfold exchangeFrom
  simp only [hserver _ _ (hseen hbefore hq), hurl]
  cases server (before' ++ [q']) with
  | answer response =>
    dsimp only
    cases response.target? q'.url with
    | none => rfl
    | some target =>
      cases redirects with
      | zero => rfl
      | succ n =>
        dsimp only
        by_cases hweb : target.isWeb
        · rw [if_pos hweb, if_pos hweb]
          -- the gists are still equal after the redirect
          exact exchangeFrom_result_congr hserver origin n (hseen hbefore hq)
            (gist_redirected hq response.status target)
        · rw [if_neg hweb, if_neg hweb]
  | _ => rfl

end TaskProbe.Http
