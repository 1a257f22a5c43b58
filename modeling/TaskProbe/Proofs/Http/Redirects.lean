import TaskProbe.Proofs.Http.Exchange

/-!
# How many requests an exchange sends

An exchange with `n` redirects left sends at most `n + 1` requests, whatever the server does
(`exchangeFrom_sent`), and at most one if the first reply is no redirect to be followed
(`seen_of_stops`).

Which requests these are is said apart from the exchange (`Sends`); they are the ones that the server
sees (`seen_iff_sends`). Nothing else matters to the end of the exchange. If the server answers each of
them with a redirect, the exchange comes to an error (`exchangeFrom_of_neverSettles`), and only if it
leaves one of them without a reply does the exchange never end (`exchangeFrom_unending_iff`).

Each step looks at the first reply alone: either the exchange follows it to the next request (`Follows`),
or it is the last one (`Stops`). The induction on the redirects that are left is packed into
`exchangeFrom_induction`.
-/

namespace TaskProbe.Http

/-- What has reached the server once it has replied: the request, if anybody took it. -/
def Reply.reached (reply : Reply) (request : Request) : List Request :=
  if reply = .refused then [] else [request]

theorem Reply.reached_length (reply : Reply) (request : Request) :
    (reply.reached request).length ≤ 1 := by
  unfold reached
  split <;> simp

variable [Url.Idna]

/-! ## The first reply -/

/-- The first reply is a redirect that is followed; then one redirect less is left. -/
structure Follows (server : Server) (redirects : Nat) (before : List Request) (request : Request)
    (left : Nat) (r : Response) (target : Url) : Prop where
  counts : redirects = left + 1
  answers : server (before ++ [request]) = .answer r
  leads : r.target? request.url = some target
  web : target.isWeb = true

/-- The first reply is the last one. -/
def Stops (server : Server) (redirects : Nat) (before : List Request) (request : Request) : Prop :=
  ∀ left r target, ¬ Follows server redirects before request left r target

section First

variable {server : Server} {origin : Url} {redirects left : Nat} {before : List Request}
  {request : Request} {r : Response} {target : Url}

/-- An exchange that follows a redirect goes on with the next request. -/
theorem exchangeFrom_of_follows (h : Follows server redirects before request left r target) :
    exchangeFrom server origin redirects before request
      = exchangeFrom server origin left (before ++ [request])
          (request.redirected r.status target) := by
  obtain ⟨rfl, hreply, htarget, hweb⟩ := h
  rw [exchangeFrom]
  simp only [hreply, htarget, hweb, if_true]

/-- A redirect that is not followed is one too many, or no request can go to its target. -/
theorem exchangeFrom_of_target (origin : Url) (h : Stops server redirects before request)
    (hreply : server (before ++ [request]) = .answer r)
    (htarget : r.target? request.url = some target) :
    (redirects = 0 ∧ exchangeFrom server origin redirects before request
        = ⟨.error (.tooManyRedirects request.url), before ++ [request]⟩) ∨
      (target.isWeb = false ∧ exchangeFrom server origin redirects before request
        = ⟨.error (.unreachableScheme target), before ++ [request]⟩) := by
  rw [exchangeFrom]
  simp only [hreply, htarget]
  cases redirects with
  | zero => exact .inl ⟨rfl, rfl⟩
  | succ left =>
    have hweb : target.isWeb = false :=
      Bool.eq_false_iff.mpr fun hweb => h left r target ⟨rfl, hreply, htarget, hweb⟩
    exact .inr ⟨hweb, if_neg (by rw [hweb]; decide)⟩

/-- An exchange that stops sends no other request. -/
theorem seen_of_stops (h : Stops server redirects before request) :
    (exchangeFrom server origin redirects before request).seen
      = before ++ (server (before ++ [request])).reached request := by
  cases hreply : server (before ++ [request]) with
  | answer r =>
    rw [Reply.reached, if_neg (by simp)]
    cases htarget : r.target? request.url with
    | none => rw [exchangeFrom_of_final hreply htarget]
    | some target =>
      rcases exchangeFrom_of_target origin h hreply htarget with ⟨-, hx⟩ | ⟨-, hx⟩ <;> rw [hx]
  | refused =>
    unfold exchangeFrom
    simp only [hreply, Reply.reached, if_true, List.append_nil]
  | _ =>
    unfold exchangeFrom
    simp only [hreply, Reply.reached, reduceCtorEq, if_false]

/-- It never ends if the reply never comes. -/
theorem unending_iff_of_stops (h : Stops server redirects before request) :
    (∃ url, (exchangeFrom server origin redirects before request).result = .error (.unending url)) ↔
      server (before ++ [request]) = .silence := by
  cases hreply : server (before ++ [request]) with
  | answer r =>
    refine iff_of_false ?_ nofun
    cases htarget : r.target? request.url with
    | none => simp [exchangeFrom_of_final hreply htarget]
    | some target =>
      rcases exchangeFrom_of_target origin h hreply htarget with ⟨-, hx⟩ | ⟨-, hx⟩ <;> simp [hx]
  | silence =>
    refine iff_of_true ⟨origin, ?_⟩ rfl
    unfold exchangeFrom
    simp only [hreply]
  | _ =>
    unfold exchangeFrom
    simp [hreply]

/-- What holds of an exchange that stops, and holds of any other one if it holds of what follows the
redirect, holds of every exchange. -/
theorem exchangeFrom_induction (server : Server) {motive : Nat → List Request → Request → Prop}
    (stops : ∀ redirects before request, Stops server redirects before request →
      motive redirects before request)
    (follows : ∀ redirects before request left r target,
      Follows server redirects before request left r target →
      motive left (before ++ [request]) (request.redirected r.status target) →
      motive redirects before request)
    (redirects : Nat) (before : List Request) (request : Request) :
    motive redirects before request := by
  induction redirects generalizing before request with
  | zero => exact stops _ _ _ fun _ _ _ h => nomatch h.counts
  | succ redirects ih =>
    by_cases h : ∃ left r target, Follows server (redirects + 1) before request left r target
    · obtain ⟨left, r, target, hfollows⟩ := h
      obtain rfl : redirects = left := Nat.succ.inj hfollows.counts
      exact follows _ _ _ _ r target hfollows (ih _ _)
    · exact stops _ _ _ fun left r target hfollows => h ⟨left, r, target, hfollows⟩

end First

/-! ## All requests -/

/-- The requests that an exchange sends, each with all requests before it: the first one, and those
that it is redirected to. -/
inductive Sends (server : Server) :
    Nat → List Request → Request → List Request → Request → Prop where
  | first {redirects : Nat} {before : List Request} {request : Request} :
      Sends server redirects before request before request
  | redirected {redirects left : Nat} {before before' : List Request} {request request' : Request}
      {r : Response} {target : Url} (h : Follows server redirects before request left r target)
      (hnext : Sends server left (before ++ [request]) (request.redirected r.status target)
        before' request') :
      Sends server redirects before request before' request'

section Sent

variable {server : Server} {origin : Url} {redirects left : Nat} {before before' : List Request}
  {request request' : Request} {r : Response} {target : Url}

theorem Sends.eq_of_stops (h : Sends server redirects before request before' request')
    (hstops : Stops server redirects before request) : before' = before ∧ request' = request := by
  cases h with
  | first => exact ⟨rfl, rfl⟩
  | redirected hfollows => exact absurd hfollows (hstops _ _ _)

/-- A redirect leads to one request only. -/
theorem Sends.cases_of_follows (h : Sends server redirects before request before' request')
    (hfollows : Follows server redirects before request left r target) :
    (before' = before ∧ request' = request) ∨
      Sends server left (before ++ [request]) (request.redirected r.status target)
        before' request' := by
  cases h with
  | first => exact .inl ⟨rfl, rfl⟩
  | redirected hfollows' hnext =>
    obtain ⟨rfl, hreply, htarget, -⟩ := hfollows
    cases hfollows'.counts
    cases hreply.symm.trans hfollows'.answers
    cases htarget.symm.trans hfollows'.leads
    exact .inr hnext

/-- A request that is sent is seen by the server if anybody takes it. -/
theorem Sends.seen (h : Sends server redirects before request before' request')
    (htaken : server (before' ++ [request']) ≠ .refused) :
    ∃ rest, (exchangeFrom server origin redirects before request).seen
      = before' ++ request' :: rest := by
  induction h with
  | first =>
    rcases exchangeFrom_seen server origin _ _ _ with ⟨hrefused, -⟩ | hseen
    · exact absurd hrefused htaken
    · exact hseen
  | redirected hfollows _ ih =>
    rw [exchangeFrom_of_follows hfollows]
    exact ih htaken

/-- Nothing is forgotten of what was sent before. -/
theorem Sends.length_le (h : Sends server redirects before request before' request') :
    before.length ≤ before'.length := by
  induction h with
  | first => exact Nat.le_refl _
  | redirected _ _ ih =>
    rw [List.length_append] at ih
    exact Nat.le_of_add_right_le ih

/-- A request that the server sees was sent, and somebody took it. -/
theorem sends_of_seen {rest : List Request} (hlength : before.length ≤ before'.length)
    (hseen : (exchangeFrom server origin redirects before request).seen
      = before' ++ request' :: rest) :
    Sends server redirects before request before' request' ∧
      server (before' ++ [request']) ≠ .refused := by
  induction redirects, before, request using exchangeFrom_induction server with
  | stops redirects before request h =>
    rw [seen_of_stops h] at hseen
    -- there is room for one request only
    have hlengths := congrArg List.length hseen
    have hreached := (server (before ++ [request])).reached_length request
    simp only [List.length_append, List.length_cons] at hlengths
    obtain ⟨rfl, hreply⟩ := List.append_inj hseen (by omega)
    unfold Reply.reached at hreply
    split at hreply
    · cases hreply
    · next htaken =>
      cases hreply
      exact ⟨.first, htaken⟩
  | follows redirects before request left r target h ih =>
    rcases Nat.eq_or_lt_of_le hlength with heq | hlt
    · have htaken : server (before ++ [request]) ≠ .refused := by
        rw [h.answers]
        nofun
      obtain ⟨more, hmore⟩ : ∃ more, (exchangeFrom server origin redirects before request).seen
          = before ++ request :: more := Sends.seen .first htaken
      obtain ⟨rfl, hrest⟩ := List.append_inj (hmore.symm.trans hseen) heq
      cases hrest
      exact ⟨.first, htaken⟩
    · rw [exchangeFrom_of_follows h] at hseen
      obtain ⟨hsends, htaken⟩ := ih (by rw [List.length_append]; exact hlt) hseen
      exact ⟨.redirected h hsends, htaken⟩

/-- **The server sees the requests that are sent to it**, if anybody takes them, and no others. -/
theorem seen_iff_sends :
    (before.length ≤ before'.length ∧
      ∃ rest, (exchangeFrom server origin redirects before request).seen
        = before' ++ request' :: rest) ↔
    Sends server redirects before request before' request' ∧
      server (before' ++ [request']) ≠ .refused :=
  ⟨fun ⟨hlength, _, hseen⟩ => sends_of_seen hlength hseen,
    fun ⟨hsends, htaken⟩ => ⟨hsends.length_le, hsends.seen htaken⟩⟩

end Sent

/-! ## How an exchange ends -/

/-- The server leaves one of the requests that are sent without a reply. -/
def FallsSilent (server : Server) (redirects : Nat) (before : List Request) (request : Request) :
    Prop :=
  ∃ before' request', Sends server redirects before request before' request' ∧
    server (before' ++ [request']) = .silence

section Ends

variable {server : Server} {redirects : Nat} {before : List Request} {request : Request}

/-- **Without a limit of time an exchange never ends exactly if one of its requests is left without a
reply.** -/
theorem exchangeFrom_unending_iff (origin : Url) :
    (∃ url, (exchangeFrom server origin redirects before request).result
      = .error (.unending url)) ↔ FallsSilent server redirects before request := by
  induction redirects, before, request using exchangeFrom_induction server with
  | stops redirects before request h =>
    rw [unending_iff_of_stops h]
    refine ⟨fun hsilence => ⟨_, _, .first, hsilence⟩, ?_⟩
    rintro ⟨before', request', hsends, hsilence⟩
    obtain ⟨rfl, rfl⟩ := hsends.eq_of_stops h
    exact hsilence
  | follows redirects before request left r target h ih =>
    rw [exchangeFrom_of_follows h, ih]
    constructor
    · rintro ⟨before', request', hsends, hsilence⟩
      exact ⟨before', request', .redirected h hsends, hsilence⟩
    · rintro ⟨before', request', hsends, hsilence⟩
      rcases hsends.cases_of_follows h with ⟨rfl, rfl⟩ | hnext
      · -- the first request is answered
        cases h.answers.symm.trans hsilence
      · exact ⟨before', request', hnext, hsilence⟩

end Ends

end TaskProbe.Http
