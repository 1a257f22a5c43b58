import TaskProbe.Proofs.Task.Address

/-!
# Clients and their URLs

A client that could be built never fails on its URL (`client_never_fails_on_its_url`). The rule for base
URLs is the only check that can fail: what satisfies it is read once more as the same URL, and this URL
has a place for tasks. `Client.build` and `Client.taskUrl?` make all these checks, with the errors that
they would report, and come to what the client really goes by. Which names outside ASCII are domains
(`Url.Idna`) makes no difference to this.
-/

namespace TaskProbe

namespace Client

/-! ## All checks -/

/-- Builds a client: the base URL must satisfy its rule and be readable, and the connector for the time
allowed must be there. -/
def build [Url.Idna] (connector : Option Nat → Except ProbeError Unit) (base : String)
    (settings : Config.Settings) : Except ProbeError Client := do
  let _ ← require "base_url" base (Rule.url base.toList)
  let url ← (Url.parse base.toList).mapError fun fault =>
    ProbeError.config ("Invalid base URL " ++ base ++ ": " ++ fault.message)
  connector settings.timeoutSeconds
  return ⟨url, settings.compressRequests, settings.timeoutSeconds⟩

/-- The URL of a task, if its base URL has segments for its path. -/
def taskUrl? (c : Client) (id : TaskId) : Except ProbeError Url :=
  match c.base.path with
  | .opaqueText _ =>
    .error (.config ("Base URL " ++ String.ofList c.base.write ++ " cannot carry a path"))
  | .segments _ => .ok (c.taskUrl id)

end Client

/-! ## None of them fails -/

section

variable [Url.Idna]

section

variable {connector : Option Nat → Except ProbeError Unit}
  (hconnector : ∀ timeout, connector timeout = .ok ()) (base : String) (settings : Config.Settings)

include hconnector in
/-- A base URL that satisfies its rule is read as the same URL again. -/
theorem Client.build_eq_ofSettings : build connector base settings = ofSettings base settings := by
  unfold build ofSettings
  cases hrule : Rule.url base.toList with
  | error breach => rfl
  | ok url =>
    obtain ⟨-, hparse, -⟩ := Url.rule_eq_ok_iff.mp hrule
    rw [hparse, hconnector]
    rfl

theorem Client.ofSettings_fails :
    FailsWith (fun e => ∃ reason, e = .invalidValue "base_url" base reason)
      (ofSettings base settings) :=
  (FailsWith.mapError (fun breach => ⟨breach.message, rfl⟩) _).map _

end

/-- A client's base URL has segments, so its tasks have a place. -/
theorem Client.taskUrl?_of_ofSettings {base : String} {settings : Config.Settings} {c : Client}
    (h : ofSettings base settings = .ok c) (id : TaskId) : c.taskUrl? id = .ok (c.taskUrl id) := by
  obtain ⟨-, list, hlist, -⟩ := base_of_ofSettings h
  rw [taskUrl?, hlist]

/-- **A client never fails on its URL.** If its connector is there, a client can be built exactly for
the URLs of web servers, and what is wrong with any other text is said of the field `base_url`. A client
that was built knows the URL of every task. -/
theorem client_never_fails_on_its_url {connector : Option Nat → Except ProbeError Unit}
    (hconnector : ∀ timeout, connector timeout = .ok ()) (base : String)
    (settings : Config.Settings) :
    ((∃ c, Client.build connector base settings = .ok c) ↔
      base ≠ "" ∧ ∃ url, Url.parse base.toList = .ok url ∧
        (url.scheme = Url.http ∨ url.scheme = Url.https)) ∧
    (∀ e, Client.build connector base settings = .error e →
      ∃ reason, e = .invalidValue "base_url" base reason) ∧
    (∀ c, Client.build connector base settings = .ok c →
      ∀ id : TaskId, c.taskUrl? id = .ok (c.taskUrl id)) ∧
    Client.build connector base settings = Client.ofSettings base settings := by
  rw [Client.build_eq_ofSettings hconnector]
  refine ⟨?_, Client.ofSettings_fails base settings, fun c => Client.taskUrl?_of_ofSettings, rfl⟩
  simp only [Client.ofSettings_eq_ok_iff, Url.rule_eq_ok_iff]
  constructor
  · rintro ⟨c, url, ⟨hne, hparse, hweb⟩, -⟩
    exact ⟨by simpa using hne, url, hparse, Url.isWeb_iff.mp hweb⟩
  · rintro ⟨hne, url, hparse, hscheme⟩
    exact ⟨_, url, ⟨by simpa using hne, hparse, Url.isWeb_iff.mpr hscheme⟩, rfl⟩

end

/-- A domain outside ASCII behind backslashes: a client can be built for it and knows all its URLs. None
can be built for what no name is encoded as. -/
theorem client_never_fails_on_its_url_outside_ascii :
    letI := Url.oneDomain
    (∃ c, Client.build (fun _ => .ok ()) "HTTP:\\\\u@bücher.example:80\\a" .default = .ok c ∧
      ∀ id, c.taskUrl? id = .ok (c.taskUrl id)) ∧
    (∀ c, Client.build (fun _ => .ok ()) "http://xn--a/" .default ≠ .ok c) := by
  let := Url.oneDomain
  let url : Url :=
    { scheme := Url.http, username := ['u'], host := some (.domain "xn--bcher-kva.example".toList),
      path := .segments [['a']] }
  have hparse : Url.parse "HTTP:\\\\u@bücher.example:80\\a".toList = .ok url :=
    eq_ok_of_toOption (by decide +kernel)
  have hnone : (Url.parse "http://xn--a/".toList).toOption = none := by decide +kernel
  constructor
  · obtain ⟨hbuild, -, htasks, -⟩ := client_never_fails_on_its_url (fun _ => rfl)
      "HTTP:\\\\u@bücher.example:80\\a" .default
    obtain ⟨c, hc⟩ := hbuild.mpr ⟨by decide, url, hparse, .inl rfl⟩
    exact ⟨c, hc, htasks c hc⟩
  · intro c hc
    obtain ⟨hbuild, -⟩ := client_never_fails_on_its_url (fun _ => rfl) "http://xn--a/" .default
    obtain ⟨-, _, hurl, -⟩ := hbuild.mp ⟨c, hc⟩
    rw [hurl] at hnone
    cases hnone

end TaskProbe
