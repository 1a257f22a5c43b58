import TaskProbe.Builtin
import TaskProbe.Proofs.ContentCoding
import TaskProbe.Proofs.Http.Label
import TaskProbe.Proofs.Task.Call

/-!
# Packed and plain bodies

A server may send a text as it is or packed with gzip, and in the second case it may leave out the
label (`Carries`). What a command comes to does not depend on the way it chose
(`run_eq_of_carries`): either way the same bytes are read from the body, and nothing else about it
shows in an outcome.
-/

namespace TaskProbe

/-! ## Ways to send a text -/

namespace Http

/-- The labels of a body that may be plain: none, an empty one, and the one that says so. -/
def plainWords : List (Option String) := [none, some "", some "identity"]

/-- The labels of a body that is packed. -/
def packedWords : List (Option String) := [some "gzip", some "x-gzip"]

/-- The ways to send a text: as it is, or as something that unpacks to it, whose label need not say
that it is packed. -/
inductive Carries (t : List Char) (r : Response) : Prop where
  | plain {word : Option String} (hl : Labelled r.fields word) (hw : word ∈ plainWords)
      (hb : r.body = Text.Utf8.encode t)
  | packed {word : Option String} (hl : Labelled r.fields word)
      (hw : word ∈ plainWords ++ packedWords) (hb : Gzip.gunzip r.body = .ok (Text.Utf8.encode t))

theorem ofLabel_plain {word : Option String} (hw : word ∈ plainWords) {r : Response}
    (hl : Labelled r.fields word) : ContentCoding.ofLabel r.contentEncoding = .identity := by
  have hvisible : ∀ w ∈ plainWords,
      (w.getD "").toList.all (fun c => decide (IsVisible c)) = true := by decide
  have hgzip : ∀ w ∈ plainWords,
      ¬ ((w.getD "").toList = "gzip".toList ∨ (w.getD "").toList = "x-gzip".toList) := by decide
  have hplain : ∀ w ∈ plainWords,
      (w.getD "").toList = [] ∨ (w.getD "").toList = "identity".toList := by decide
  unfold ContentCoding.ofLabel
  rw [lowerAscii_contentEncoding hl (isVisible_of_all (hvisible word hw))]
  exact (if_neg (hgzip word hw)).trans (if_pos (hplain word hw))

theorem ofLabel_packed {word : Option String} (hw : word ∈ packedWords) {r : Response}
    (hl : Labelled r.fields word) : ContentCoding.ofLabel r.contentEncoding = .gzip := by
  have hvisible : ∀ w ∈ packedWords,
      (w.getD "").toList.all (fun c => decide (IsVisible c)) = true := by decide
  have hgzip : ∀ w ∈ packedWords,
      (w.getD "").toList = "gzip".toList ∨ (w.getD "").toList = "x-gzip".toList := by decide
  unfold ContentCoding.ofLabel
  rw [lowerAscii_contentEncoding hl (isVisible_of_all (hvisible word hw))]
  exact if_pos (hgzip word hw)

/-- Whichever way a text is sent, it is the text that is read. -/
theorem decode_of_carries {t : List Char} {r : Response} (h : Carries t r) :
    ContentCoding.decode r.body r.contentEncoding = .ok (Text.Utf8.encode t) := by
  cases h with
  | plain hl hw hb =>
    rw [hb]
    exact ContentCoding.decode_encode (ofLabel_plain hw hl) t
  | packed hl hw hb =>
    -- without a label that says so, the body shows by its start that it is packed
    rcases List.mem_append.mp hw with hw | hw
    · exact ContentCoding.decode_of_sniffed (ofLabel_plain hw hl) hb
    · exact ContentCoding.decode_of_labelled (ofLabel_packed hw hl) hb

end Http

/-! ## Commands -/

/-- What is read from a response whose body can be unpacked. -/
theorem Received.ofResponse_of_decode {r : Http.Response} {data : List UInt8}
    (h : ContentCoding.decode r.body r.contentEncoding = .ok data) :
    ofResponse r = if !r.complete then .error (.transport .truncatedBody)
      else if !r.isSuccess then .error (.httpStatus r.status (String.ofList (snippet data)))
      else .ok ⟨r.status, r.contentEncoding, data⟩ := by
  rw [ofResponse, unpackedOrRaw, h]
  rfl

/-- Of a received body, the way it was labelled shows in no outcome. -/
theorem Outcome.ofFetched_ofReceived (status : Nat) (label label' : Option (List Char))
    (data : List UInt8) :
    (Fetched.ofReceived ⟨status, label, data⟩).map ofFetched
      = (Fetched.ofReceived ⟨status, label', data⟩).map ofFetched := by
  unfold Fetched.ofReceived
  cases Json.parse data <;> rfl

theorem Outcome.ofSubmitted_ofReceived (status : Nat) (label label' : Option (List Char))
    (data : List UInt8) :
    ofSubmitted (Submitted.ofReceived ⟨status, label, data⟩)
      = ofSubmitted (Submitted.ofReceived ⟨status, label', data⟩) := by
  unfold Submitted.ofReceived
  cases Json.parse data <;> rfl

/-- What a command makes of a response depends on its status and on what its body unpacks to. -/
theorem Command.outcome_congr (command : Command) {r r' : Http.Response} {data : List UInt8}
    (hs : r.status = r'.status) (hc : r.complete = r'.complete)
    (h : ContentCoding.decode r.body r.contentEncoding = .ok data)
    (h' : ContentCoding.decode r'.body r'.contentEncoding = .ok data) :
    command.outcome r = command.outcome r' := by
  have hsucc : r.isSuccess = r'.isSuccess := by
    rw [Http.Response.isSuccess, Http.Response.isSuccess, hs]
  unfold outcome
  cases command with
  | fetch id =>
    simp only [Fetched.ofResponse]
    rw [Received.ofResponse_of_decode h, Received.ofResponse_of_decode h', hs, hc, hsucc]
    split
    · rfl
    split
    · rfl
    · exact Outcome.ofFetched_ofReceived _ _ _ _
  | submit id payload =>
    simp only [Submitted.ofResponse]
    rw [Received.ofResponse_of_decode h, Received.ofResponse_of_decode h', hs, hc, hsucc]
    split
    · rfl
    split
    · rfl
    · exact congrArg Except.ok (Outcome.ofSubmitted_ofReceived _ _ _ _)

/-- **A command comes to the same whichever way the server sends the text of its answer.** Two servers
answer its request with the same status and the same text, each in its own way, and neither answer is
followed as a redirect: then the same is printed, and the outcome or the error is the same. In both
runs it is the text itself that is read from the body. -/
theorem run_eq_of_carries [Url.Idna] [Gzip.Deflater] (c : Client) (command : Command)
    (layout : Json.Layout) (seen : List Http.Request) (out : Sink) {t : List Char}
    {server server' : Http.Server} {r r' : Http.Response}
    (hserver : server (seen ++ [c.requestFor command]) = .answer r)
    (hserver' : server' (seen ++ [c.requestFor command]) = .answer r')
    (hfinal : r.target? (c.requestFor command).url = none)
    (hfinal' : r'.target? (c.requestFor command).url = none)
    (hcomplete : r.complete = true) (hcomplete' : r'.complete = true)
    (hstatus : r.status = r'.status) (ht : Http.Carries t r) (ht' : Http.Carries t r') :
    let step := command.run (c.api server) layout seen out
    let step' := command.run (c.api server') layout seen out
    step.result = step'.result ∧ step.out = step'.out ∧ step.state = step'.state ∧
      ContentCoding.decode r.body r.contentEncoding = .ok (Text.Utf8.encode t) ∧
      ContentCoding.decode r'.body r'.contentEncoding = .ok (Text.Utf8.encode t) := by
  have hd := Http.decode_of_carries ht
  have hd' := Http.decode_of_carries ht'
  have houtcome := command.outcome_congr hstatus (hcomplete.trans hcomplete'.symm) hd hd'
  have hcall :
      (command.call (c.api server) seen).result = (command.call (c.api server') seen).result
      ∧ (command.call (c.api server) seen).state = (command.call (c.api server') seen).state := by
    simp only [Command.call_result, Command.call_state]
    by_cases htimeout : c.timeout = some 0
    · -- nothing is sent, to either server
      simp only [Client.exchange_of_untimed htimeout, and_self]
    · rw [Client.exchange_of_final htimeout hserver hfinal,
        Client.exchange_of_final htimeout hserver' hfinal']
      exact ⟨houtcome, rfl⟩
  obtain ⟨hresult, hout, hstate⟩ := Command.run_congr hcall.1 hcall.2 layout out
  exact ⟨hresult, hout, hstate, hd, hd'⟩

/-- An empty object, sent as it is under a padded label. -/
def plainBraces : Http.Response where
  status := 200
  fields := [("content-ENCODING", Text.Utf8.encode ([' '] ++ "Identity".toList ++ ['\t']))]
  body := [0x7b, 0x7d]

/-- The same object in one block of fixed codes, under the older name of the coding. -/
def packedBraces : Http.Response where
  status := 200
  fields := [("Server", []), ("Content-Encoding", Text.Utf8.encode ([] ++ "X-GZip".toList ++ []))]
  body := [31, 139, 8, 0, 0, 0, 0, 0, 2, 3, 171, 174, 5, 0, 67, 191, 166, 163, 2, 0, 0, 0]

theorem carries_plainBraces : Http.Carries ['\x7b', '\x7d'] plainBraces := by
  have hpadded : Http.Padded "identity" (Text.Utf8.encode ([' '] ++ "Identity".toList ++ ['\t'])) :=
    .mk (List.forall_mem_singleton.mpr (.inl rfl)) (by decide)
      (List.forall_mem_singleton.mpr (.inr rfl))
  have hlabel : Http.Labelled plainBraces.fields (some "identity") := .here (by decide) hpadded
  exact .plain hlabel (by decide) (by decide)

theorem carries_packedBraces : Http.Carries ['\x7b', '\x7d'] packedBraces := by
  have hpadded : Http.Padded "x-gzip" (Text.Utf8.encode ([] ++ "X-GZip".toList ++ [])) :=
    .mk (List.forall_mem_nil _) (by decide) (List.forall_mem_nil _)
  have hlabel : Http.Labelled packedBraces.fields (some "x-gzip") :=
    .later (by decide) (.here (by decide) hpadded)
  exact .packed hlabel (by decide) (eq_ok_of_toOption (by decide +kernel))

section

open scoped Builtin

theorem run_eq_of_carries_braces :
    let c : Client := ⟨⟨Url.http, [], [], none, none, .segments [[]], none, none⟩, true, none⟩
    let step := (Command.fetch .default).run (c.api fun _ => .answer plainBraces) .compact [] {}
    let step' := (Command.fetch .default).run (c.api fun _ => .answer packedBraces) .compact [] {}
    step.result = step'.result ∧ step.out = step'.out ∧ step.state = step'.state ∧
      ContentCoding.decode plainBraces.body plainBraces.contentEncoding
        = .ok (Text.Utf8.encode ['\x7b', '\x7d']) ∧
      ContentCoding.decode packedBraces.body packedBraces.contentEncoding
        = .ok (Text.Utf8.encode ['\x7b', '\x7d']) := by
  intro c
  exact @run_eq_of_carries _ _ c (.fetch .default) .compact [] {} _ (fun _ => .answer plainBraces)
    (fun _ => .answer packedBraces) plainBraces packedBraces rfl rfl rfl rfl rfl rfl rfl
    carries_plainBraces carries_packedBraces

end

end TaskProbe
