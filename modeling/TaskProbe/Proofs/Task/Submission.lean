import TaskProbe.Builtin
import TaskProbe.CommandLine.Basic
import TaskProbe.Proofs.ContentCoding
import TaskProbe.Proofs.Json.Parsed
import TaskProbe.Proofs.Json.Reading
import TaskProbe.Proofs.Json.Writing
import TaskProbe.Proofs.Task.Call

/-!
# Submitted documents

What is posted is the document (`submit_posts_document`): the body of the request unpacks, as its own
label says, to the compact text of the document, and that text is read as the document again. Whether
requests are compressed only shows in the body and its label, so a server that unpacks bodies cannot
tell.
-/

namespace TaskProbe

open Text

/-! ## The request -/

namespace Client

section Request

variable [Gzip.Compressor] (c : Client) (id : TaskId) (payload : Json.Value)

/-- The request carries the compact text of the document, packed or not. -/
theorem document_submitRequest :
    (c.submitRequest id payload).document = .ok (Utf8.encode payload.compact.toList) := by
  unfold Http.Request.document submitRequest
  by_cases hc : c.compress
  · -- the label is there if and only if the text is packed
    simp only [hc, if_true]
    exact ContentCoding.decode_of_labelled (by decide) (Gzip.gunzip_pack _)
  · simp only [hc]
    exact ContentCoding.decode_encode (by decide) _

/-- Requests that only differ in how they are packed have the same gist. -/
theorem gist_submitRequest (compress : Bool) :
    (({ c with compress := compress } : Client).submitRequest id payload).gist
      = (c.submitRequest id payload).gist := by
  unfold Http.Request.gist
  rw [document_submitRequest, document_submitRequest]
  rfl

end Request

/-- What an exchange sends: the request first of all, unless there is no time for it or nobody takes
the connection. -/
theorem exchange_seen [Url.Idna] (c : Client) (server : Http.Server) (seen : List Http.Request)
    (request : Http.Request) : ∃ sent,
    (c.exchange server seen request).seen = seen ++ sent ∧
      (sent = [] → c.timeout = some 0 ∨ server (seen ++ [request]) = .refused) ∧
      ∀ q, sent.head? = some q → q = request := by
  by_cases ht : c.timeout = some 0
  · rw [exchange_of_untimed ht]
    exact ⟨[], (List.append_nil seen).symm, fun _ => .inl ht, by rintro q ⟨⟩⟩
  · rw [exchange_of_timed ht, Http.Exchange.within_seen]
    rcases Http.exchangeFrom_seen server request.url Http.maxRedirects seen request with
      ⟨hrefused, h⟩ | ⟨more, h⟩
    · exact ⟨[], h.trans (List.append_nil seen).symm, fun _ => .inr hrefused, by rintro q ⟨⟩⟩
    · exact ⟨request :: more, h, by rintro ⟨⟩, by rintro q ⟨⟩; rfl⟩

theorem submit_seen [Url.Idna] [Gzip.Deflater] (c : Client) (server : Http.Server)
    (seen : List Http.Request) (id : TaskId) (payload : Json.Value) : ∃ sent,
    (c.submit server id payload seen).state = seen ++ sent ∧
      (sent = [] → c.timeout = some 0 ∨ server (seen ++ [c.submitRequest id payload]) = .refused) ∧
      ∀ q, sent.head? = some q → q = c.submitRequest id payload := by
  rw [submit_state]
  exact c.exchange_seen server seen _

/-- A server that unpacks bodies makes no difference between clients that pack them or do not. -/
theorem submit_result_congr [Url.Idna] [Gzip.Compressor] (c : Client) {server : Http.Server}
    (hserver : Http.ReadsGists server) (seen : List Http.Request) (id : TaskId)
    (payload : Json.Value) (compress : Bool) :
    (({ c with compress := compress } : Client).submit server id payload seen).result
      = (c.submit server id payload seen).result := by
  have hgist := gist_submitRequest c id payload compress
  have hexchange : (({ c with compress := compress } : Client).exchange server seen
      (({ c with compress := compress } : Client).submitRequest id payload)).result
      = (c.exchange server seen (c.submitRequest id payload)).result := by
    by_cases ht : c.timeout = some 0
    · rw [exchange_of_untimed ht, exchange_of_untimed (c := { c with compress := compress }) ht]
      rfl
    · rw [exchange_of_timed ht, exchange_of_timed (c := { c with compress := compress }) ht]
      exact Http.Exchange.within_result_congr _
        (Http.exchangeFrom_result_congr hserver _ _ rfl hgist)
  rw [submit_result, submit_result]
  unfold Http.Exchange.reading
  rw [hexchange]

end Client

/-! ## The document -/

/-- What a layout writes is read again. -/
theorem Json.parse_write {v : Value} (hi : v.Integral) (ho : v.Ordered) (hd : v.depth ≤ maxDepth)
    (layout : Layout) {g : List UInt8} (hg : IsGap g) :
    parse (Utf8.encode (v.write layout) ++ g) = .ok v :=
  parse_of_spelling (spelling_write hi ho layout) hd isGap_nil hg

theorem Json.parse_compact {v : Value} (hi : v.Integral) (ho : v.Ordered)
    (hd : v.depth ≤ maxDepth) : parse (Utf8.encode v.compact.toList) = .ok v := by
  have h := parse_write hi ho hd .compact isGap_nil
  rwa [List.append_nil, ← String.toList_ofList (l := v.write .compact)] at h

theorem readPayload_of_parse {files : Files} {path : String} {content : List UInt8} {v : Json.Value}
    (hf : files path.toList = .ok content) (h : Json.parse content = .ok v) :
    readPayload files path = .ok v := by
  unfold readPayload
  rw [hf]
  dsimp only
  rw [h]
  rfl

theorem TaskId.parse_of_trim {raw : List Char} {id : TaskId} (h : trim raw = id.text) :
    parse raw = .ok id := by
  obtain ⟨text, valid⟩ := id
  subst h
  unfold parse
  dsimp only
  split
  · rfl
  · next h => cases valid.symm.trans h

theorem CommandLine.command_of_readPayload {line : CommandLine} {files : Files} {path : String}
    {id : TaskId} {v : Json.Value} (hs : line.submit = some path)
    (hid : TaskId.parse line.taskId.toList = .ok id) (h : readPayload files path = .ok v) :
    line.command files = .ok (.submit id v) := by
  unfold command
  rw [hid, hs]
  show (readPayload files path).bind _ = _
  rw [h]
  rfl

/-- **What is posted is the document.** The first request is a POST to the task whose body unpacks, as
its own label says, to the compact text of the document; the label is there exactly if requests are
compressed. If the numbers of the document are integers of 64 bits and it does not nest too deeply,
that text is read as the document again, and a file that spells the document is submitted as this
document. A server that only looks at what requests are about gives the same result with and without
compression, and fetching does not depend on compression at all. -/
theorem submit_posts_document [Url.Idna] [Gzip.Compressor] (c : Client) (server : Http.Server)
    (seen : List Http.Request) (id : TaskId) (payload : Json.Value) :
    (∃ sent, (c.submit server id payload seen).state = seen ++ sent ∧
      (sent = [] →
        c.timeout = some 0 ∨ server (seen ++ [c.submitRequest id payload]) = .refused) ∧
      ∀ request, sent.head? = some request → request.method = .post ∧
        request.url = { c.taskUrl id with username := [], password := [] } ∧
        ContentCoding.decode request.body (request.contentEncoding.map String.toList)
          = .ok (Utf8.encode payload.compact.toList) ∧
        request.contentEncoding = if c.compress then some "gzip" else none) ∧
    (payload.Integral → payload.Ordered → payload.depth ≤ 127 →
      Json.parse (Utf8.encode payload.compact.toList) = .ok payload) ∧
    (∀ (line : CommandLine) (files : Files) (path : String) (before text after : List UInt8),
      line.submit = some path → TaskId.parse line.taskId.toList = .ok id →
      files path.toList = .ok (before ++ (text ++ after)) →
      Json.IsGap before → Json.Spelling payload text → Json.IsGap after →
      payload.depth ≤ 127 →
        line.command files = .ok (.submit id payload) ∧
        Json.parse (Utf8.encode payload.compact.toList) = .ok payload) ∧
    (Http.ReadsGists server → ∀ compress,
      (({ c with compress := compress } : Client).submit server id payload seen).result
        = (c.submit server id payload seen).result) ∧
    ∀ compress, ({ c with compress := compress } : Client).fetchRequest id = c.fetchRequest id ∧
      ({ c with compress := compress } : Client).fetch server id seen
        = c.fetch server id seen := by
  refine ⟨?_, ?_, ?_, ?_, fun _ => ⟨rfl, rfl⟩⟩
  · obtain ⟨sent, hseen, hsent, hhead⟩ := c.submit_seen server seen id payload
    refine ⟨sent, hseen, hsent, fun request hr => ?_⟩
    rw [hhead request hr]
    exact ⟨rfl, rfl, c.document_submitRequest id payload, rfl⟩
  · exact Json.parse_compact
  · intro line files path before text after hs hid hf hbefore ht hafter hd
    have hparse := Json.parse_of_spelling ht hd hbefore hafter
    have hcommand := CommandLine.command_of_readPayload hs hid (readPayload_of_parse hf hparse)
    have hordered := (Json.wellFormed_of_parse hparse).ordered
    exact ⟨hcommand, Json.parse_compact (Json.integral_of_spelling ht) hordered hd⟩
  · intro hserver
    exact c.submit_result_congr hserver seen id payload

/-- A document of one field. -/
def oneField : Json.Value := .object [("n", .number (.int 1))]

/-- The document with blanks around its parts and an escape in its key. -/
def spelledField : List UInt8 :=
  Json.Byte.openBrace :: ([0x20] ++ ((Json.Byte.quote :: (([Json.Byte.backslash, 0x75, 0x30, 0x30,
    0x36, 0x45] ++ []) ++ Json.Byte.quote :: ([0x09] ++ Json.Byte.colon :: ([] ++
      Utf8.encode (decimalInt 1))))) ++ ([0x0A] ++ [Json.Byte.closeBrace])))

theorem spelling_spelledField : Json.Spelling oneField spelledField := by
  have hzero : Json.Byte.hexValue? 0x30 = some 0 := by decide
  have hdigits : Json.FourDigits [0x30, 0x30, 0x36, 0x45] 0x6E :=
    .mk hzero hzero (by decide : Json.Byte.hexValue? 0x36 = some 6)
      (by decide : Json.Byte.hexValue? 0x45 = some 14)
  have hkey : Json.StringSpelling "n".toList ([Json.Byte.backslash, 0x75, 0x30, 0x30, 0x36, 0x45]
      ++ []) := .cons (.code hdigits) .nil
  have hone : Json.Spelling (.number (.int 1)) (Utf8.encode (decimalInt 1)) :=
    .int (by decide) (by decide)
  exact .fields (List.pairwise_singleton _ _) (.refl _) (Json.isGap_of_all rfl)
    (.last (.mk hkey (Json.isGap_of_all rfl) Json.isGap_nil hone)
      (Json.isGap_of_all rfl))

/-- A server that sends back the latest document, unpacked. -/
def echo : Http.Server := fun seen =>
  match (seen.map Http.Request.gist).getLast? with
  | some (_, _, .ok document) => .answer { status := 200, body := document }
  | _ => .answer { status := 400 }

theorem readsGists_echo : Http.ReadsGists echo := by
  intro seen seen' h
  rw [echo, echo, h]

/-- Whoever submits a document there gets it back, if it can be read again. -/
theorem Client.submit_echo [Url.Idna] [Gzip.Compressor] {c : Client} (ht : c.timeout ≠ some 0)
    (seen : List Http.Request) (id : TaskId) {payload : Json.Value}
    (h : Json.parse (Utf8.encode payload.compact.toList) = .ok payload) :
    (c.submit echo id payload seen).result = .ok ⟨200, payload⟩ := by
  have hanswer : echo (seen ++ [c.submitRequest id payload])
      = .answer { status := 200, body := Utf8.encode payload.compact.toList } := by
    rw [echo, List.map_append, List.map_singleton, List.getLast?_concat, Http.Request.gist,
      document_submitRequest]
  have hreceived : Received.ofResponse { status := 200, body := Utf8.encode payload.compact.toList }
      = .ok ⟨200, none, Utf8.encode payload.compact.toList⟩ := by
    show (ContentCoding.decode (Utf8.encode payload.compact.toList) none).map _ = _
    rw [ContentCoding.decode_encode (by decide)]
    rfl
  rw [submit_result, exchange_of_final ht hanswer rfl]
  show (Received.ofResponse _).map Submitted.ofReceived = _
  rw [hreceived]
  show Except.ok (Submitted.ofReceived _) = _
  rw [Submitted.ofReceived, h]

theorem ordered_oneField : oneField.Ordered :=
  .object (List.pairwise_singleton _ _) (List.forall_mem_singleton.mpr (.number _))

theorem submit_posts_document_oneField :
    letI := Builtin.asciiNames
    letI := Gzip.Compressor.stored
    let c : Client := ⟨⟨Url.http, [], [], none, none, .segments [[]], none, none⟩, true, none⟩
    let line : CommandLine := { submit := some "document" }
    line.command (fun _ => .ok ([] ++ (spelledField ++ [0x0A]))) = .ok (.submit .default oneField) ∧
      Json.parse (Utf8.encode oneField.compact.toList) = .ok oneField ∧
      (c.submit echo .default oneField []).result = .ok ⟨200, oneField⟩ ∧
      (({ c with compress := false } : Client).submit echo .default oneField []).result
        = .ok ⟨200, oneField⟩ := by
  let := Builtin.asciiNames
  let := Gzip.Compressor.stored
  intro c line
  obtain ⟨-, hread, hfile, hserver, -⟩ := submit_posts_document c echo [] .default oneField
  have hinput := hfile line (fun _ => .ok ([] ++ (spelledField ++ [0x0A]))) "document" []
    spelledField [0x0A] rfl (TaskId.parse_of_trim (by decide)) rfl Json.isGap_nil
    spelling_spelledField (Json.isGap_of_all rfl) (by decide)
  have hintegral : oneField.Integral := Json.integral_of_spelling spelling_spelledField
  have hparse := hread hintegral ordered_oneField (by decide)
  have hpacked : (c.submit echo .default oneField []).result = .ok ⟨200, oneField⟩ :=
    Client.submit_echo (by decide) [] .default hparse
  exact ⟨hinput.1, hparse, hpacked, (hserver readsGists_echo false).trans hpacked⟩

end TaskProbe
