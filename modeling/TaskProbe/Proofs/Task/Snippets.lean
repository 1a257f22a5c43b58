import TaskProbe.Proofs.Task.Replies

/-!
# The start of a body in a message

A message that shows a body shows its first characters (`snippet`). They are cut after decoding, so a
character is shown whole or not at all; and since a step of the decoder takes at most four bytes, only
the start of the body is looked at.

* `snippet_encode_append`: a text with any bytes behind it
* `snippet_take`: the bytes that a snippet depends on
* `snippet_is_clean_prefix`: what a snippet shows, and where it is shown
-/

namespace TaskProbe

open Text

/-! ## Snippets of bytes -/

theorem length_snippet_le (data : List UInt8) : (snippet data).length ≤ maxSnippet :=
  List.length_take_le maxSnippet _

/-- Bytes behind a text only show where the text leaves room. -/
theorem snippet_encode_append (text : List Char) (rest : List UInt8) :
    snippet (Utf8.encode text ++ rest) = (text ++ Utf8.lossy rest).take maxSnippet := by
  rw [snippet, Utf8.lossy_encode_append]

/-- A text that is long enough leaves no room. -/
theorem snippet_of_long {text : List Char} (h : maxSnippet ≤ text.length) (rest : List UInt8) :
    snippet (Utf8.encode text ++ rest) = text.take maxSnippet := by
  rw [snippet_encode_append, List.take_append_of_le_length h]

theorem snippet_of_short {text : List Char} (h : text.length ≤ maxSnippet) :
    snippet (Utf8.encode text) = text := by
  rw [snippet, Utf8.lossy_encode, List.take_of_length_le h]

/-- A snippet depends on no more bytes than its characters can take, well formed or not. -/
theorem snippet_take (data : List UInt8) : snippet (data.take (4 * maxSnippet)) = snippet data := by
  rcases Nat.le_total data.length (4 * maxSnippet) with h | h
  · rw [List.take_of_length_le h]
  · have hfront : 4 * maxSnippet ≤ (data.take (4 * maxSnippet)).length := by
      rw [List.length_take]
      omega
    have happend := Utf8.take_lossy_append maxSnippet hfront (data.drop (4 * maxSnippet))
    rw [List.take_append_drop] at happend
    exact happend.symm

/-! ## Snippets in errors -/

theorem Unpacked.unpackedOrRaw_eq {r : Http.Response} {data : List UInt8} (h : Unpacked r data) :
    unpackedOrRaw r = data := by
  cases h with
  | whole h => rw [unpackedOrRaw, h]
  | raw h => rw [unpackedOrRaw, h]

/-- Any command ends with a snippet of the body when the response reports no success. -/
theorem Command.outcome_of_failure (command : Command) {r : Http.Response} {data : List UInt8}
    (hc : r.complete = true) (hs : ¬ r.Succeeds) (hdata : Unpacked r data) :
    command.outcome r = .error (.httpStatus r.status (String.ofList (snippet data))) := by
  have herror := Received.ofResponse_of_failure hc hs
  rw [hdata.unpackedOrRaw_eq] at herror
  exact Command.outcome_of_error herror

/-- **A snippet is a clean and bounded start of a body.** It has at most 512 characters. Bytes that are
a text of no more characters are shown as they are; if they start with a text of at least 512
characters, its first 512 are shown, whatever follows and even if it ends within a character. No byte
after the first 2048 is looked at. A response that reports no success is an error with its status and
the snippet of its body, so failures with one status whose bodies start alike are the same error. -/
theorem snippet_is_clean_prefix :
    (∀ data, (snippet data).length ≤ 512) ∧
    (∀ data text, Utf8.decode? data = some text → text.length ≤ 512 →
      snippet data = text ∧ Utf8.encode (snippet data) = data) ∧
    (∀ text rest, 512 ≤ text.length →
      snippet (Utf8.encode text ++ rest) = text.take 512) ∧
    (∀ data, snippet (data.take 2048) = snippet data) ∧
    (∀ (command : Command) (r : Http.Response) data, r.complete = true → ¬ r.Succeeds →
      Unpacked r data →
      command.outcome r = .error (.httpStatus r.status (String.ofList (snippet data)))) ∧
    ∀ (command : Command) (r r' : Http.Response) data data', r.complete = true →
      r'.complete = true → ¬ r.Succeeds → r.status = r'.status → Unpacked r data →
      Unpacked r' data' → data.take 2048 = data'.take 2048 →
      command.outcome r = command.outcome r' := by
  refine ⟨length_snippet_le, ?_, fun text rest h => snippet_of_long h rest, snippet_take,
    fun command r data hc hs hdata => command.outcome_of_failure hc hs hdata, ?_⟩
  · intro data text hdecode hlength
    rw [Utf8.decode?_eq_some_iff] at hdecode
    have hshown : snippet data = text := by
      rw [hdecode]
      exact snippet_of_short hlength
    exact ⟨hshown, by rw [hshown, hdecode]⟩
  · intro command r r' data data' hc hc' hs hstatus hdata hdata' hstart
    have hs' : ¬ r'.Succeeds := by
      rw [Http.Response.Succeeds, ← hstatus]
      exact hs
    have hshown : snippet data = snippet data' := by
      rw [← snippet_take data, ← snippet_take data']
      exact congrArg snippet hstart
    rw [command.outcome_of_failure hc hs hdata, command.outcome_of_failure hc' hs' hdata', hstatus,
      hshown]

/-- A failure with a body of 2048 bytes, all of them text, and some bytes behind them. -/
def longFailure (rest : List UInt8) : Http.Response where
  status := 500
  body := Utf8.encode (List.replicate 1024 'é') ++ rest

theorem snippet_is_clean_prefix_longFailure :
    snippet (Utf8.encode ['n', 'ö', '\n']) = ['n', 'ö', '\n'] ∧
      (Command.fetch .default).outcome (longFailure [0xC3])
        = .error (.httpStatus 500 (String.ofList (List.replicate 512 'é'))) ∧
      (Command.fetch .default).outcome (longFailure [0xC3])
        = (Command.fetch .default).outcome (longFailure [0xFF, 0x22]) := by
  obtain ⟨-, hshort, hlong, -, hfailed, hstart⟩ := snippet_is_clean_prefix
  have hstatus : ∀ rest, ¬ (longFailure rest).Succeeds := by
    rintro rest ⟨-, hle⟩
    exact absurd (show 500 ≤ 299 from hle) (by decide)
  refine ⟨(hshort _ _ (Utf8.decode?_encode ['n', 'ö', '\n']) (by decide)).1, ?_, ?_⟩
  · have hlength : 512 ≤ (List.replicate 1024 'é').length := by
      rw [List.length_replicate]
      omega
    rw [hfailed _ _ _ rfl (hstatus [0xC3]) (.whole rfl), longFailure, hlong _ _ hlength,
      List.take_replicate]
    rfl
  · have hbytes : (Utf8.encode (List.replicate 1024 'é')).length = 2048 := by decide +kernel
    refine hstart _ _ _ _ _ rfl rfl (hstatus _) rfl (.whole rfl) (.whole rfl) ?_
    rw [longFailure, longFailure, List.take_left' hbytes, List.take_left' hbytes]

end TaskProbe
