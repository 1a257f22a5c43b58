import TaskProbe.Proofs.Json.Compact
import TaskProbe.Proofs.Task.Resubmission
import TaskProbe.Proofs.Task.Session

/-!
# One line for each document

What a session prints in the compact layout is one line for each answer (`compact_output_is_lines`): cut
at its line ends, the output gives the documents back, in order and with nothing left over. No line end
stands inside a document, because no byte of a compact text is a control character.
-/

namespace TaskProbe

open Text

/-- The byte at the end of a line. -/
def lineEnd : UInt8 := 0x0A

/-- The answers of those steps whose call succeeded, in order. -/
def answersOf {σ : Type} (api : TaskApi σ) : List Ask → σ → List Answer
  | [], _ => []
  | ask :: asks, s =>
    match ask.answer api s with
    | (.ok a, s) => a :: answersOf api asks s
    | (.error _, s) => answersOf api asks s

namespace Answer

/-- The compact text of an answer's body. -/
def line (a : Answer) : List UInt8 := Utf8.encode (a.body.write .compact)

/-- What a step with this answer comes to. -/
def outcome (a : Answer) : Outcome := ⟨a.status, a.body, a.serverError⟩

theorem not_mem_line (a : Answer) : lineEnd ∉ a.line := by
  intro h
  exact absurd (Json.visible_compact a.body lineEnd h) (by decide)

theorem line_ne_nil (a : Answer) : a.line ≠ [] :=
  Utf8.encode_ne_nil (Json.writeCompact_ne_nil a.body)

end Answer

/-! ## Cutting lines -/

/-- Lines that were ended one by one are found again by cutting at their ends. -/
theorem splitOn_lines {lines : List (List UInt8)} (h : ∀ line ∈ lines, lineEnd ∉ line) :
    (lines.flatMap (· ++ [lineEnd])).splitOn lineEnd = lines ++ [[]] := by
  induction lines with
  | nil => exact List.splitOn_nil lineEnd
  | cons line lines ih =>
    have hline : ∀ b ∈ line, (b == lineEnd) = false := by
      intro b hb
      rw [beq_eq_false_iff_ne]
      rintro rfl
      exact h line List.mem_cons_self hb
    have hrest := ih fun l hl => h l (List.mem_cons_of_mem _ hl)
    rw [List.splitOn_eq_splitOnP] at hrest ⊢
    rw [List.flatMap_cons, List.append_assoc, List.singleton_append,
      List.splitOnP_append_cons_of_forall_mem hline lineEnd (by rfl), hrest, List.cons_append]

section Sessions

variable {σ : Type} (api : TaskApi σ)

theorem linesOf_compact (asks : List Ask) (s : σ) : linesOf api .compact asks s
    = ((answersOf api asks s).map Answer.line).flatMap (· ++ [lineEnd]) := by
  induction asks generalizing s with
  | nil => rfl
  | cons ask asks ih =>
    rw [linesOf, answersOf, ih]
    cases hanswer : ask.answer api s with
    | mk answer s' =>
      cases answer with
      | error e => rfl
      | ok a =>
        simp only [lineOf, Utf8.encode_append, List.map_cons, List.flatMap_cons]
        rfl

/-- An output that takes everything and can be flushed leaves every answer as it is. -/
theorem results_of_unlimited (layout : Json.Layout) (asks : List Ask) (s : σ) (out : Sink)
    (hroom : out.room = none) (hflush : out.canFlush = true) :
    (session api layout asks s out).results.filterMap Except.toOption
      = (answersOf api asks s).map Answer.outcome := by
  induction asks generalizing s out with
  | nil => rfl
  | cons ask asks ih =>
    obtain ⟨hstate, hstep⟩ := ask.run_eq api layout s out
    rw [session, answersOf]
    dsimp only
    cases hanswer : ask.answer api s with
    | mk answer s' =>
      rw [hanswer] at hstate hstep
      cases answer with
      | error e =>
        obtain ⟨hresult, hout⟩ := hstep
        rw [List.filterMap_cons, hresult, hstate, hout]
        exact ih s' out hroom hflush
      | ok a =>
        obtain ⟨hresult, hout⟩ := hstep
        have hfits := out.fits_of_unlimited hroom (lineOf layout (.ok a)).length
        rw [Sink.verdict, if_pos hfits, if_pos hflush] at hresult
        rw [List.filterMap_cons, hresult, hstate, hout]
        exact congrArg (a.outcome :: ·) (ih s' _ (by simp [Sink.after, hroom]) hflush)

/-- Every answer is one to some command. -/
theorem exists_command_of_mem {asks : List Ask} {s : σ} {a : Answer}
    (h : a ∈ answersOf api asks s) :
    ∃ (command : Command) (s : σ), (command.call api s).result = .ok a.outcome := by
  induction asks generalizing s with
  | nil => cases h
  | cons ask asks ih =>
    rw [answersOf] at h
    cases hanswer : ask.answer api s with
    | mk answer s' =>
      rw [hanswer] at h
      cases answer with
      | error e => exact ih h
      | ok b =>
        rcases List.mem_cons.mp h with rfl | h
        · unfold Ask.answer at hanswer
          cases hcommand : ask.command with
          | error e =>
            rw [hcommand] at hanswer
            cases hanswer
          | ok command =>
            rw [hcommand] at hanswer
            refine ⟨command, s, ?_⟩
            rw [(command.call_answer api s).1]
            dsimp only at hanswer
            rw [hanswer]
            rfl
        · exact ih h

end Sessions

theorem Answer.parse_line {a : Answer} (hi : a.body.Integral) (ho : a.body.Ordered)
    (hd : a.body.depth ≤ Json.maxDepth) : Json.parse a.line = .ok a.body := by
  have h := Json.parse_write hi ho hd .compact Json.isGap_nil
  rwa [List.append_nil] at h

/-- **Compact output is one line for each document.** No byte of a compact text is below the space. So
what a session prints into an output that takes everything is cut at its line ends into the compact
texts of the answers, in order and with nothing left over, and if the output can be flushed these are
the outcomes of the steps. No line is empty, and each is read as its document again, if the numbers
are integers of 64 bits, the keys are in order and it does not nest too deeply. For what a client
receives only the first of these has to be asked. -/
theorem compact_output_is_lines [Url.Idna] [Gzip.Deflater] :
    (∀ v : Json.Value, ∀ b ∈ Utf8.encode (v.write .compact), 0x20 ≤ b) ∧
    (∀ (σ : Type) (api : TaskApi σ) (asks : List Ask) (s : σ) (canFlush : Bool),
      let run := session api .compact asks s { canFlush }
      let answers := answersOf api asks s
      run.out.written.splitOn lineEnd = answers.map Answer.line ++ [[]] ∧
      (canFlush = true → run.results.filterMap Except.toOption = answers.map Answer.outcome) ∧
      ∀ a ∈ answers, a.line ≠ [] ∧ (a.body.Integral → a.body.Ordered → a.body.depth ≤ 127 →
        Json.parse a.line = .ok a.body)) ∧
    ∀ (c : Client) (server : Http.Server) (asks : List Ask) (seen : List Http.Request),
      ∀ a ∈ answersOf (c.api server) asks seen, a.body.Integral →
        Json.parse a.line = .ok a.body := by
  refine ⟨Json.visible_compact, ?_, ?_⟩
  · intro σ api asks s canFlush run answers
    obtain ⟨-, flushes, hout⟩ := session_end api .compact asks s { canFlush }
    have hwritten : run.out.written = (answers.map Answer.line).flatMap (· ++ [lineEnd]) := by
      rw [hout, ← linesOf_compact]
      rfl
    refine ⟨?_, results_of_unlimited api .compact asks s { canFlush } rfl, fun a _ => ?_⟩
    · rw [hwritten, splitOn_lines]
      intro line hline
      obtain ⟨a, -, rfl⟩ := List.mem_map.mp hline
      exact a.not_mem_line
    · exact ⟨a.line_ne_nil, Answer.parse_line⟩
  · intro c server asks seen a ha hi
    obtain ⟨command, s, hcall⟩ := exists_command_of_mem _ ha
    obtain ⟨hd, ho⟩ := Command.wellFormed_of_call hcall
    exact Answer.parse_line hi ho hd

/-- An interface whose answers have line ends in their texts. -/
def TaskApi.multiline : TaskApi Unit where
  fetch _ _ := ⟨.ok ⟨200, none, .object [("a\n", .null)], none⟩, [], ()⟩
  submit _ _ _ := ⟨.ok ⟨200, .string "ok\n"⟩, [], ()⟩

/-- Three steps, the second of them without an answer, leave two lines. -/
theorem compact_output_is_lines_multiline :
    let asks : List Ask := [⟨['1'], none⟩, ⟨['.'], none⟩, ⟨['2'], some .null⟩]
    (session .multiline .compact asks () {}).out.written.splitOn lineEnd
        = [Utf8.encode "\x7b\"a\\n\":null\x7d".toList, Utf8.encode "\"ok\\n\"".toList, []] ∧
      Json.parse (Utf8.encode "\"ok\\n\"".toList) = .ok (.string "ok\n") := by
  intro asks
  let := Builtin.asciiNames
  let := Builtin.storedData
  obtain ⟨-, hlines, -⟩ := compact_output_is_lines
  obtain ⟨hsplit, -, hread⟩ := hlines Unit .multiline asks () true
  have hanswers : answersOf .multiline asks ()
      = [.task ⟨200, none, .object [("a\n", .null)], none⟩, .receipt ⟨200, .string "ok\n"⟩] := by
    rfl
  rw [hanswers] at hsplit hread
  have hline := (hread (.receipt ⟨200, .string "ok\n"⟩) (by simp)).2 (.string _) (.string _)
    (Nat.zero_le _)
  exact ⟨hsplit.trans (by decide +kernel), hline⟩

end TaskProbe
