import TaskProbe.Proofs.Task.Call
import TaskProbe.Proofs.Task.Output

/-!
# Sessions

Several steps with one interface and one output (`session`). What the interface answers is said apart
from the output (`Ask.answer`, `stateAfter`), and so is what there is to print (`linesOf`). The main
statement, `session_contract`, puts the two together: the output holds as much of the lines as fits,
and neither an output that is full nor one that cannot be flushed changes what is asked of the
interface.

The invariant of a session is that the output is the one at the start, given all lines so far
(`session_end`).
-/

namespace TaskProbe

open Text

/-! ## Steps -/

/-- What is asked for in one step: the id as it was given, and the document to submit, if there is
one. -/
structure Ask where
  id : List Char
  payload : Option Json.Value := none

/-- The command of a step, if its id can be read. -/
def Ask.command (ask : Ask) : Except ProbeError Command :=
  (TaskId.parse ask.id).map fun id =>
    match ask.payload with
    | none => .fetch id
    | some payload => .submit id payload

/-- Runs a step. If its id cannot be read, that is its result and nothing else happens. -/
def Ask.run {σ : Type} (api : TaskApi σ) (layout : Json.Layout) (ask : Ask) (s : σ) (out : Sink) :
    Step σ :=
  match ask.command with
  | .error e => ⟨.error e, [], s, out⟩
  | .ok command => command.run api layout s out

/-- What several steps leave behind. -/
structure Session (σ : Type) where
  results : List (Except ProbeError Outcome)
  state : σ
  out : Sink

/-- Runs steps one after the other. -/
def session {σ : Type} (api : TaskApi σ) (layout : Json.Layout) : List Ask → σ → Sink → Session σ
  | [], s, out => ⟨[], s, out⟩
  | ask :: asks, s, out =>
    let step := ask.run api layout s out
    let rest := session api layout asks step.state step.out
    { rest with results := step.result :: rest.results }

/-! ## What the interface answers -/

/-- An answer of the interface. -/
inductive Answer where
  | task (r : Fetched)
  | receipt (r : Submitted)

namespace Answer

/-- The status of an answer. -/
def status : Answer → Nat
  | task r => r.status
  | receipt r => r.status

/-- The body of an answer. -/
def body : Answer → Json.Value
  | task r => r.body
  | receipt r => r.body

/-- The failure that an answer reports. A task comes with it, in a receipt it is found. -/
def serverError : Answer → Option ServerError
  | task r => r.serverError
  | receipt r => ServerError.ofBody r.body

end Answer

/-- What the interface answers to a command, and the state it is left in. -/
def Command.answer {σ : Type} (api : TaskApi σ) (s : σ) : Command → Except ProbeError Answer × σ
  | .fetch id => ((api.fetch id s).result.map .task, (api.fetch id s).state)
  | .submit id payload =>
    ((api.submit id payload s).result.map .receipt, (api.submit id payload s).state)

/-- The same for a step. The interface does not hear of an id that cannot be read. -/
def Ask.answer {σ : Type} (api : TaskApi σ) (s : σ) (ask : Ask) : Except ProbeError Answer × σ :=
  match ask.command with
  | .error e => (.error e, s)
  | .ok command => command.answer api s

/-- The state of the interface after some steps. -/
def stateAfter {σ : Type} (api : TaskApi σ) (asks : List Ask) (s : σ) : σ :=
  asks.foldl (fun s ask => (ask.answer api s).2) s

/-- The line that an answer is printed as. -/
def lineOf (layout : Json.Layout) : Except ProbeError Answer → List UInt8
  | .ok answer => Utf8.encode (answer.body.write layout ++ ['\n'])
  | .error _ => []

/-- The lines of some steps, one after the other. -/
def linesOf {σ : Type} (api : TaskApi σ) (layout : Json.Layout) : List Ask → σ → List UInt8
  | [], _ => []
  | ask :: asks, s =>
    lineOf layout (ask.answer api s).1 ++ linesOf api layout asks (ask.answer api s).2

/-- What a step comes to: its result, and how often a flush is tried. That depends on the answer and on
whether all lines fit up to its own, which ends at byte `total`. -/
inductive Settled (out : Sink) (total : Nat) :
    Except ProbeError Answer → Except ProbeError Outcome → Nat → Prop where
  | failed (e : ProbeError) : Settled out total (.error e) (.error e) 0
  | cut {a : Answer} (h : ¬ out.Fits total) :
      Settled out total (.ok a) (.error (.io "sink full")) 0
  | unflushed {a : Answer} (h : out.Fits total) (hf : out.canFlush = false) :
      Settled out total (.ok a) (.error (.io "flush failed")) 1
  | printed {a : Answer} (h : out.Fits total) (hf : out.canFlush = true) :
      Settled out total (.ok a) (.ok ⟨a.status, a.body, a.serverError⟩) 1

section Sessions

variable {σ : Type} (api : TaskApi σ) (layout : Json.Layout)

theorem linesOf_concat (before : List Ask) (ask : Ask) (s : σ) :
    linesOf api layout (before ++ [ask]) s = linesOf api layout before s
      ++ lineOf layout (ask.answer api (stateAfter api before s)).1 := by
  induction before generalizing s with
  | nil => simp [linesOf, stateAfter]
  | cons first before ih =>
    simp only [List.cons_append, linesOf, ih, List.append_assoc]
    rfl

/-! ## One step -/

/-- A call is what the interface answers. -/
theorem Command.call_answer (command : Command) (s : σ) :
    (command.call api s).result
      = (command.answer api s).1.map (fun a => ⟨a.status, a.body, a.serverError⟩) ∧
    (command.call api s).state = (command.answer api s).2 := by
  cases command with
  | fetch id =>
    refine ⟨?_, rfl⟩
    show (api.fetch id s).result.map _ = ((api.fetch id s).result.map _).map _
    cases (api.fetch id s).result <;> rfl
  | submit id payload =>
    refine ⟨?_, rfl⟩
    show (api.submit id payload s).result.map _ = ((api.submit id payload s).result.map _).map _
    cases (api.submit id payload s).result <;> rfl

/-- What a step does. -/
theorem Ask.run_eq (ask : Ask) (s : σ) (out : Sink) :
    let step := ask.run api layout s out
    let line := lineOf layout (ask.answer api s).1
    step.state = (ask.answer api s).2 ∧
    match (ask.answer api s).1 with
    | .error e => step.result = .error e ∧ step.out = out
    | .ok a =>
      step.result = (out.verdict line.length).map (fun _ => ⟨a.status, a.body, a.serverError⟩) ∧
      step.out = out.after line (if out.Fits line.length then 1 else 0) := by
  unfold run answer
  cases ask.command with
  | error e => exact ⟨rfl, rfl, rfl⟩
  | ok command =>
    obtain ⟨hresult, hstate⟩ := command.call_answer api s
    dsimp only
    cases hanswer : (command.answer api s).1 with
    | error e =>
      rw [hanswer] at hresult
      obtain ⟨_, hrun⟩ := Command.run_of_error hresult layout out
      rw [hrun]
      exact ⟨hstate, rfl, rfl⟩
    | ok a =>
      rw [hanswer] at hresult
      obtain ⟨_, hrun⟩ := Command.run_of_ok hresult layout out
      rw [hrun, out.print_eq]
      exact ⟨hstate, rfl, rfl⟩

/-! ## Whole sessions -/

theorem session_append (before more : List Ask) (s : σ) (out : Sink) :
    let done := session api layout before s out
    let rest := session api layout more done.state done.out
    session api layout (before ++ more) s out
      = ⟨done.results ++ rest.results, rest.state, rest.out⟩ := by
  induction before generalizing s out with
  | nil => rfl
  | cons ask before ih =>
    dsimp only [List.cons_append, session]
    rw [ih]

theorem length_results (asks : List Ask) (s : σ) (out : Sink) :
    (session api layout asks s out).results.length = asks.length := by
  induction asks generalizing s out with
  | nil => rfl
  | cons ask asks ih => exact congrArg (· + 1) (ih _ _)

/-- **The invariant of a session.** The output is the one at the start, given all lines so far, and the
interface is where its answers alone have brought it. -/
theorem session_end (asks : List Ask) (s : σ) (out : Sink) :
    (session api layout asks s out).state = stateAfter api asks s ∧
    ∃ flushes, (session api layout asks s out).out
      = out.after (linesOf api layout asks s) flushes := by
  induction asks generalizing s out with
  | nil => exact ⟨rfl, 0, out.after_nil.symm⟩
  | cons ask asks ih =>
    obtain ⟨hstate, hstep⟩ := ask.run_eq api layout s out
    obtain ⟨ihstate, flushes, ihout⟩ :=
      ih (ask.run api layout s out).state (ask.run api layout s out).out
    refine ⟨ihstate.trans (by rw [hstate]; rfl), ?_⟩
    show ∃ flushes, (session api layout asks _ _).out = _
    rw [ihout, hstate, linesOf]
    cases hanswer : (ask.answer api s).1 with
    | error e =>
      rw [hanswer] at hstep
      rw [hstep.2]
      exact ⟨flushes, rfl⟩
    | ok a =>
      rw [hanswer] at hstep
      rw [hstep.2, Sink.after_after]
      exact ⟨_, rfl⟩

/-- What the interface was called for is what could be asked of it. -/
theorem session_recorded (asks : List Ask) (calls : List Command) (s : σ) (out : Sink) :
    let run := session api layout asks s out
    session api.recorded layout asks (calls, s) out
      = ⟨run.results, (calls ++ asks.filterMap (·.command.toOption), run.state), run.out⟩ := by
  induction asks generalizing calls s out with
  | nil => simp [session]
  | cons ask asks ih =>
    dsimp only [session, Ask.run]
    cases hcommand : ask.command with
    | error e => simp [ih, hcommand, Except.toOption]
    | ok command => simp [Command.run_recorded, ih, hcommand, Except.toOption]

/-- A step comes to what the rules say, whatever happened to the output before it. -/
theorem settled_step (before : List Ask) (ask : Ask) (s : σ) (out : Sink) :
    let done := session api layout before s out
    let step := ask.run api layout done.state done.out
    ∃ flushes, Settled out (linesOf api layout (before ++ [ask]) s).length
        (ask.answer api (stateAfter api before s)).1 step.result flushes ∧
      step.out.flushes = done.out.flushes + flushes := by
  intro done step
  obtain ⟨hstate, flushes, hout⟩ := session_end api layout before s out
  have hrun := (ask.run_eq api layout done.state done.out).2
  change match (ask.answer api done.state).1 with
    | .error e => step.result = .error e ∧ step.out = done.out
    | .ok a => step.result = _ ∧ step.out = _ at hrun
  rw [linesOf_concat, ← hstate]
  cases hanswer : (ask.answer api done.state).1 with
  | error e =>
    rw [hanswer] at hrun
    rw [hrun.1, hrun.2]
    exact ⟨0, .failed e, rfl⟩
  | ok a =>
    rw [hanswer] at hrun
    obtain ⟨hresult, hsink⟩ := hrun
    -- a line is never empty, so one that does not fit leaves no room for another
    have hpos : 0 < (lineOf layout (.ok a)).length :=
      List.length_pos_iff.mpr (a.body.printed_ne_nil layout)
    have hfits : done.out.Fits (lineOf layout (.ok a)).length
        ↔ out.Fits (linesOf api layout before s ++ lineOf layout (.ok a)).length := by
      rw [hout, Sink.fits_after _ _ _ hpos, List.length_append]
    have hflush : done.out.canFlush = out.canFlush := by rw [hout]; rfl
    rw [hresult, hsink, Sink.verdict, hflush]
    by_cases h : out.Fits (linesOf api layout before s ++ lineOf layout (.ok a)).length
    · rw [if_pos (hfits.mpr h), if_pos (hfits.mpr h)]
      cases hcan : out.canFlush with
      | true => exact ⟨1, .printed h hcan, rfl⟩
      | false => exact ⟨1, .unflushed h hcan, rfl⟩
    · rw [if_neg (mt hfits.mp h), if_neg (mt hfits.mp h)]
      exact ⟨0, .cut h, rfl⟩

/-- **What a session prints, answers and asks.** After any number of steps the output holds as much as
fits of the lines of those steps whose call succeeded, and the interface was called once for each id
that can be read, in order. The result of each step, and whether a flush is tried, follows from what
the interface answers and from how many bytes there are to print up to the end of its line. -/
theorem session_contract (s : σ) (out : Sink) :
    (∀ asks : List Ask,
      let run := session api.recorded layout asks ([], s) out
      let lines := linesOf api layout asks s
      run.out.written = out.written ++ (match out.room with
        | none => lines
        | some limit => lines.take limit) ∧
      run.state.1 = asks.filterMap (·.command.toOption) ∧
      run.results.length = asks.length) ∧
    ∀ (before : List Ask) (ask : Ask) (more : List Ask),
      let run (asks : List Ask) := session api.recorded layout asks ([], s) out
      ∃ result flushes,
        (run (before ++ ask :: more)).results[before.length]? = some result ∧
        (run (before ++ [ask])).out.flushes = (run before).out.flushes + flushes ∧
        Settled out (linesOf api layout (before ++ [ask]) s).length
          (ask.answer api (stateAfter api before s)).1 result flushes := by
  simp only [session_recorded]
  refine ⟨fun asks => ⟨?_, rfl, length_results api layout asks s out⟩, fun before ask more => ?_⟩
  · obtain ⟨_, _, hout⟩ := session_end api layout asks s out
    rw [hout]
    rfl
  · obtain ⟨flushes, hsettled, hflushes⟩ := settled_step api layout before ask s out
    refine ⟨_, flushes, ?_, ?_, hsettled⟩
    · rw [session_append]
      simp [session, length_results]
    · rw [session_append]
      exact hflushes

end Sessions

end TaskProbe
