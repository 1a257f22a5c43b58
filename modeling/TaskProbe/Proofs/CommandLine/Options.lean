import TaskProbe.CommandLine.Arguments
import TaskProbe.Proofs.CommandLine.Parts
import TaskProbe.Proofs.Decimal.Digits

/-!
# Options in any order

An option that has its value attached is settled when it is read. So one argument after the other puts
its part into the command line (`run_part`), as long as nothing has been given for the part before, and
this stays so because the parts have distinct keys (`Part.IsFree.put`). What stands after the equals
sign is not looked at, so it may look like an option itself.
-/

namespace TaskProbe.CommandLine

open Text

namespace Part

/-- The argument that gives the part, if there is anything to give. -/
def argument? : Part → Option String
  | .submit (some path) => some ("--submit=" ++ path)
  | .compact true => some "--compact"
  | .noCompress true => some "--no-compress"
  | .timeoutSecs (some n) => some ("--timeout-secs=" ++ String.ofList (decimal n))
  | .config (some path) => some ("--config=" ++ path)
  | .logJson true => some "--log-json"
  | .verbose true => some "--verbose"
  | _ => none

/-- There is an option for the part, and it has not been given yet. -/
def IsFree (c : CommandLine) : Part → Prop
  | .taskId _ => False
  | .submit _ => c.submit = none
  | .compact _ => c.compact = false
  | .noCompress _ => c.noCompress = false
  | .timeoutSecs _ => c.timeoutSecs = none
  | .config _ => c.config = none
  | .logJson _ => c.logJson = false
  | .verbose _ => c.verbose = false

/-- Another part does not give this one. -/
theorem IsFree.put {c : CommandLine} {p q : Part} (h : p.IsFree c) (hne : q.key ≠ p.key) :
    p.IsFree (q.put c) := by
  cases p <;> cases q <;> first | exact h | exact absurd rfl hne

/-- Where no argument gives a free part, it is as it was. -/
theorem IsFree.put_of_none {c : CommandLine} {p : Part} (h : p.IsFree c) (hp : p.argument? = none) :
    p.put c = c := by
  cases p with
  | taskId _ => exact h.elim
  | submit path | timeoutSecs path | config path =>
    cases path with
    | none => rw [Part.put, ← h]
    | some x => cases hp
  | compact on | noCompress on | logJson on | verbose on =>
    cases on with
    | false => rw [Part.put, ← h]
    | true => cases hp

end Part

/-- The arguments that give the options of a command line, a value being attached to its option. -/
def options (c : CommandLine) : List String := c.optionParts.filterMap Part.argument?

/-! ## Single arguments -/

theorem readTimeout?_decimal {n : Nat} (h : n ≤ maxUInt64) :
    readTimeout? (String.ofList (decimal n)) = some n := by
  unfold readTimeout?
  rw [String.toList_ofList]
  split
  · next ds hds =>
    have hdigit : '+'.isDigit = true := isDigit_of_mem_decimal (hds ▸ List.mem_cons_self)
    exact absurd hdigit (by decide)
  · simp [readDigits?_decimal, h]

namespace State

variable {st : State} {line : CommandLine} {a : String}

theorem settle_of_nothing (h : st.pending = .nothing) : st.settle = .ok st := by
  unfold settle
  rw [h]

/-- An argument with two hyphens and a name. -/
theorem run_long {s : List Char} {st' : State} (hs : s ≠ []) (ha : a.toList = '-' :: '-' :: s)
    (h : st.long s = .ok st') (rest : List String) : st.run (a :: rest) = st'.run rest := by
  have hne : a ≠ "--" := by
    rintro rfl
    injection ha with _ ha
    injection ha with _ ha
    exact hs ha.symm
  rw [run, if_neg hne, argument, ha]
  show (st.long s).bind _ = _
  rw [h]
  rfl

theorem ne_nil_of_ofLongName? {name : List Char} {choice : Choice}
    (h : ofLongName? name = some choice) : name ≠ [] := by
  rintro rfl
  cases h

theorem ne_equals_of_mem {name : List Char} (h : '=' ∉ name) :
    ∀ c ∈ name, decide (c ≠ '=') = true :=
  fun _ hc => decide_eq_true fun heq => h (heq ▸ hc)

/-- An option without a value. -/
theorem run_flag (name : List Char) {f : Flag} (hname : ofLongName? name = some (.flag f))
    (hplain : '=' ∉ name) (hpending : st.pending = .nothing) (hraise : raise st.line f = .ok line)
    (ha : a.toList = '-' :: '-' :: name) (rest : List String) :
    st.run (a :: rest) = { st with line := line }.run rest := by
  have hchars := ne_equals_of_mem hplain
  have htake := takeWhile_run hchars startsOutside_nil
  have hdrop := dropWhile_run hchars startsOutside_nil
  rw [List.append_nil] at htake hdrop
  refine run_long (ne_nil_of_ofLongName? hname) ha ?_ rest
  rw [long, htake, hdrop, hname]
  dsimp only
  rw [flag, settle_of_nothing hpending]
  show (raise st.line f).bind _ = _
  rw [hraise]
  rfl

/-- An option with its value attached, which may be any text. -/
theorem run_setting (name : List Char) {o : Setting} {value : String}
    (hname : ofLongName? name = some (.setting o)) (hplain : '=' ∉ name)
    (hpending : st.pending = .nothing) (hset : set st.line o value = .ok line)
    (ha : a.toList = '-' :: '-' :: (name ++ '=' :: value.toList)) (rest : List String) :
    st.run (a :: rest) = { st with line := line }.run rest := by
  have hchars := ne_equals_of_mem hplain
  have hequals : StartsOutside (fun c => decide (c ≠ '=')) ('=' :: value.toList) :=
    startsOutside_cons (by decide)
  refine run_long (by simp) ha ?_ rest
  rw [long, takeWhile_run hchars hequals, dropWhile_run hchars hequals, hname]
  dsimp only
  rw [attach, settle_of_nothing hpending, String.ofList_toList]
  show (set st.line o value).bind _ = _
  rw [hset]
  rfl

/-- The argument of a part puts it in, if it has not been given before. -/
theorem run_part {p : Part} (hp : p.argument? = some a) (hpending : st.pending = .nothing)
    (hfree : p.IsFree st.line) (hfits : ∀ n, p = .timeoutSecs (some n) → n ≤ maxUInt64)
    (rest : List String) : st.run (a :: rest) = { st with line := p.put st.line }.run rest := by
  cases p with
  | taskId _ => cases hp
  | submit path =>
    cases path with
    | none => cases hp
    | some path =>
      cases hp
      exact run_setting "submit".toList rfl (by decide) hpending (by rw [set, hfree]; rfl)
        (by rw [String.toList_append]; rfl) rest
  | timeoutSecs n =>
    cases n with
    | none => cases hp
    | some n =>
      cases hp
      have hn := readTimeout?_decimal (hfits n rfl)
      exact run_setting "timeout-secs".toList rfl (by decide) hpending
        (by rw [set, hfree, hn]; rfl) (by rw [String.toList_append]; rfl) rest
  | config path =>
    cases path with
    | none => cases hp
    | some path =>
      cases hp
      exact run_setting "config".toList rfl (by decide) hpending (by rw [set, hfree]; rfl)
        (by rw [String.toList_append]; rfl) rest
  | compact on =>
    cases on with
    | false => cases hp
    | true =>
      cases hp
      exact run_flag "compact".toList rfl (by decide) hpending (by rw [raise, hfree]; rfl) rfl rest
  | noCompress on =>
    cases on with
    | false => cases hp
    | true =>
      cases hp
      exact run_flag "no-compress".toList rfl (by decide) hpending (by rw [raise, hfree]; rfl) rfl
        rest
  | logJson on =>
    cases on with
    | false => cases hp
    | true =>
      cases hp
      exact run_flag "log-json".toList rfl (by decide) hpending (by rw [raise, hfree]; rfl) rfl rest
  | verbose on =>
    cases on with
    | false => cases hp
    | true =>
      cases hp
      exact run_flag "verbose".toList rfl (by decide) hpending (by rw [raise, hfree]; rfl) rfl rest

/-! ## All arguments -/

/-- Options in a row put their parts in, one after the other. -/
theorem run_parts (rest : List String) : ∀ {ps : List Part} {st : State}, st.pending = .nothing →
    (∀ p ∈ ps, p.IsFree st.line) → (∀ n, .timeoutSecs (some n) ∈ ps → n ≤ maxUInt64) →
    ps.Pairwise (·.key ≠ ·.key) →
    st.run (ps.filterMap Part.argument? ++ rest)
      = { st with line := ps.foldl Part.put st.line }.run rest
  | [], _, _, _, _, _ => rfl
  | p :: ps, st, hpending, hfree, hfits, hdistinct => by
    obtain ⟨hother, hdistinct⟩ := List.pairwise_cons.mp hdistinct
    have hp := hfree p List.mem_cons_self
    -- the other parts stay free
    have hrest : ∀ q ∈ ps, q.IsFree (p.put st.line) := fun q hq =>
      (hfree q (List.mem_cons_of_mem _ hq)).put (hother q hq)
    have hrestfits : ∀ n, .timeoutSecs (some n) ∈ ps → n ≤ maxUInt64 := fun n hn =>
      hfits n (List.mem_cons_of_mem _ hn)
    have ih := @run_parts rest ps { st with line := p.put st.line } hpending hrest hrestfits
      hdistinct
    cases ha : p.argument? with
    | none =>
      rw [hp.put_of_none ha] at ih
      rw [List.filterMap_cons_none ha, List.foldl_cons, hp.put_of_none ha]
      exact ih
    | some a =>
      rw [List.filterMap_cons_some ha, List.cons_append, List.foldl_cons,
        run_part ha hpending hp (fun n hn => hfits n (hn ▸ List.mem_cons_self))]
      exact ih

/-- After two hyphens, the next argument is the task id, whatever it looks like. -/
theorem run_taskId (hpending : st.pending = .nothing) (hid : st.hasTaskId = false) (text : String) :
    st.run ["--", text]
      = .ok { st with line := { st.line with taskId := text }, hasTaskId := true } := by
  have hplace : st.positional text
      = .ok { st with line := { st.line with taskId := text }, hasTaskId := true } := by
    rw [positional, hid, settle_of_nothing hpending]
    rfl
  rw [run, if_pos rfl, List.foldlM_cons, hplace]
  exact settle_of_nothing hpending

end State

/-- **The arguments of a command line are read as the command line**, in any order of its options. -/
theorem parse_options {c : CommandLine} (hfits : ∀ n, c.timeoutSecs = some n → n ≤ maxUInt64)
    {given : List String} (hgiven : given.Perm c.options) :
    parse (given ++ ["--", c.taskId]) = .ok c := by
  obtain ⟨order, horder, rfl⟩ := Keyed.exists_perm_of_filterMap hgiven
  have hparts : c.optionParts.Pairwise (·.key ≠ ·.key) := (List.pairwise_cons.mp c.distinct_parts).2
  have hdistinct : order.Pairwise (·.key ≠ ·.key) := horder.symm.pairwise hparts Ne.symm
  have hfree : ∀ p ∈ order, p.IsFree {} := by
    intro p hp
    have hmem := horder.mem_iff.mp hp
    simp only [optionParts, List.mem_cons, List.not_mem_nil, or_false] at hmem
    rcases hmem with rfl | rfl | rfl | rfl | rfl | rfl | rfl <;> rfl
  have htime : ∀ n, .timeoutSecs (some n) ∈ order → n ≤ maxUInt64 := by
    intro n hn
    have hn' : some n = c.timeoutSecs := by
      simpa [optionParts] using horder.mem_iff.mp hn
    exact hfits n hn'.symm
  have hline : Part.put (order.foldl Part.put {}) (.taskId c.taskId) = c := by
    rw [foldl_put_of_perm horder hdistinct]
    rfl
  have hrun : State.run {} (order.filterMap Part.argument? ++ ["--", c.taskId])
      = .ok { line := Part.put (order.foldl Part.put {}) (.taskId c.taskId), hasTaskId := true } := by
    rw [State.run_parts _ rfl hfree htime hdistinct, State.run_taskId rfl rfl]
    rfl
  rw [parse, hrun, hline]
  rfl

end TaskProbe.CommandLine
