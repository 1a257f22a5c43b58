import TaskProbe.Proofs.CommandLine.Options
import TaskProbe.Proofs.Json.Writing

/-!
# Command lines in any order

Every command line can be written as arguments and as a JSON object, with its parts in any order, and
is read back from both (`read_in_any_order`). Times are the only restriction: an option and a member
hold those of 64 bits.
-/

namespace TaskProbe.CommandLine

open Json Text

/-- A value in the object can be written, if a time has 64 bits. -/
theorem Part.value_spec {p : Part} (hfits : ∀ n, p = .timeoutSecs (some n) → n ≤ maxUInt64) :
    p.value.Integral ∧ p.value.Ordered := by
  cases p with
  | taskId text => exact ⟨.string text, .string text⟩
  | submit path | config path =>
    cases path with
    | none => exact ⟨.null, .null⟩
    | some path => exact ⟨.string path, .string path⟩
  | timeoutSecs n =>
    cases n with
    | none => exact ⟨.null, .null⟩
    | some n =>
      have hmin : minInt64 ≤ 0 := by decide
      have hn := hfits n rfl
      exact ⟨.int (Int.le_trans hmin (Int.natCast_nonneg n)) (Int.ofNat_le.mpr hn), .number _⟩
  | compact on | noCompress on | logJson on | verbose on => exact ⟨.bool on, .bool on⟩

/-- Both layouts write the object of a command line, in whatever order its members are. -/
theorem spelling_toJson {c : CommandLine} (hfits : ∀ n, c.timeoutSecs = some n → n ≤ maxUInt64)
    {given : List (String × Value)} (hgiven : given.Perm c.members) (layout : Layout) :
    Spelling c.toJson (Utf8.encode ((Value.object given).write layout)) := by
  have hvalue : ∀ f ∈ given, f.2.Integral ∧ f.2.Ordered := by
    intro f hf
    obtain ⟨p, hp, rfl⟩ := List.mem_map.mp (hgiven.mem_iff.mp hf)
    refine Part.value_spec fun n hn => ?_
    have htime : c.timeoutSecs = some n := by
      subst hn
      simpa [parts, optionParts, eq_comm] using hp
    exact hfits n htime
  have hascending : Keyed.Ascending (Keyed.insertAll [] c.members) :=
    Keyed.ascending_insertAll c.members List.Pairwise.nil
  have hsorted : (Keyed.insertAll [] c.members).Perm c.members :=
    Keyed.insertAll_perm c.distinct_members
  exact spelling_write_of_perm hascending (hgiven.trans hsorted.symm) (fun f hf => (hvalue f hf).1)
    (fun f hf => (hvalue f hf).2) layout

/-- **Every command line can be spelled in any order and is read the same**: as arguments, with its
options in any order and the task id after two hyphens, and as the JSON object of its eight parts, with
the members in any order and in any spelling. -/
theorem read_in_any_order {c : CommandLine}
    (hfits : ∀ n, c.timeoutSecs = some n → n ≤ maxUInt64) :
    (∀ given : List String, given.Perm c.options → parse (given ++ ["--", c.taskId]) = .ok c) ∧
      (∀ given : List (String × Value), given.Perm c.members → ∀ layout,
        ofJson (Utf8.encode ((Value.object given).write layout)) = .ok c) ∧
      ∀ t, Spelling c.toJson t → ∀ g g', IsGap g → IsGap g' → ofJson (g ++ (t ++ g')) = .ok c := by
  refine ⟨fun _ hgiven => parse_options hfits hgiven, ?_, ?_⟩
  · intro given hgiven layout
    have hread := ofJson_of_spelling (spelling_toJson hfits hgiven layout) isGap_nil isGap_nil
    rwa [List.nil_append, List.append_nil] at hread
  · intro t ht g g' hg hg'
    exact ofJson_of_spelling ht hg hg'

/-- Values that look like options, an id that looks like one too, and the greatest time; options and
members against their order. -/
theorem read_in_any_order_lookalike :
    let c : CommandLine :=
      { taskId := "--compact", submit := some "--config=x=y", compact := true,
        timeoutSecs := some maxUInt64, verbose := true }
    (∀ n, c.timeoutSecs = some n → n ≤ maxUInt64) ∧
      parse ["--verbose", "--timeout-secs=18446744073709551615", "--compact",
        "--submit=--config=x=y", "--", "--compact"] = .ok c ∧
      ofJson (Utf8.encode ((Value.object c.members.reverse).write .compact)) = .ok c := by
  intro c
  have hfits : ∀ n, c.timeoutSecs = some n → n ≤ maxUInt64 := by
    rintro n ⟨⟩
    exact Nat.le_refl _
  have hdecimal : decimal maxUInt64 = "18446744073709551615".toList := by
    simp [decimal, digits, digitChar, maxUInt64]
  have htime : Part.argument? (.timeoutSecs (some maxUInt64))
      = some "--timeout-secs=18446744073709551615" := by
    rw [Part.argument?, hdecimal]
    rfl
  have hoptions : c.options = ["--submit=--config=x=y", "--compact",
      "--timeout-secs=18446744073709551615", "--verbose"] := by
    rw [options, optionParts]
    simp only [c, List.filterMap_cons, htime]
    rfl
  obtain ⟨hparse, hjson, -⟩ := read_in_any_order hfits
  refine ⟨hfits, ?_, hjson _ (List.reverse_perm _) .compact⟩
  exact hparse ["--verbose", "--timeout-secs=18446744073709551615", "--compact",
    "--submit=--config=x=y"] (hoptions ▸ List.reverse_perm [_, _, _, _])

end TaskProbe.CommandLine
