import TaskProbe.Task.Probe

/-!
# Printed lines

What printing does to an output that may be full or fail to flush. Of a line, the output takes as much
as fits, and a flush is tried exactly if that is all of it (`Sink.print_eq`). Lines add up
(`Sink.after_after`): an output that was given many lines holds what it would hold if it had been given
all of them at once, so the room that is left never has to be looked at.
-/

namespace TaskProbe

open Text

/-- The line that is printed for a value. -/
def Json.Value.printed (v : Value) (layout : Layout) : List UInt8 :=
  Utf8.encode (v.write layout ++ ['\n'])

theorem Json.Value.printed_ne_nil (v : Value) (layout : Layout) : v.printed layout ≠ [] := by
  rw [printed, Utf8.encode, List.flatMap_append]
  intro h
  exact absurd (List.append_eq_nil_iff.mp h).2 (by decide)

namespace Sink

/-! ## What fits -/

/-- Whether so many more bytes fit. -/
def Fits (out : Sink) (n : Nat) : Prop := ∀ room ∈ out.room, n ≤ room

instance (out : Sink) (n : Nat) : Decidable (out.Fits n) :=
  inferInstanceAs (Decidable (∀ room ∈ out.room, n ≤ room))

/-- What the output takes of some data. -/
def accepted (out : Sink) (data : List UInt8) : List UInt8 :=
  match out.room with
  | none => data
  | some room => data.take room

/-- The output when it has been given some data and asked for some flushes. -/
def after (out : Sink) (data : List UInt8) (flushes : Nat) : Sink :=
  { out with
    written := out.written ++ out.accepted data
    room := out.room.map (· - data.length)
    flushes := out.flushes + flushes }

variable (out : Sink)

theorem fits_iff_of_room {room : Nat} (h : out.room = some room) (n : Nat) :
    out.Fits n ↔ n ≤ room := by
  unfold Fits
  rw [h]
  simp

theorem fits_of_unlimited (h : out.room = none) (n : Nat) : out.Fits n := by
  intro room hroom
  rw [h] at hroom
  cases hroom

theorem accepted_of_fits {data : List UInt8} (h : out.Fits data.length) :
    out.accepted data = data := by
  unfold accepted
  split
  · rfl
  · next room hroom => exact List.take_of_length_le (h room hroom)

theorem accepted_nil : out.accepted [] = [] := by
  unfold accepted
  split <;> simp

theorem after_nil : out.after [] 0 = out := by
  unfold after
  rw [accepted_nil, List.append_nil]
  cases h : out.room <;> simp [← h]

/-- What is given in two parts is taken as if it were given at once. -/
theorem after_after (data data' : List UInt8) (n m : Nat) :
    (out.after data n).after data' m = out.after (data ++ data') (n + m) := by
  unfold after accepted
  cases out.room with
  | none => simp [Nat.add_assoc]
  | some room => simp [Nat.add_assoc, Nat.sub_sub, List.take_append]

/-- Something more fits if it fits together with what was given before. -/
theorem fits_after (data : List UInt8) (m : Nat) {n : Nat} (hn : 0 < n) :
    (out.after data m).Fits n ↔ out.Fits (data.length + n) := by
  cases hroom : out.room with
  | none =>
    have hafter : (out.after data m).room = none := by rw [after, hroom]; rfl
    exact iff_of_true (fits_of_unlimited _ hafter n) (fits_of_unlimited _ hroom _)
  | some room =>
    have hafter : (out.after data m).room = some (room - data.length) := by rw [after, hroom]; rfl
    rw [fits_iff_of_room _ hafter, fits_iff_of_room _ hroom]
    omega

/-! ## Printing -/

/-- What printing comes to, if the line ends with the given byte. -/
def verdict (n : Nat) : Except ProbeError Unit :=
  if out.Fits n then
    if out.canFlush then .ok () else .error (.io "flush failed")
  else .error (.io "sink full")

theorem write_eq (data : List UInt8) :
    out.write data
      = (if out.Fits data.length then .ok () else .error (.io "sink full"), out.after data 0) := by
  unfold write after accepted
  cases hroom : out.room with
  | none => rw [if_pos (fits_of_unlimited out hroom _)]; simp
  | some room => simp only [fits_iff_of_room out hroom]; rfl

/-- **What printing a line does.** -/
theorem print_eq (text : List Char) :
    let line := Utf8.encode (text ++ ['\n'])
    out.print text
      = (out.verdict line.length, out.after line (if out.Fits line.length then 1 else 0)) := by
  intro line
  unfold print verdict
  rw [write_eq]
  by_cases hfits : out.Fits line.length
  · rw [if_pos hfits, if_pos hfits, if_pos hfits]
    rfl
  · rw [if_neg hfits, if_neg hfits, if_neg hfits]

/-- If a line could be printed, all of it was written. -/
theorem written_of_print {out : Sink} {text : List Char} (h : (out.print text).1 = .ok ()) :
    (out.print text).2.written = out.written ++ Utf8.encode (text ++ ['\n']) := by
  rw [print_eq] at h ⊢
  by_cases hfits : out.Fits (Utf8.encode (text ++ ['\n'])).length
  · exact congrArg _ (accepted_of_fits out hfits)
  · -- a line that does not fit is no success
    simp only [verdict, hfits, if_false] at h
    cases h

/-- Output that takes everything takes the whole line. -/
theorem print_of_unlimited {out : Sink} (hroom : out.room = none) (hflush : out.canFlush = true)
    (text : List Char) : (out.print text).1 = .ok () ∧
      (out.print text).2.written = out.written ++ Utf8.encode (text ++ ['\n']) := by
  have hok : (out.print text).1 = .ok () := by
    rw [print_eq]
    simp only [verdict, fits_of_unlimited out hroom, hflush, if_true]
  exact ⟨hok, written_of_print hok⟩

end Sink

end TaskProbe
