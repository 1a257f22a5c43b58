import TaskProbe.Proofs.Outcomes
import TaskProbe.Proofs.Url.Web
import TaskProbe.Task.Client

/-!
# Where a task lies

The URL of a task is the base URL with two more segments, and the last one stands for the id and for
nothing else (`taskUrl_stands_for_id`). What keeps it so is divided between two places. Dots would be
followed, and characters that URLs skip would be lost: no encoding helps against that, so the rule for
ids refuses them. Every other character that has a meaning in a path is encoded, and so is `%`, so that
no escape is taken for a dot. The host is that of the base URL, whatever names outside ASCII are encoded
as (`Url.Idna`).
-/

namespace TaskProbe

open Text

/-! ## The rule for segments -/

theorem Rule.of_segment {s : List Char} (h : segment s = .ok ()) :
    (∀ c ∈ s, isForbiddenInSegment c = false) ∧ ¬ (s = ['.'] ∨ s = ['.', '.']) := by
  unfold segment at h
  split at h
  · cases h
  split at h
  · cases h
  · next hfind =>
    constructor
    · intro c hc
      exact Bool.eq_false_iff.mpr (List.find?_eq_none.mp hfind c hc)
    · intro hdots
      rw [if_pos hdots] at h
      cases h

/-- Control characters are refused, and those that a URL skips are among them. -/
theorem Rule.not_isSkipped_of_allowed {c : Char} (h : isForbiddenInSegment c = false) :
    Url.isSkipped c = false := by
  rw [Bool.eq_false_iff]
  intro hskipped
  have hcases : c = '\t' ∨ c = '\n' ∨ c = '\r' := by
    simpa [Url.isSkipped, or_assoc] using hskipped
  rcases hcases with rfl | rfl | rfl
  · exact absurd h (by decide)
  · exact absurd h (by decide)
  · exact absurd h (by decide)

namespace Url

/-! ## Written paths -/

theorem Path.write_append (list more : List (List Char)) :
    (Path.segments (list ++ more)).write
      = (Path.segments list).write ++ (Path.segments more).write :=
  List.flatMap_append

/-- A text without the slash at its end, if there is one. -/
def withoutLastSlash (s : List Char) : List Char :=
  if s.getLast? = some '/' then s.dropLast else s

theorem withoutLastSlash_append {s t : List Char} (ht : t ≠ []) (hslash : '/' ∉ t) :
    withoutLastSlash (s ++ t) = s ++ t := by
  obtain ⟨front, c, rfl⟩ : ∃ front c, t = front ++ [c] :=
    ⟨_, _, (List.dropLast_concat_getLast ht).symm⟩
  unfold withoutLastSlash
  rw [if_neg]
  rw [← List.append_assoc, List.getLast?_concat]
  rintro hc
  exact hslash (Option.some.inj hc ▸ List.mem_append_right front List.mem_cons_self)

/-- The text of a URL tells the text of its path, if the rest of the URL is known. -/
theorem write_path_of_write {u : Url} {p p' : Path}
    (h : ({ u with path := p } : Url).write = ({ u with path := p' } : Url).write) :
    p.write = p'.write := by
  have hcut := List.append_cancel_right (List.append_cancel_right h)
  exact List.append_cancel_left hcut

/-! ## Adding segments -/

/-- A text that satisfies the rule for segments becomes one segment, and all of it does. -/
theorem push_of_segment (list : List (List Char)) {text : List Char}
    (h : Rule.segment text = .ok ()) : (Path.segments list).push text
      = .segments ((if list = [[]] then [] else list) ++ [percentEncode segmentSet text]) := by
  obtain ⟨hallowed, hdots⟩ := Rule.of_segment h
  have hkept : text.filter (!isSkipped ·) = text := by
    rw [List.filter_eq_self]
    intro c hc
    rw [Rule.not_isSkipped_of_allowed (hallowed c hc)]
    rfl
  have hpercent : segmentSet '%' = true := by decide
  obtain ⟨hsingle, hdouble⟩ := not_isDot_percentEncode hpercent hdots
  unfold Path.push
  dsimp only
  rw [if_neg hdots, hkept, follow, hsingle, hdouble]
  rfl

/-- The segments that others are put behind: without an empty last one, and none if the path is just
slashes that come to nothing. -/
def stem (list : List (List Char)) : List (List Char) :=
  match Path.dropEmptyLast (.segments list) with
  | .segments rest => if rest = [[]] then [] else rest
  | .opaqueText _ => []

theorem push_task_push (list : List (List Char)) {text : List Char}
    (h : Rule.segment text = .ok ()) :
    ((Path.dropEmptyLast (.segments list)).push "task".toList).push text
      = .segments (stem list ++ ["task".toList, percentEncode segmentSet text]) := by
  have htask : percentEncode segmentSet "task".toList = "task".toList := by decide
  unfold stem Path.dropEmptyLast
  dsimp only
  rw [push_of_segment _ (by rfl), push_of_segment _ h, htask, if_neg, List.append_assoc]
  · rfl
  · -- there is `task` at the end
    intro hroot
    have hlast := congrArg List.getLast? hroot
    rw [List.getLast?_concat] at hlast
    exact absurd hlast (by decide)

theorem stem_concat_nil {init : List (List Char)} (h : ∀ segment ∈ init, segment ≠ []) :
    stem (init ++ [[]]) = init := by
  unfold stem Path.dropEmptyLast
  dsimp only
  by_cases hinit : init = []
  · subst hinit
    rfl
  have hdrop : 1 < (init ++ [[]]).length ∧ (init ++ [[]]).getLast? = some [] := by
    refine ⟨?_, List.getLast?_concat⟩
    rw [List.length_append]
    exact Nat.add_lt_add_right (List.length_pos_iff.2 hinit) 1
  have hempty : init ≠ [[]] := by
    rintro rfl
    exact h [] List.mem_cons_self rfl
  rw [if_pos hdrop, List.dropLast_concat, if_neg hempty]

theorem stem_concat {init : List (List Char)} {last : List Char} (h : last ≠ []) :
    stem (init ++ [last]) = init ++ [last] := by
  have hlast : (init ++ [last]).getLast? ≠ some [] := by
    rw [List.getLast?_concat]
    exact fun hsame => h (Option.some.inj hsame)
  have hempty : init ++ [last] ≠ [[]] := by
    intro hsame
    exact hlast (congrArg List.getLast? hsame)
  have hkeep : ¬ (1 < (init ++ [last]).length ∧ (init ++ [last]).getLast? = some []) :=
    fun hdrop => hlast hdrop.2
  unfold stem Path.dropEmptyLast
  dsimp only
  rw [if_neg hkeep, if_neg hempty]

/-- If no segment but the last one is empty, others are put behind the path as it is written, without a
slash at its end. -/
theorem write_stem {list : List (List Char)} (h : Segmented list)
    (hinner : ∀ segment ∈ list.dropLast, segment ≠ []) :
    (Path.segments (stem list)).write = withoutLastSlash (Path.segments list).write := by
  obtain ⟨init, last, rfl⟩ : ∃ init last, list = init ++ [last] :=
    ⟨_, _, (List.dropLast_concat_getLast h.ne_nil).symm⟩
  rw [List.dropLast_concat] at hinner
  have hwrite : (Path.segments (init ++ [last])).write
      = (Path.segments init).write ++ ['/'] ++ last := by
    rw [Path.write_append]
    simp [Path.write]
  by_cases hlast : last = []
  · -- the slash at the end is the one before the empty segment
    subst hlast
    rw [stem_concat_nil hinner, hwrite, List.append_nil, withoutLastSlash,
      if_pos List.getLast?_concat, List.dropLast_concat]
  · have hslash : '/' ∉ last := h.noSlash last (List.mem_append_right init List.mem_cons_self)
    rw [stem_concat hlast, hwrite, withoutLastSlash_append hlast hslash]

/-! ## One segment -/

/-- How one segment of a path stands for a text. -/
structure SegmentFor (text s : List Char) : Prop where
  noMark : '/' ∉ s ∧ '?' ∉ s ∧ '#' ∉ s
  escapes : EscapesWhole s
  notDots : isSingleDot s = false ∧ isDoubleDot s = false
  decodes : percentDecode s = Utf8.encode text

theorem segmentFor_percentEncode {text : List Char} (h : Rule.segment text = .ok ()) :
    SegmentFor text (percentEncode segmentSet text) where
  noMark := by
    refine ⟨?_, ?_, ?_⟩ <;>
    · intro hmem
      have hset := (mem_of_mem_percentEncode (by decide) hmem).2
      exact absurd hset (by decide)
  escapes := escapesWhole_percentEncode (by decide) text
  notDots := not_isDot_percentEncode (by decide) (Rule.of_segment h).2
  decodes := percentDecode_percentEncode (by decide) text

end Url

/-! ## Tasks -/

theorem TaskId.eq_of_text {id id' : TaskId} (h : id.text = id'.text) : id = id' := by
  cases id
  cases id'
  cases h
  rfl

section

variable [Url.Idna]

theorem Client.ofSettings_eq_ok_iff {base : String} {settings : Config.Settings} {c : Client} :
    ofSettings base settings = .ok c ↔ ∃ url, Rule.url base.toList = .ok url ∧
      ⟨url, settings.compressRequests, settings.timeoutSeconds⟩ = c := by
  unfold ofSettings require
  simp only [map_eq_ok_iff, mapError_eq_ok_iff]

/-- A client's base URL is the text it was made from, read as the URL of a web server. -/
theorem Client.base_of_ofSettings {base : String} {settings : Config.Settings} {c : Client}
    (h : ofSettings base settings = .ok c) : Url.parse base.toList = .ok c.base ∧
      ∃ list, c.base.path = .segments list ∧ Url.Segmented list := by
  obtain ⟨url, hrule, rfl⟩ := ofSettings_eq_ok_iff.mp h
  obtain ⟨-, hparse, hweb⟩ := Url.rule_eq_ok_iff.mp hrule
  exact ⟨hparse, Url.segmented_of_parse hparse hweb⟩

/-- **The URL of a task stands for its id and for nothing else.** It is the base URL but for its path:
behind the base path stand `task` and one segment that is decoded to the id. The segment has no
character that would end it, no `%` but in escapes, and is not left out or followed upwards as dots
are. So different ids have different URLs. -/
theorem taskUrl_stands_for_id {base : String} {settings : Config.Settings} {c : Client}
    (h : Client.ofSettings base settings = .ok c) :
    Url.parse base.toList = .ok c.base ∧
    (∃ segments front, c.base.path = .segments segments ∧
      ((∀ segment ∈ segments.dropLast, segment ≠ []) →
        front = Url.withoutLastSlash c.base.path.write) ∧
      ∀ id : TaskId, ∃ path s, c.taskUrl id = { c.base with path := path } ∧
        path.write = front ++ "/task/".toList ++ s ∧ Url.SegmentFor id.text s) ∧
    ∀ id id' : TaskId, (c.taskUrl id).write = (c.taskUrl id').write → id = id' := by
  obtain ⟨hparse, list, hlist, hsegmented⟩ := Client.base_of_ofSettings h
  have htask (id : TaskId) : c.taskUrl id = { c.base with path := .segments (Url.stem list
      ++ ["task".toList, Url.percentEncode Url.segmentSet id.text]) } := by
    unfold Client.taskUrl
    rw [hlist, Url.push_task_push list id.valid]
  have hwrite (s : List Char) : (Url.Path.segments (Url.stem list ++ ["task".toList, s])).write
      = (Url.Path.segments (Url.stem list)).write ++ "/task/".toList ++ s := by
    rw [Url.Path.write_append, List.append_assoc]
    simp [Url.Path.write]
  refine ⟨hparse, ⟨list, (Url.Path.segments (Url.stem list)).write, hlist, ?_, ?_⟩, ?_⟩
  · intro hinner
    rw [hlist]
    exact Url.write_stem hsegmented hinner
  · intro id
    exact ⟨_, _, htask id, hwrite _, Url.segmentFor_percentEncode id.valid⟩
  · intro id id' heq
    rw [htask, htask] at heq
    have hpath := Url.write_path_of_write heq
    rw [hwrite, hwrite] at hpath
    exact TaskId.eq_of_text
      (Url.percentEncode_injective (by decide) (List.append_cancel_left hpath))

end

/-- The names of hosts with one domain outside ASCII. -/
@[reducible] def Url.oneDomain : Idna where
  toAscii? name :=
    if name = "bücher.example".toList then some "xn--bcher-kva.example".toList else none

/-- Below a base URL with all its parts, outside ASCII, whose path ends with a slash. -/
theorem taskUrl_stands_for_id_api :
    letI := Url.oneDomain
    ∃ c, Client.ofSettings "http://u:p@bücher.example:81/api/?q#f" .default = .ok c ∧
      c.base.host = some (.domain "xn--bcher-kva.example".toList) ∧
      ∀ id : TaskId, ∃ path s, c.taskUrl id = { c.base with path := path } ∧
        path.write = "/api/task/".toList ++ s ∧ Url.SegmentFor id.text s := by
  let := Url.oneDomain
  have hbase : (Client.ofSettings "http://u:p@bücher.example:81/api/?q#f" .default).toOption.map
      (fun c => (c.base.host, c.base.path))
      = some (some (.domain "xn--bcher-kva.example".toList), .segments ["api".toList, []]) := by
    decide +kernel
  cases hc : Client.ofSettings "http://u:p@bücher.example:81/api/?q#f" .default with
  | error e => rw [hc] at hbase; cases hbase
  | ok c =>
    rw [hc] at hbase
    obtain ⟨hhost, hpath⟩ : c.base.host = _ ∧ c.base.path = _ :=
      Prod.mk.inj (Option.some.inj hbase)
    obtain ⟨-, ⟨segments, front, hsegments, hfront, htask⟩, -⟩ := taskUrl_stands_for_id hc
    rw [hpath] at hsegments hfront
    cases hsegments
    have hapi : front = "/api".toList := hfront (by decide)
    refine ⟨c, rfl, hhost, fun id => ?_⟩
    obtain ⟨path, s, hurl, hwrite, hs⟩ := htask id
    rw [hapi] at hwrite
    exact ⟨path, s, hurl, hwrite, hs⟩

end TaskProbe
