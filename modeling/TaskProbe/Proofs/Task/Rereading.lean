import TaskProbe.Proofs.Task.Address
import TaskProbe.Proofs.Url.Written

/-!
# Addresses read again

The URL of a task is passed on as text, and whoever reads the text finds the same URL
(`taskUrl_is_read_again`). Two readers meet here. The one that adds the id to the path encodes whatever
cannot stand in a segment; the one that reads a URL encodes what cannot stand in a path, takes the path
apart and follows its dots. What the first one leaves is nothing that the second one would change.
-/

namespace TaskProbe

open Text

namespace Url

/-! ## Encoded segments -/

/-- What cannot stand in a path or ends a segment cannot stand in a segment. -/
theorem of_segmentSet {c : Char} (h : segmentSet c = false) :
    pathSet c = false ∧ isSlash true c = false := by
  simp only [segmentSet, Bool.or_eq_false_iff] at h
  obtain ⟨⟨⟨hpath, hslash⟩, -⟩, hback⟩ := h
  simp [isSlash, hpath, hslash, hback]

/-- The signs of an escape are none that reading a path changes. -/
theorem of_escape {c : Char} (h : c = '%' ∨ ∃ d < 16, c = upperDigitChar d) :
    pathSet c = false ∧ isSlash true c = false := by
  rcases h with rfl | ⟨d, hd, rfl⟩
  · decide
  · have hall : ∀ e ∈ List.range 16, pathSet (upperDigitChar e) = false ∧
        isSlash true (upperDigitChar e) = false := by decide
    exact hall d (List.mem_range.mpr hd)

/-- An id that was put into a path stays as it is when the path is read. -/
theorem isStable_percentEncode {text : List Char} (h : Rule.segment text = .ok ()) :
    IsStable (percentEncode segmentSet text) := by
  have hchars : ∀ c ∈ percentEncode segmentSet text, pathSet c = false ∧ isSlash true c = false := by
    intro c hc
    rcases mem_percentEncode_cases hc with ⟨-, hset⟩ | hescape
    · exact of_segmentSet hset
    · exact of_escape hescape
  exact ⟨fun c hc => (hchars c hc).1, fun c hc => (hchars c hc).2,
    not_isDot_percentEncode (by decide) (Rule.of_segment h).2⟩

/-- Nothing of this segment is encoded. -/
theorem isStable_task : IsStable "task".toList := by
  have hrule : Rule.segment "task".toList = .ok () := by rfl
  exact isStable_percentEncode hrule

/-! ## The server's own URL -/

/-- The URL that a client has when nothing else is said. -/
def defaultBase : Url where
  scheme := http
  host := some (.ipv4 0x7F000001)
  port := some 8888
  path := .segments [[]]

section

variable [Idna]

/-- A name in ASCII has no part in what the others are encoded as. -/
theorem asciiName?_of_isPlainName {name : List Char} (h : isPlainName (lowerAscii name) = true) :
    asciiName? name = some (lowerAscii name) :=
  if_pos h

theorem isPlainHost_loopback : IsPlainHost (.ipv4 0x7F000001) where
  ne_nil := by decide +kernel
  chars := List.all_eq_true.mp (by decide +kernel)
  reads := by
    have hwrite : (Host.ipv4 0x7F000001).write = "127.0.0.1".toList := by decide +kernel
    have hname : Utf8.decode? (percentDecode "127.0.0.1".toList) = some "127.0.0.1".toList := by
      decide +kernel
    have hnumber : (parseIpv4 "127.0.0.1".toList).map Host.ipv4 = .ok (.ipv4 0x7F000001) :=
      eq_ok_of_toOption (by decide +kernel)
    rw [hwrite, parseHost, show bracketed? "127.0.0.1".toList = none by rfl]
    dsimp only
    rw [hname, Option.bind_some, asciiName?_of_isPlainName (by decide +kernel)]
    exact hnumber

/-- With other segments for its path, if they are stable, the server's own URL is read as it is
written. -/
theorem isPlain_defaultBase {list : List (List Char)} (hne : list ≠ [])
    (h : ∀ s ∈ list, IsStable s) : IsPlain { defaultBase with path := .segments list } where
  web := by rfl
  noUser := ⟨rfl, rfl⟩
  host := ⟨_, rfl, isPlainHost_loopback⟩
  port := by
    rintro port ⟨⟩
    exact ⟨by decide, (by decide : some 8888 ≠ defaultPort? http)⟩
  path := ⟨list, rfl, hne, h⟩
  noTail := ⟨rfl, rfl⟩

/-- Without its last slash it is read so, too. -/
theorem rule_defaultServer : Rule.url Client.defaultServer.toList = .ok defaultBase := by
  have hscheme : scheme? (clean Client.defaultServer.toList)
      = some (http, "//127.0.0.1:8888".toList) := by decide +kernel
  have huser : userInfo true "127.0.0.1:8888".toList = .ok ([], [], "127.0.0.1:8888".toList) :=
    eq_ok_of_toOption (by decide +kernel)
  have htext : hostText true false "127.0.0.1:8888".toList
      = ((Host.ipv4 0x7F000001).write, ":8888".toList) := by decide +kernel
  have hhost : hostAndPort http "127.0.0.1:8888".toList = .ok (.ipv4 0x7F000001, some 8888, []) := by
    simp only [hostAndPort, show isSpecialScheme http = true by rfl, htext, isPlainHost_loopback.reads]
    exact eq_ok_of_toOption (by decide +kernel)
  have hparse : parse Client.defaultServer.toList = .ok defaultBase := by
    rw [parse, parseWith]
    dsimp only
    rw [hscheme]
    show afterSlashes http "127.0.0.1:8888".toList = _
    simp only [afterSlashes, show isSpecialScheme http = true by rfl, huser, bind, Except.bind, hhost]
    rfl
  exact rule_eq_ok_iff.mpr ⟨by decide, hparse, by rfl⟩

end

end Url

/-! ## Tasks -/

variable [Url.Idna]

theorem Client.ofSettings_defaultServer (settings : Config.Settings) :
    ofSettings defaultServer settings
      = .ok ⟨Url.defaultBase, settings.compressRequests, settings.timeoutSeconds⟩ := by
  rw [ofSettings, Url.rule_defaultServer]
  rfl

/-- **The URL of a task is read again as it is.** On the server's own URL, the path of every task is
`task` and one segment that stands for its id. Whoever reads the text of this URL, in whatever document,
finds the same URL: the id is neither split nor followed nor encoded once more. -/
theorem taskUrl_is_read_again (settings : Config.Settings) :
    ∃ c, Client.ofSettings Client.defaultServer settings = .ok c ∧ ∀ id : TaskId, ∃ s,
      (c.taskUrl id).path = .segments ["task".toList, s] ∧ Url.SegmentFor id.text s ∧
      (c.taskUrl id).write = Client.defaultServer.toList ++ "/task/".toList ++ s ∧
      Url.parse (c.taskUrl id).write = .ok (c.taskUrl id) ∧
      ∀ base : Option Url, Url.parseWith base (c.taskUrl id).write = .ok (c.taskUrl id) := by
  refine ⟨_, Client.ofSettings_defaultServer settings, fun id => ?_⟩
  have hurl : (⟨Url.defaultBase, settings.compressRequests, settings.timeoutSeconds⟩ : Client).taskUrl id
      = { Url.defaultBase with
          path := .segments ["task".toList, Url.percentEncode Url.segmentSet id.text] } := by
    unfold Client.taskUrl
    dsimp only [Url.defaultBase]
    rw [Url.push_task_push [[]] id.valid]
    rfl
  have hplain : Url.IsPlain { Url.defaultBase with
      path := .segments ["task".toList, Url.percentEncode Url.segmentSet id.text] } := by
    refine Url.isPlain_defaultBase (by simp) ?_
    intro s hs
    rcases List.mem_cons.mp hs with rfl | hs
    · exact Url.isStable_task
    · rw [List.mem_singleton.mp hs]
      exact Url.isStable_percentEncode id.valid
  rw [hurl]
  refine ⟨_, rfl, Url.segmentFor_percentEncode id.valid, ?_, Url.parseWith_write hplain none,
    Url.parseWith_write hplain⟩
  have hserver : Url.defaultBase.scheme ++ ':' :: Url.defaultBase.writeAuthority
      = Client.defaultServer.toList := by decide +kernel
  show Url.defaultBase.scheme ++ ':' :: Url.defaultBase.writeAuthority ++ _ ++ [] ++ [] = _
  rw [hserver]
  simp [Url.Path.write]

end TaskProbe
