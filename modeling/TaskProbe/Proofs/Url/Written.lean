import TaskProbe.Proofs.Decimal.Digits
import TaskProbe.Proofs.Url.Web

/-!
# URLs read from their written form

The written form of a URL is read as this URL (`parseWith_write`), alone or in the document of any other
URL. Reading encodes what a path cannot hold, takes the path apart at its slashes and follows its dot
segments; so the segments must be such that none of this changes them (`IsStable`). What stands before
the path is read in the order in which it is written: scheme, host, port.
-/

namespace TaskProbe.Url

open Text

/-- What is all visible is read as it is. -/
theorem clean_eq_self {s : List Char} (h : ∀ c ∈ s, 0x20 < c.toNat) : clean s = s := by
  have hkept : ∀ c ∈ s, decide (c.toNat ≤ 0x20) = false := by
    intro c hc
    simpa using h c hc
  have htrim := @dropWhile_around _ (fun c : Char => decide (c.toNat ≤ 0x20)) [] s [] (by simp) hkept
    (by simp)
  rw [List.nil_append, List.append_nil] at htrim
  unfold clean
  dsimp only
  rw [htrim, List.filter_eq_self]
  intro c hc
  have hlow := h c hc
  have hne (d : Char) (hd : d.toNat ≤ 0x20) : c ≠ d := by
    rintro rfl
    omega
  simp [isSkipped, hne '\t' (by decide), hne '\n' (by decide), hne '\r' (by decide)]

/-! ## Segments -/

/-- A segment that reading a path leaves as it is. -/
structure IsStable (segment : List Char) : Prop where
  plain : ∀ c ∈ segment, pathSet c = false
  noSlash : ∀ c ∈ segment, isSlash true c = false
  notDots : isSingleDot segment = false ∧ isDoubleDot segment = false

theorem percentEncode_eq_self {set : Char → Bool} :
    ∀ {s : List Char}, (∀ c ∈ s, set c = false) → percentEncode set s = s
  | [], _ => rfl
  | c :: s, h => by
    have hc := h c List.mem_cons_self
    have ih := percentEncode_eq_self fun d hd => h d (List.mem_cons_of_mem _ hd)
    simp only [percentEncode, List.flatMap_cons, percentChar, hc] at ih ⊢
    simp [ih]

/-- What a path can hold is visible and ends no path. -/
theorem of_pathSet {c : Char} (h : pathSet c = false) :
    0x20 < c.toNat ∧ c ≠ '?' ∧ c ≠ '#' := by
  simp only [pathSet, fragmentSet, controlSet, Bool.or_eq_false_iff, decide_eq_false_iff_not,
    beq_eq_false_iff_ne] at h
  obtain ⟨⟨⟨⟨⟨⟨⟨⟨⟨⟨hlow, -⟩, hspace⟩, -⟩, -⟩, -⟩, -⟩, hhash⟩, hmark⟩, -⟩, -⟩ := h
  refine ⟨?_, hmark, hhash⟩
  have hne : c.toNat ≠ 0x20 := fun heq => hspace (Char.toNat_inj.mp heq)
  omega

/-! ## Taking a path apart -/

theorem splitOn_of_forall {sep : Char → Bool} :
    ∀ {part : List Char}, (∀ c ∈ part, sep c = false) → splitOn sep part = [part]
  | [], _ => rfl
  | c :: part, h => by
    have hc := h c List.mem_cons_self
    have ih := splitOn_of_forall fun d hd => h d (List.mem_cons_of_mem _ hd)
    simp [splitOn, hc, ih]

theorem splitOn_append {sep : Char → Bool} {d : Char} (hd : sep d = true) (rest : List Char) :
    ∀ {part : List Char}, (∀ c ∈ part, sep c = false) →
      splitOn sep (part ++ d :: rest) = part :: splitOn sep rest
  | [], _ => by simp [splitOn, hd]
  | c :: part, h => by
    have hc := h c List.mem_cons_self
    have ih := splitOn_append hd rest fun e he => h e (List.mem_cons_of_mem _ he)
    simp [splitOn, hc, ih]

theorem write_cons (segment : List Char) (list : List (List Char)) :
    (Path.segments (segment :: list)).write
      = '/' :: (segment ++ (Path.segments list).write) := by
  simp [Path.write]

/-- A written path is taken apart into its segments. -/
theorem splitOn_write : ∀ {list : List (List Char)} {segment : List Char},
    (∀ s ∈ segment :: list, ∀ c ∈ s, isSlash true c = false) →
      splitOn (isSlash true) (segment ++ (Path.segments list).write) = segment :: list
  | [], segment, h => by
    have hsegment := splitOn_of_forall (h segment List.mem_cons_self)
    simpa [Path.write] using hsegment
  | next :: list, segment, h => by
    have ih := splitOn_write fun s hs => h s (List.mem_cons_of_mem _ hs)
    rw [write_cons, splitOn_append (by rfl) _ (h segment List.mem_cons_self), ih]

/-- Where no segment is a dot segment, following them just adds them. -/
theorem follow_eq_append (path : List (List Char)) {list : List (List Char)}
    (h : ∀ s ∈ list, isSingleDot s = false ∧ isDoubleDot s = false) :
    follow path list = path ++ list := by
  fun_induction follow path list with
  | case1 => simp
  | case2 path segment hdouble => simp [hdouble] at h
  | case3 path segment _ hsingle => simp [hsingle] at h
  | case4 => rfl
  | case5 path segment more _ hdouble _ => simp [hdouble] at h
  | case6 path segment more _ _ hsingle _ => simp [hsingle] at h
  | case7 path segment more _ _ _ ih =>
    rw [ih fun s hs => h s (List.mem_cons_of_mem _ hs)]
    simp

/-- A written path with nothing behind it is read as its segments. -/
theorem pathStart_write {list : List (List Char)} (hne : list ≠ [])
    (h : ∀ s ∈ list, IsStable s) : pathStart true (Path.segments list).write = (list, []) := by
  obtain ⟨segment, list, rfl⟩ := List.exists_cons_of_ne_nil hne
  have hends : ∀ c ∈ segment ++ (Path.segments list).write, (!(c == '?' || c == '#')) = true := by
    intro c hc
    have hmem : c ∈ (Path.segments (segment :: list)).write := by
      rw [write_cons]
      exact List.mem_cons_of_mem _ hc
    obtain ⟨s, hs, hcs⟩ := List.mem_flatMap.mp hmem
    rcases List.mem_cons.mp hcs with rfl | hcs
    · decide
    · obtain ⟨-, hmark, hhash⟩ := of_pathSet ((h s hs).plain c hcs)
      simp [hmark, hhash]
  have htake := takeWhile_run hends startsOutside_nil
  have hdrop := dropWhile_run hends startsOutside_nil
  rw [List.append_nil] at htake hdrop
  have hencoded : (segment :: list).map (percentEncode pathSet) = segment :: list := by
    refine (List.map_congr_left fun s hs => ?_).trans (List.map_id _)
    exact percentEncode_eq_self (h s hs).plain
  rw [write_cons]
  show pathFrom true [] (segment ++ (Path.segments list).write) = _
  unfold pathFrom
  dsimp only
  rw [htake, hdrop, splitOn_write fun s hs => (h s hs).noSlash, hencoded,
    follow_eq_append [] fun s hs => (h s hs).notDots, List.nil_append]

/-! ## Host and port -/

/-- A character of a host that belongs to nothing around it. -/
def isHostChar (c : Char) : Bool :=
  0x20 < c.toNat && !(c == ':' || c == '@' || c == '[' || endsAuthority true c)

/-- A host that is read as it is written. -/
structure IsPlainHost [Idna] (host : Host) : Prop where
  ne_nil : host.write ≠ []
  chars : ∀ c ∈ host.write, isHostChar c = true
  reads : parseHost host.write = .ok host

theorem isHostChar_spec {c : Char} (h : isHostChar c = true) : 0x20 < c.toNat ∧ c ≠ ':' ∧
    c ≠ '@' ∧ c ≠ '[' ∧ endsAuthority true c = false := by
  simpa [isHostChar, and_assoc] using h

/-- A host ends at a colon, at the path or with the text. -/
theorem hostText_of_chars (rest : List Char)
    (hrest : ∀ c r, rest = c :: r → c = ':' ∨ endsAuthority true c = true) :
    ∀ {text : List Char}, (∀ c ∈ text, isHostChar c = true) →
      hostText true false (text ++ rest) = (text, rest)
  | [], _ => by
    cases rest with
    | nil => rfl
    | cons c r =>
      rcases hrest c r rfl with rfl | hc
      · rfl
      · simp [hostText, hc]
  | c :: text, h => by
    obtain ⟨-, hcolon, -, hopen, hends⟩ := isHostChar_spec (h c List.mem_cons_self)
    have ih := hostText_of_chars rest hrest fun d hd => h d (List.mem_cons_of_mem _ hd)
    simp [hostText, hcolon, hopen, hends, ih]

/-- A port is read up to the path. -/
theorem portNumber_decimal {port : Nat} (h : port ≤ 65535) (rest : List Char) :
    portNumber (decimal port ++ '/' :: rest) = .ok (some port, '/' :: rest) := by
  have hdigit : ∀ c ∈ decimal port, c.isDigit = true := fun c => isDigit_of_mem_decimal
  have hslash : StartsOutside Char.isDigit ('/' :: rest) := startsOutside_cons (by decide)
  unfold portNumber
  simp [takeWhile_run hdigit hslash, dropWhile_run hdigit hslash, readDigits?_decimal, h]

/-! ## User name and password -/

theorem splitLastAt_eq_none : ∀ {s : List Char}, '@' ∉ s → splitLastAt s = none
  | [], _ => rfl
  | c :: s, h => by
    have hc : c ≠ '@' := fun heq => h (heq ▸ List.mem_cons_self)
    have ih := splitLastAt_eq_none fun hs => h (List.mem_cons_of_mem _ hs)
    simp [splitLastAt, ih, hc]

/-- Where no `@` stands before the path, there is neither user name nor password. -/
theorem userInfo_of_no_at {authority : List Char} (rest : List Char) (hat : '@' ∉ authority)
    (h : ∀ c ∈ authority, endsAuthority true c = false) :
    userInfo true (authority ++ '/' :: rest) = .ok ([], [], authority ++ '/' :: rest) := by
  have hplain : ∀ c ∈ authority, (!endsAuthority true c) = true := by
    intro c hc
    simp [h c hc]
  have hslash : StartsOutside (fun c => !endsAuthority true c) ('/' :: rest) :=
    startsOutside_cons (by rfl)
  unfold userInfo
  dsimp only
  rw [takeWhile_run hplain hslash, splitLastAt_eq_none hat]

/-! ## Whole URLs -/

/-- A URL of a web server that has nothing but a host, a port and a path, and these as they are
read. -/
structure IsPlain [Idna] (u : Url) : Prop where
  web : u.isWeb = true
  noUser : u.username = [] ∧ u.password = []
  host : ∃ host, u.host = some host ∧ IsPlainHost host
  port : ∀ port ∈ u.port, port ≤ 65535 ∧ some port ≠ defaultPort? u.scheme
  path : ∃ list, u.path = .segments list ∧ list ≠ [] ∧ ∀ s ∈ list, IsStable s
  noTail : u.query = none ∧ u.fragment = none

section Plain

variable {u : Url}

theorem scheme?_of_isWeb (h : u.isWeb = true) (rest : List Char) :
    scheme? (u.scheme ++ ':' :: rest) = some (u.scheme, rest) := by
  rcases isWeb_iff.mp h with h | h
  · rw [h]
    rfl
  · rw [h]
    rfl

theorem isSpecialScheme_of_isWeb (h : u.isWeb = true) :
    isSpecialScheme u.scheme = true ∧ u.scheme ≠ file := by
  rcases isWeb_iff.mp h with h | h
  · rw [h]
    decide
  · rw [h]
    decide

/-- A port is written without anything that would end the part before the path. -/
theorem of_mem_writePort {c : Char} (h : c ∈ u.writePort) :
    0x20 < c.toNat ∧ c ≠ '@' ∧ endsAuthority true c = false := by
  have hall : ∀ e ∈ List.range 10, 0x20 < (digitChar e).toNat ∧ digitChar e ≠ '@' ∧
      endsAuthority true (digitChar e) = false := by decide
  unfold writePort at h
  cases hport : u.port with
  | none => simp [hport] at h
  | some port =>
    rw [hport] at h
    rcases List.mem_cons.mp h with rfl | h
    · decide
    · obtain ⟨d, hd, rfl⟩ := mem_decimal h
      exact hall d (List.mem_range.mpr hd)

variable [Idna]

/-- Host and port are read up to the path. -/
theorem hostAndPort_write {host : Host} (hweb : u.isWeb = true) (hhost : IsPlainHost host)
    (hport : ∀ port ∈ u.port, port ≤ 65535 ∧ some port ≠ defaultPort? u.scheme)
    (rest : List Char) :
    hostAndPort u.scheme (host.write ++ (u.writePort ++ '/' :: rest))
      = .ok (host, u.port, '/' :: rest) := by
  have hspecial := (isSpecialScheme_of_isWeb hweb).1
  have hempty : host.write.isEmpty = false := by simp [hhost.ne_nil]
  cases hp : u.port with
  | none =>
    have hwrite : u.writePort = [] := by simp [writePort, hp]
    have htext := hostText_of_chars ('/' :: rest)
      (by rintro c r ⟨⟩; exact .inr rfl) hhost.chars
    rw [hwrite, List.nil_append]
    simp only [hostAndPort, hspecial, htext, hempty, hhost.reads]
    rfl
  | some port =>
    obtain ⟨hle, hdefault⟩ := hport port hp
    have hwrite : u.writePort = ':' :: decimal port := by simp [writePort, hp]
    have htext := hostText_of_chars (':' :: (decimal port ++ '/' :: rest))
      (by rintro c r ⟨⟩; exact .inl rfl) hhost.chars
    rw [hwrite, List.cons_append]
    simp only [hostAndPort, hspecial, htext, hempty, hhost.reads]
    simp [portNumber_decimal hle, hdefault, bind, Except.bind]

/-- What stands behind the slashes is read as the URL. -/
theorem afterSlashes_write (h : IsPlain u) {host : Host} (hhost : u.host = some host)
    (hplain : IsPlainHost host) :
    afterSlashes u.scheme (host.write ++ (u.writePort ++ u.path.write)) = .ok u := by
  obtain ⟨list, hlist, hne, hstable⟩ := h.path
  obtain ⟨rest, hwrite⟩ : ∃ rest, u.path.write = '/' :: rest := by
    obtain ⟨segment, more, rfl⟩ := List.exists_cons_of_ne_nil hne
    exact ⟨_, hlist ▸ write_cons segment more⟩
  have hpath := pathStart_write hne hstable
  rw [← hlist, hwrite] at hpath
  have hchars : ∀ c ∈ host.write ++ u.writePort, c ≠ '@' ∧ endsAuthority true c = false := by
    intro c hc
    rcases List.mem_append.mp hc with hc | hc
    · obtain ⟨-, -, hat, -, hends⟩ := isHostChar_spec (hplain.chars c hc)
      exact ⟨hat, hends⟩
    · exact (of_mem_writePort hc).2
  have huser := userInfo_of_no_at rest (fun hat => (hchars _ hat).1 rfl) fun c hc => (hchars c hc).2
  rw [List.append_assoc] at huser
  have hhostPort := hostAndPort_write h.web hplain h.port rest
  rw [hwrite]
  unfold afterSlashes
  simp only [(isSpecialScheme_of_isWeb h.web).1, huser, bind, Except.bind, hhostPort, hpath]
  obtain ⟨hname, hpassword⟩ := h.noUser
  obtain ⟨hquery, hfragment⟩ := h.noTail
  cases u
  simp_all [withTail, fragmentOf]

theorem write_of_isPlain (h : IsPlain u) {host : Host} (hhost : u.host = some host) :
    u.write = u.scheme ++ ':' :: '/' :: '/' :: (host.write ++ (u.writePort ++ u.path.write)) := by
  obtain ⟨hname, hpassword⟩ := h.noUser
  obtain ⟨hquery, hfragment⟩ := h.noTail
  simp [write, writeAuthority, writeUserInfo, writeQuery, writeFragment, hhost, hname, hpassword,
    hquery, hfragment]

/-- Nothing of a written URL is dropped when it is read. -/
theorem clean_write (h : IsPlain u) : clean u.write = u.write := by
  obtain ⟨host, hhost, hplain⟩ := h.host
  obtain ⟨list, hlist, -, hstable⟩ := h.path
  have hvisible : ∀ c ∈ u.write, 0x20 < c.toNat := by
    intro c hc
    rw [write_of_isPlain h hhost] at hc
    simp only [List.mem_append, List.mem_cons] at hc
    rcases hc with hc | rfl | rfl | rfl | hc | hc | hc
    · have hall : ∀ c ∈ http ++ https, 0x20 < c.toNat := by simp [http, https]
      rcases isWeb_iff.mp h.web with hscheme | hscheme
      · exact hall c (List.mem_append_left _ (hscheme ▸ hc))
      · exact hall c (List.mem_append_right _ (hscheme ▸ hc))
    · decide
    · decide
    · decide
    · exact (isHostChar_spec (hplain.chars c hc)).1
    · exact (of_mem_writePort hc).1
    · rw [hlist] at hc
      obtain ⟨s, hs, hcs⟩ := List.mem_flatMap.mp hc
      rcases List.mem_cons.mp hcs with rfl | hcs
      · decide
      · exact (of_pathSet ((hstable s hs).plain c hcs)).1
  exact clean_eq_self hvisible

/-- **The written form of a URL is read as this URL**, whatever document it stands in. -/
theorem parseWith_write (h : IsPlain u) (base : Option Url) :
    parseWith base u.write = .ok u := by
  obtain ⟨host, hhost, hplain⟩ := h.host
  obtain ⟨hspecial, hfile⟩ := isSpecialScheme_of_isWeb h.web
  have hread := afterSlashes_write h hhost hplain
  have hstart : StartsOutside (isSlash true)
      (host.write ++ (u.writePort ++ u.path.write)) := by
    obtain ⟨c, text, htext⟩ := List.exists_cons_of_ne_nil hplain.ne_nil
    obtain ⟨-, -, -, -, hends⟩ := isHostChar_spec (hplain.chars c (htext ▸ List.mem_cons_self))
    rw [htext]
    refine startsOutside_cons ?_
    simp only [endsAuthority, Bool.or_eq_false_iff] at hends
    exact hends.1.1
  have hslashes : ∀ c ∈ ['/', '/'], isSlash true c = true := by simp [isSlash]
  have htake := takeWhile_run hslashes hstart
  have hdrop := dropWhile_run hslashes hstart
  unfold parseWith
  rw [clean_write h, write_of_isPlain h hhost]
  dsimp only
  rw [scheme?_of_isWeb h.web]
  dsimp only [List.cons_append, List.nil_append] at htake hdrop ⊢
  rw [if_neg hfile, if_pos hspecial, htake, hdrop, hread]
  cases base with
  | none => rfl
  | some base => exact if_neg (by simp)

end Plain

end TaskProbe.Url
