import TaskProbe.Proofs.Config.Written
import TaskProbe.Text.Blank

/-!
# Values taken from variables

A configuration may take the value of a field from a variable of the environment. What the variable
holds is read exactly as it is (`File.ofText_variable`), as a text between double quotes or as a
number without them: expanding does not look at it again, and nothing in it ends the value.
-/

namespace TaskProbe.Config

open Text Toml

/-! ## Configurations of one value -/

/-- A level between double quotes. -/
def levelText (value : List Char) : List Char :=
  "[logging]\nlevel = \"".toList ++ value ++ "\"\n".toList

/-- A time allowed, without quotes. -/
def timeoutText (value : List Char) : List Char :=
  "[client]\ntimeout_seconds = ".toList ++ value ++ "\n".toList

theorem spelling_levelText {value : List Char} (h : ∀ c ∈ value, IsPlain c) :
    SectionsSpelling [("logging", [("level", .string value)])] (levelText value) := by
  have htext : levelText value = '[' :: ("logging".toList ++ ']' :: '\n' ::
      ("level".toList ++ (" = ".toList ++ '"' :: (value ++ '"' :: ['\n'])))) :=
    List.append_assoc _ value _
  have hspelling : SectionsSpelling [("logging", [("level", .string value)])] _ :=
    .cons (.cons (.string (stringSpelling_plain h)) .nil) .nil
  rw [htext]
  simpa only [List.append_assoc, List.cons_append, List.nil_append, List.append_nil]
    using hspelling

theorem parse_levelText {value : List Char} (h : ∀ c ∈ value, IsPlain c) :
    fileShape.parse (levelText value)
      = .ok { logging := some { level := some (String.ofList value) } } := by
  have hsections : File.sections { logging := some { level := some (String.ofList value) } }
      = [("logging", [("level", .string value)])] := by
    simp [File.sections, LoggingSection.fields]
  have hspelling := spelling_levelText h
  rw [← hsections] at hspelling
  exact parse_of_sections (by simp [File.timeoutSeconds]) hspelling

theorem spelling_timeoutText (n : Nat) :
    SectionsSpelling [("client", [("timeout_seconds", .integer n)])] (timeoutText (decimal n)) := by
  have htext : timeoutText (decimal n) = '[' :: ("client".toList ++ ']' :: '\n' ::
      ("timeout_seconds".toList ++ (" = ".toList ++ (decimal n ++ ['\n'])))) :=
    List.append_assoc _ (decimal n) _
  have hspelling : SectionsSpelling [("client", [("timeout_seconds", .integer n)])] _ :=
    .cons (.cons (.integer n) .nil) .nil
  rw [htext]
  simpa only [List.append_nil] using hspelling

theorem parse_timeoutText {n : Nat} (h : n ≤ maxUInt64) :
    fileShape.parse (timeoutText (decimal n))
      = .ok { client := some { timeoutSeconds := some n } } := by
  have hsections : File.sections { client := some { timeoutSeconds := some n } }
      = [("client", [("timeout_seconds", .integer n)])] := rfl
  have hspelling := spelling_timeoutText n
  rw [← hsections] at hspelling
  exact parse_of_sections (by simpa [File.timeoutSeconds] using h) hspelling

/-! ## Variables -/

/-- A character that may stand in a value: no quote, no backslash and no control character. -/
theorem isPlain_of_isControl {c : Char} (hquote : c ≠ '"') (hbackslash : c ≠ '\\')
    (hcontrol : isControl c = false) : IsPlain c := by
  refine ⟨hquote, hbackslash, ?_⟩
  simp only [isControl, Bool.or_eq_false_iff, Bool.and_eq_false_iff, decide_eq_false_iff_not]
    at hcontrol
  simp only [isTextChar, Bool.or_eq_true, Bool.and_eq_true, decide_eq_true_eq]
  omega

theorem ofText_between {env : Environment} {name : String} (hname : isName name.toList = true)
    {value : List Char} (hvalue : env name = some (String.ofList value)) {p s : List Char}
    (hp : '\x7d' ∉ p) (hs : '$' ∉ s) {file : File}
    (h : fileShape.parse (p ++ value ++ s) = .ok file) :
    File.ofText env (p ++ writePlaceholder name.toList ++ s) = .ok file := by
  have hreplacement : replacement env name = value := by
    rw [replacement, hvalue, Option.elim_some, String.toList_ofList]
  rw [File.ofText, expand_between hname hp hs, hreplacement, h]
  rfl

/-- **A value that is taken from a variable is read exactly.** -/
theorem File.ofText_variable {env : Environment} {name : String}
    (hname : isName name.toList = true) :
    (∀ value : String, env name = some value →
      (∀ c ∈ value.toList, c ≠ '"' ∧ c ≠ '\\' ∧ isControl c = false) →
      ofText env (levelText (writePlaceholder name.toList))
        = .ok { logging := some { level := some value } }) ∧
    ∀ n ≤ maxUInt64, env name = some (String.ofList (decimal n)) →
      ofText env (timeoutText (writePlaceholder name.toList))
        = .ok { client := some { timeoutSeconds := some n } } := by
  constructor
  · intro value hvalue hplain
    have hchars : ∀ c ∈ value.toList, IsPlain c := fun c hc =>
      isPlain_of_isControl (hplain c hc).1 (hplain c hc).2.1 (hplain c hc).2.2
    have hparse := parse_levelText hchars
    rw [← String.ofList_toList (s := value)] at hvalue
    rw [String.ofList_toList] at hparse
    exact ofText_between hname hvalue (by decide) (by decide) hparse
  · intro n hn hvalue
    exact ofText_between hname hvalue (by decide) (by decide) (parse_timeoutText hn)

/-- A level with a placeholder, a comment and brackets in it, and the greatest time. -/
theorem File.ofText_variable_lookalike :
    let env : Environment := fun name =>
      if name = "FC_LEVEL" then some "$\x7bFC_OTHER\x7d # = [x]"
      else if name = "FC_OTHER" then some "warn"
      else if name = "FC_TIMEOUT" then some (String.ofList (decimal maxUInt64))
      else none
    isName "FC_LEVEL".toList = true ∧ isName "FC_TIMEOUT".toList = true ∧
      ofText env (levelText (writePlaceholder "FC_LEVEL".toList))
        = .ok { logging := some { level := some "$\x7bFC_OTHER\x7d # = [x]" } } ∧
      ofText env (timeoutText (writePlaceholder "FC_TIMEOUT".toList))
        = .ok { client := some { timeoutSeconds := some maxUInt64 } } := by
  intro env
  have hlevel : isName "FC_LEVEL".toList = true := by decide
  have htimeout : isName "FC_TIMEOUT".toList = true := by decide
  have hchars : ∀ c ∈ "$\x7bFC_OTHER\x7d # = [x]".toList,
      c ≠ '"' ∧ c ≠ '\\' ∧ isControl c = false := by
    have hall : ("$\x7bFC_OTHER\x7d # = [x]".toList.all fun c =>
        c != '"' && c != '\\' && !isControl c) = true := by decide
    intro c hc
    simpa [and_assoc] using List.all_eq_true.mp hall c hc
  exact ⟨hlevel, htimeout, (ofText_variable hlevel).1 _ rfl hchars,
    (ofText_variable htimeout).2 _ (Nat.le_refl _) rfl⟩

end TaskProbe.Config
