import TimeServer.Program
import TimeServer.Proofs.Config.RoundTrip
import TimeServer.Proofs.Config.Validity
import TimeServer.Proofs.Files.Directories

/-! # Saving and loading configurations

* `save_ok_iff` — when a configuration is saved, and what is left behind;
* `load_of_save`, `exists_save_of_accepts` — it is loaded as it was saved, and saved wherever a file
  can be written;
* `Program.initConfig_of_valid`, `Program.initConfig_of_invalid`, `Program.load_of_initConfig` — the
  command that makes a configuration file;
* `written_and_read` — the whole way there and back.
-/

namespace TimeServer

namespace Config

variable {c : Config} {files saved : Files} {path : String}

theorem save_ok_iff : c.save files path = (.ok (), saved) ↔
    ∃ text made, c.render? = some text ∧ files.createParents path = (.ok (), made) ∧
      made.write path (banner ++ text) = .ok saved := by
  constructor
  · intro done
    unfold save at done
    cases rendered : c.render? with
    | none => simp [rendered] at done
    | some text =>
      rcases created : files.createParents path with ⟨result, made⟩
      cases result with
      | error e => simp [rendered, created] at done
      | ok =>
        cases written : made.write path (banner ++ text) with
        | error e => simp [rendered, created, written] at done
        | ok after =>
          obtain rfl : after = saved := by simpa [rendered, created, written] using done
          exact ⟨text, made, rfl, rfl, written⟩
  · rintro ⟨text, made, rendered, created, written⟩
    simp only [save, rendered, created, written]

theorem load_of_save (done : c.save files path = (.ok (), saved)) : load saved path = .ok c := by
  obtain ⟨text, made, rendered, -, written⟩ := save_ok_iff.1 done
  rw [load, Files.read_of_write written]
  simp only [parse?_banner_of_render? rendered]

/-- A configuration that can be written is saved wherever a file can be written. -/
theorem exists_save_of_accepts (fits : c.Fits) (accepts : files.Accepts path) :
    ∃ saved, c.save files path = (.ok (), saved) := by
  obtain ⟨made, created, place, found⟩ := accepts
  exact ⟨_, save_ok_iff.2 ⟨_, made, fits.render?, created, Files.write_of_target found⟩⟩

end Config

namespace Program

variable {options : Options} {path output : String} {h after : Host}

theorem check_of_valid {c : Config} (valid : c.validate = .ok ()) : check c = .ok () := by
  rw [check, valid]
  rfl

theorem check_of_invalid {c : Config} {e : ConfigError} (invalid : c.validate = .error e) :
    check c = .error (.config e) := by
  rw [check, invalid]
  rfl

/-- The options leave the numbers of a valid configuration such that it can be written. -/
theorem fits_override (valid : (options.override {}).validate = .ok ()) :
    (options.override {}).Fits := by
  have limit : Int64.maxValue.toInt = 9223372036854775807 := rfl
  have workers := UInt64.le_iff_toNat_le.1 (Config.workerThreads_of_validate valid)
  have most : Config.maxWorkerThreads.toNat = 1024 := rfl
  have usual : ({} : Config).Fits := ⟨by decide, by decide, by decide, by decide⟩
  exact ⟨usual.maxConnections, usual.timeoutMs, by omega, usual.statsInterval⟩

theorem initConfig_of_invalid {e : ConfigError}
    (invalid : (options.override {}).validate = .error e) :
    initConfig options path h = (.error (.config e), h) := by
  simp only [initConfig, check_of_invalid invalid]

theorem initConfig_of_valid (valid : (options.override {}).validate = .ok ())
    (accepts : h.files.Accepts path) :
    ∃ after, initConfig options path h = (.ok s!"wrote configuration to {path}\n", after) := by
  obtain ⟨saved, done⟩ := Config.exists_save_of_accepts (fits_override valid) accepts
  exact ⟨{ h with files := saved }, by simp only [initConfig, check_of_valid valid, done]⟩

/-- A configuration that was made is the one that the options make of the defaults. -/
theorem load_of_initConfig (done : initConfig options path h = (.ok output, after)) :
    Config.load after.files path = .ok (options.override {}) ∧
      (options.override {}).validate = .ok () := by
  cases valid : (options.override {}).validate with
  | error e =>
    rw [initConfig_of_invalid valid] at done
    cases done
  | ok =>
    have kept : (options.override {}).save h.files path = (.ok (), after.files) := by
      rcases saved : (options.override {}).save h.files path with ⟨result, files⟩
      simp only [initConfig, check_of_valid valid, saved] at done
      cases result with
      | error e => cases done
      | ok =>
        obtain rfl := (Prod.mk.inj done).2
        rfl
    exact ⟨Config.load_of_save kept, rfl⟩

end Program

namespace Config

open Program (World carryOut)

/-- A configuration whose numbers fit in signed words of 64 bits is written and read back the same,
    as a text and as a file.  A file can be written wherever its path leads through directories or
    places where nothing stands, of which directories are made.  The command that makes a
    configuration file leaves one that is loaded as the defaults under the options and is valid; if
    these are not valid, it leaves everything as it was, and if they are, it fails only where a file
    cannot be written. -/
theorem written_and_read :
    (∀ c : Config, c.Fits →
      (∃ text, c.render? = some text ∧ parse? text = some c) ∧
        ∀ files path, Files.Accepts files path →
          ∃ saved, c.save files path = (.ok (), saved) ∧ load saved path = .ok c) ∧
    (∀ files path way name, Files.Clear files path way name → files.Accepts path) ∧
    ∀ (line : CommandLine) (w : World) (path : String), line.selected = .initConfig path →
      let c := line.options.override {}
      (∀ output h, carryOut line w = (.ok output, h) →
        load h.files path = .ok c ∧ c.validate = .ok ()) ∧
      (∀ e, c.validate = .error e → carryOut line w = (.error (.config e), w.host)) ∧
      (c.validate = .ok () → w.host.files.Accepts path →
        ∃ h, carryOut line w = (.ok s!"wrote configuration to {path}\n", h)) := by
  refine ⟨fun c fits => ⟨⟨_, fits.render?, parse?_of_render? fits.render?⟩, ?_⟩, ?_, ?_⟩
  · intro files path accepts
    obtain ⟨saved, done⟩ := exists_save_of_accepts fits accepts
    exact ⟨saved, done, load_of_save done⟩
  · exact fun files path way name clear => clear.accepts
  · intro line w path selected c
    have carried : carryOut line w = Program.initConfig line.options path w.host := by
      rw [carryOut, selected]
    rw [carried]
    exact ⟨fun output h done => Program.load_of_initConfig done,
      fun e invalid => Program.initConfig_of_invalid invalid,
      fun valid accepts => Program.initConfig_of_valid valid accepts⟩

/-- Texts that need every way of quoting. -/
def quoted : Config :=
  { logging.logFile := some "a\\b\n\"c\"\x01"
    security.allowedClients := ["", "it's", "\"\"\"", "\r"]
    security.deniedClients := ["'''\\'''"] }

theorem written_and_read_nested :
    let path := "etc/time/server.toml"
    let line : CommandLine := { options.workers := some 8, subcommand := some (.initConfig path) }
    (∃ text, quoted.render? = some text ∧ parse? text = some quoted) ∧
      (∃ saved, quoted.save {} path = (.ok (), saved) ∧ load saved path = .ok quoted) ∧
      ∃ h, carryOut line { clock := ⟨0, 0⟩ } = (.ok s!"wrote configuration to {path}\n", h) ∧
        load h.files path = .ok (line.options.override {}) := by
  intro path line
  obtain ⟨round_trip, accepted, made⟩ := written_and_read
  have clear : Files.Clear {} "etc/time/server.toml" ["etc", "time"] "server.toml" :=
    Files.clear_empty (by rfl) (by decide +kernel) (by decide +kernel) (by decide +kernel)
  have fits : quoted.Fits := ⟨by decide, by decide, by decide, by decide⟩
  have accepts := accepted _ _ _ _ clear
  have valid : (line.options.override {}).validate = .ok () :=
    validate_eq_ok_iff.2 (by decide +kernel)
  obtain ⟨h, done⟩ := (made line { clock := ⟨0, 0⟩ } path rfl).2.2 valid accepts
  exact ⟨(round_trip quoted fits).1, (round_trip quoted fits).2 _ _ accepts, h, done,
    ((made line { clock := ⟨0, 0⟩ } path rfl).1 _ _ done).1⟩

end Config

end TimeServer
