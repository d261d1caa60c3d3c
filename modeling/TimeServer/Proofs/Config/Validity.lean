import TimeServer.Config.Validity

/-! # What a valid configuration satisfies

* `validate_eq_ok_iff`, `sections_of_validate` — no section has a defect;
* `workerThreads_of_validate` — how many workers there may be;
* `IsAbout` — which fields the errors of each section are about.
-/

namespace TimeServer.Config

variable {c : Config}

theorem validate_eq_ok_iff : c.validate = .ok () ↔ c.defect? = none := by
  unfold validate
  split
  · rename_i found
    simp only [found, reduceCtorEq]
  · rename_i none_found
    simp only [none_found]

theorem sections_of_validate (valid : c.validate = .ok ()) :
    c.network.defect? = none ∧ c.server.defect? = none ∧ c.logging.defect? = none ∧
      c.security.defect? = none ∧ c.performance.defect? = none := by
  simpa [defect?] using validate_eq_ok_iff.1 valid

theorem workerThreads_of_validate (valid : c.validate = .ok ()) :
    c.performance.workerThreads ≤ maxWorkerThreads := by
  obtain ⟨-, -, -, -, performance⟩ := sections_of_validate valid
  unfold Performance.defect? at performance
  split at performance
  · cases performance
  · rename_i within
    exact UInt64.not_lt.1 (not_or.1 within).2

/-! ## Fields -/

/-- The error is about one of these fields. -/
def IsAbout (e : ConfigError) (fields : List String) : Prop :=
  ∃ field ∈ fields, ∃ reason, e = .invalid field reason

variable {e : ConfigError}

theorem Identity.isAbout_of_defect {s : Identity} (found : s.defect? = some e) :
    IsAbout e ["server.stratum", "server.reference_id"] := by
  unfold Identity.defect? at found
  repeat' split at found
  all_goals cases found
  all_goals exact ⟨_, by simp, _, rfl⟩

theorem Logging.isAbout_of_defect {l : Logging} (found : l.defect? = some e) :
    IsAbout e ["logging.log_level"] := by
  unfold Logging.defect? at found
  split at found <;> cases found
  exact ⟨_, by simp, _, rfl⟩

theorem Security.isAbout_of_defect {s : Security} (found : s.defect? = some e) :
    IsAbout e ["security.allowed_clients", "security.denied_clients"] := by
  simp only [Security.defect?, clientsDefect?, Option.orElse_eq_orElse, Option.orElse_eq_or,
    Option.or_eq_some_iff, Option.map_eq_some_iff] at found
  obtain ⟨bad, _, rfl⟩ | ⟨_, bad, _, rfl⟩ := found
  all_goals exact ⟨_, by simp, _, rfl⟩

theorem Performance.isAbout_of_defect {p : Performance} (found : p.defect? = some e) :
    IsAbout e ["performance.worker_threads", "performance.stats_interval"] := by
  unfold Performance.defect? at found
  repeat' split at found
  all_goals cases found
  all_goals exact ⟨_, by simp, _, rfl⟩

theorem IsAbout.ne_listenAddress {fields : List String} {reason : String}
    (elsewhere : "network.listen_address" ∉ fields) (about : IsAbout e fields) :
    e ≠ .invalid "network.listen_address" reason := by
  rintro rfl
  obtain ⟨field, member, _, same⟩ := about
  cases same
  exact elsewhere member

end TimeServer.Config
