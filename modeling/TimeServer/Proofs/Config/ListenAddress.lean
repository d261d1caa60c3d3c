import Mathlib.Data.List.TakeWhile
import TimeServer.Proofs.Config.Validity
import TimeServer.Proofs.Server.Start

/-! # Listen addresses that are empty

A configuration is checked for an address that is white space alone.  A start looks for one that is
empty once its brackets are gone too.

* `Settings.host_eq_nil_iff` — those are the addresses that consist of brackets alone;
* `Config.emptyAddress_agrees_iff` — for which configurations the two checks agree.
-/

namespace TimeServer

open TimeServer.Text

theorem LookupError.message_ne_empty (e : LookupError) : e.message ≠ "empty address" := by
  cases e with
  | service detail =>
    have first : (service detail).message.toList.head? ≠ some 'e' := by
      change ("failed to lookup address information: " ++ detail).toList.head? ≠ _
      rw [String.toList_append, List.head?_append_of_ne_nil _ (by decide)]
      decide
    intro same
    exact first (by rw [same]; rfl)
  | system code =>
    have last : (system code).message.toList.getLast? ≠ some 's' := by
      change ((osError code).2 ++ " (os error " ++ toString code ++ ")").toList.getLast? ≠ _
      rw [String.toList_append, List.getLast?_append_of_ne_nil _ (by decide)]
      decide
    intro same
    exact last (by rw [same]; rfl)

namespace Settings

/-- Opening brackets and closing ones behind them, and nothing else. -/
def OnlyBrackets (cs : List Char) : Prop :=
  ∃ opening closing, cs = List.replicate opening '[' ++ List.replicate closing ']'

theorem host_eq_nil_iff (address : String) :
    host address = [] ↔ OnlyBrackets (trim address.toList) := by
  rw [host, dropEndWhile, List.reverse_eq_nil_iff, List.dropWhile_eq_nil_iff]
  generalize trim address.toList = cs
  constructor
  · intro closing
    have front : cs.takeWhile (· == '[') = List.replicate (cs.takeWhile (· == '[')).length '[' := by
      apply List.eq_replicate_of_mem
      intro c member
      exact eq_of_beq (List.all_eq_true.1 List.all_takeWhile c member)
    have back : cs.dropWhile (· == '[') = List.replicate (cs.dropWhile (· == '[')).length ']' := by
      apply List.eq_replicate_of_mem
      intro c member
      exact eq_of_beq (closing c (List.mem_reverse.2 member))
    exact ⟨_, _, by rw [← front, ← back, List.takeWhile_append_dropWhile]⟩
  · rintro ⟨opening, closing, rfl⟩ c member
    have stops : ∀ c ∈ (List.replicate closing ']').head?, (c == '[') = false := by
      intro c first
      rw [List.eq_of_mem_replicate (List.mem_of_head? first)]
      rfl
    have opens : ∀ c ∈ List.replicate opening '[', (c == '[') = true := by
      intro c member
      rw [List.eq_of_mem_replicate member]
      rfl
    rw [dropWhile_run opens stops] at member
    rw [List.eq_of_mem_replicate (List.mem_reverse.1 member)]
    rfl

theorem resolve_eq_empty_iff (lookup : List Char → Except LookupError (List IpAddress))
    (host : List Char) : resolve lookup host = .error "empty address" ↔ host = [] := by
  unfold resolve
  split
  · rename_i ip found
    have named : host ≠ [] := by
      rintro rfl
      cases found
    simp [named]
  · split
    · simp [*]
    · split
      · simp [*]
      · split
        · rename_i e _
          simp [*, e.message_ne_empty]
        all_goals simp [*]

theorem socketAddress_empty_iff (s : Settings)
    (lookup : List Char → Except LookupError (List IpAddress)) :
    s.socketAddress lookup = .error (.invalidListenAddress s.listenAddress "empty address") ↔
      OnlyBrackets (trim s.listenAddress.toList) := by
  rw [← host_eq_nil_iff, ← resolve_eq_empty_iff lookup, socketAddress]
  split <;> simp [*]

end Settings

/-! ## Configurations -/

namespace Config

theorem validate_emptyAddress_iff (c : Config) :
    c.validate = .error (.invalid "network.listen_address" "must not be empty") ↔
      trim c.network.listenAddress.toList = [] := by
  constructor
  · intro refused
    have found : c.defect? = some (.invalid "network.listen_address" "must not be empty") := by
      unfold validate at refused
      split at refused
      · cases refused
        assumption
      · cases refused
    simp only [defect?, Option.orElse_eq_orElse, Option.orElse_eq_or,
      Option.or_eq_some_iff] at found
    -- The first defect is one of the network section, since the others name other fields.
    obtain network | ⟨-, server | ⟨-, logging | ⟨-, security | ⟨-, performance⟩⟩⟩⟩ := found
    · unfold Network.defect? at network
      split at network
      · rename_i blank
        simpa [isBlankText] using blank
      · repeat' split at network
        all_goals simp at network
    · exact absurd rfl ((Identity.isAbout_of_defect server).ne_listenAddress (by decide))
    · exact absurd rfl ((Logging.isAbout_of_defect logging).ne_listenAddress (by decide))
    · exact absurd rfl ((Security.isAbout_of_defect security).ne_listenAddress (by decide))
    · exact absurd rfl ((Performance.isAbout_of_defect performance).ne_listenAddress (by decide))
  · intro blank
    have found : c.network.defect? =
        some (.invalid "network.listen_address" "must not be empty") := by
      simp [Network.defect?, isBlankText, blank]
    simp [validate, defect?, found]

/-- A configuration is refused for its address if that is white space alone, and a start refuses it
    as empty if it is brackets alone.  So the two agree on every address but one of brackets alone
    that has a bracket. -/
theorem emptyAddress_agrees_iff (c : Config) :
    (c.validate = .error (.invalid "network.listen_address" "must not be empty") ↔
      trim c.network.listenAddress.toList = []) ∧
    (∀ lookup, c.settings.socketAddress lookup =
        .error (.invalidListenAddress c.network.listenAddress "empty address") ↔
      Settings.OnlyBrackets (trim c.network.listenAddress.toList)) ∧
    (∀ network clock, (Server.ofSettings c.settings network clock).start.1 =
        .error (.invalidListenAddress c.network.listenAddress "empty address") ↔
      Settings.OnlyBrackets (trim c.network.listenAddress.toList)) ∧
    ∀ lookup, (c.validate = .error (.invalid "network.listen_address" "must not be empty") ↔
        c.settings.socketAddress lookup =
          .error (.invalidListenAddress c.network.listenAddress "empty address")) ↔
      (Settings.OnlyBrackets (trim c.network.listenAddress.toList) →
        trim c.network.listenAddress.toList = []) := by
  have resolved := Settings.socketAddress_empty_iff c.settings
  have refused := c.validate_emptyAddress_iff
  refine ⟨refused, resolved, ?_, ?_⟩
  · intro network clock
    exact (Server.start_invalid_iff rfl rfl _ _).trans (resolved _)
  · intro lookup
    have blank : trim c.network.listenAddress.toList = [] →
        Settings.OnlyBrackets (trim c.network.listenAddress.toList) :=
      fun empty => ⟨0, 0, empty⟩
    rw [refused]
    constructor
    · intro agree brackets
      exact agree.2 ((resolved lookup).2 brackets)
    · intro few
      exact ⟨fun empty => (resolved lookup).2 (blank empty),
        fun empty => few ((resolved lookup).1 empty)⟩

/-- An address of two brackets passes the check, and no server starts with it. -/
theorem emptyAddress_of_brackets :
    ∃ c : Config, c.validate = .ok () ∧
      (∀ lookup, c.settings.socketAddress lookup =
        .error (.invalidListenAddress "[]" "empty address")) ∧
      ∀ network clock, (Server.ofSettings c.settings network clock).start.1 =
        .error (.invalidListenAddress "[]" "empty address") := by
  have unnamed : ∀ lookup, ({ listenAddress := "[]" } : Settings).socketAddress lookup =
      .error (.invalidListenAddress "[]" "empty address") :=
    fun _ => rfl
  refine ⟨{ network := { listenAddress := "[]" } }, validate_eq_ok_iff.2 (by decide), unnamed, ?_⟩
  intro network clock
  exact Server.start_of_misnamed rfl rfl (unnamed _)

end Config

end TimeServer
