import TimeServer.Proofs.Connection.Operation
import TimeServer.Server
import Mathlib.Data.List.Induction

/-! # Whom a server serves

What a server decides about a client, told from the steps that its settings were made in.

* `Settings.denyList`, `Settings.allowList`, `Settings.restricts` — what the last whole settings and
  the steps behind them say;
* `accessRules_build` — these are the rules of the server;
* `Stream.Takes` — streams that take so many bytes and the flush behind them;
* `Connection.Step.served_iff` — a client that is admitted is served just if its stream takes a
  packet;
* `decided_by_build` — whom a new server turns away and whom it serves, and how that changes with
  the lists.
-/

namespace TimeServer

/-! ## Settings -/

namespace Setting

/-- The whole settings that the step starts again from. -/
def whole? : Setting → Option Settings
  | config settings => some settings
  | _ => none

/-- The client that the step puts on the deny list. -/
def denied? : Setting → Option String
  | deny client => some client
  | _ => none

/-- The client that the step puts on the allow list. -/
def allowed? : Setting → Option String
  | allow client => some client
  | _ => none

/-- What the step says about enforcing the allow list. -/
def restriction? : Setting → Option Bool
  | config settings => some settings.restrictQueries
  | restrictQueries enabled => some enabled
  | _ => none

end Setting

namespace Settings

open Setting (whole? denied? allowed? restriction?)

/-- The last whole settings among the steps. -/
def lastWhole? (steps : List Setting) : Option Settings := steps.reverse.findSome? whole?

/-- The steps behind the last whole settings. -/
def sinceWhole (steps : List Setting) : List Setting :=
  (steps.reverse.takeWhile (·.whole?.isNone)).reverse

/-- A list of the last whole settings, and what the steps behind them add to it. -/
def gathered (listed : Settings → List String) (added? : Setting → Option String)
    (steps : List Setting) : List String :=
  (lastWhole? steps).elim [] listed ++ (sinceWhole steps).filterMap added?

/-- The clients denied by the last whole settings and since. -/
def denyList (steps : List Setting) : List String := gathered deniedClients denied? steps

/-- The clients allowed by the last whole settings and since. -/
def allowList (steps : List Setting) : List String := gathered allowedClients allowed? steps

/-- Whether the allow list is to be enforced, as the last step that says so has it. -/
def restricts (steps : List Setting) : Bool :=
  (steps.reverse.findSome? restriction?).getD false

theorem build_concat (steps : List Setting) (step : Setting) :
    build (steps ++ [step]) = (build steps).set step := by
  simp [build]

theorem gathered_concat (listed : Settings → List String) (added? : Setting → Option String)
    (steps : List Setting) (step : Setting) :
    gathered listed added? (steps ++ [step]) =
      match step.whole? with
      | some whole => listed whole
      | none => gathered listed added? steps ++ (added? step).toList := by
  cases whole : step.whole? with
  | some settings => simp [gathered, lastWhole?, sinceWhole, whole]
  | none =>
    cases added : added? step <;> simp [gathered, lastWhole?, sinceWhole, whole, added]

theorem restricts_concat (steps : List Setting) (step : Setting) :
    restricts (steps ++ [step]) = step.restriction?.getD (restricts steps) := by
  cases said : step.restriction? <;> simp [restricts, said]

/-- The rules of a server are those that the last whole settings and the steps behind them say. -/
theorem accessRules_build (steps : List Setting) :
    (build steps).accessRules = ⟨restricts steps, allowList steps, denyList steps⟩ := by
  induction steps using List.reverseRecOn with
  | nil => rfl
  | append_singleton steps step ih =>
    -- Each step says something about one of the three, about all of them, or about none.
    simp only [accessRules, AccessRules.mk.injEq, denyList, allowList, build_concat,
      gathered_concat, restricts_concat] at ih ⊢
    obtain ⟨restricts, allowed, denied⟩ := ih
    cases step with
    | config settings => exact ⟨rfl, rfl, rfl⟩
    | restrictQueries enabled =>
      simp [set, whole?, restriction?, allowed?, denied?, allowed, denied]
    | _ => simp [set, whole?, restriction?, allowed?, denied?, restricts, allowed, denied]

end Settings

/-! ## Decisions -/

namespace Connection

/-- The service of a client that has just come. -/
def welcome (client : String) (rules : AccessRules) (stream : Stream) (clock : Clock) :
    Turn Outcome :=
  (establish client rules stream).connection.perform clock .serve

section Welcome

variable (client : String) (rules : AccessRules) (stream : Stream) (clock : Clock)

theorem step_welcome : Step (establish client rules stream).connection clock .serve
    (welcome client rules stream clock) :=
  step_perform (sound_establish client rules stream) clock .serve

theorem denied_welcome_iff : (welcome client rules stream clock).result = .served .denied ↔
    client ∈ rules.denied ∨
      rules.restrictQueries ∧ rules.allowed ≠ [] ∧ client ∉ rules.allowed :=
  (step_welcome client rules stream clock).denied_iff.1.trans AccessRules.check_ne_allow_iff

variable {client rules}

/-- A client that is turned away has its stream shut down and not used otherwise. -/
theorem calls_welcome (refused : rules.check client ≠ .allow) :
    (welcome client rules stream clock).connection.stream.calls = stream.calls ++ [.shutdown] := by
  have step := step_welcome client rules stream clock
  generalize welcome client rules stream clock = turn at step ⊢
  cases step with
  | denied => exact calls_close rfl
  | shut _ admits | sent _ admits | brokeOff _ admits | panicked _ admits =>
    exact absurd (admits rfl) refused

theorem result_welcome_congr {rules' : AccessRules}
    (same : (client ∈ rules'.denied ∨
        rules'.restrictQueries ∧ rules'.allowed ≠ [] ∧ client ∉ rules'.allowed) ↔
      (client ∈ rules.denied ∨
        rules.restrictQueries ∧ rules.allowed ≠ [] ∧ client ∉ rules.allowed)) :
    (welcome client rules' stream clock).result = (welcome client rules stream clock).result := by
  have same_check : rules'.check client ≠ .allow ↔ rules.check client ≠ .allow := by
    rw [AccessRules.check_ne_allow_iff, AccessRules.check_ne_allow_iff, same]
  by_cases allow : rules.check client = .allow
  · have allow' : rules'.check client = .allow := (not_iff_not.1 same_check).2 allow
    simp only [welcome, perform, serve, establish, allow, allow', sendPacket]
    cases (stream.sendAll (TimePacket.atClock clock).toWire).1 <;> rfl
  · rw [(step_welcome client rules stream clock).denied_iff.1.2 allow]
    exact (step_welcome client rules' stream clock).denied_iff.1.2 (same_check.2 allow)

end Welcome

/-- A client that comes to a server made in these steps is turned away, its stream only shut down,
    just if it is on the deny list, or the allow list is enforced, holds any client and does not
    hold this one.  Else it is served just if its stream takes a packet, and gets the time.  The
    order of the lists and repetitions in them do not matter, more clients on the deny list let
    nobody in, and more on the allow list keep nobody out unless the list was empty and is enforced.
    -/
theorem decided_by_build (steps : List Setting) (network : Network) (made : Clock)
    (client : String) (stream : Stream) (clock : Clock) :
    let restricts := Settings.restricts steps
    let allowed := Settings.allowList steps
    let denied := Settings.denyList steps
    let turn := welcome client (Server.ofSettings (.build steps) network made).rules stream clock
    let outcome (allowed' denied' : List String) :=
      (welcome client ⟨restricts, allowed', denied'⟩ stream clock).result
    (turn.result = .served .denied ↔
        client ∈ denied ∨ restricts ∧ allowed ≠ [] ∧ client ∉ allowed) ∧
      (turn.result = .served .denied →
        turn.connection.stream.calls = stream.calls ++ [.shutdown] ∧
        turn.connection.stream.accepted = stream.accepted) ∧
      (turn.result ≠ .served .denied →
        (turn.result = .served .served ↔ stream.Takes packetSize) ∧
        (stream.Takes packetSize →
          turn.connection.stream.accepted = stream.accepted ++ encode clock.now)) ∧
      (∀ allowed' denied', (∀ name, name ∈ allowed' ↔ name ∈ allowed) →
        (∀ name, name ∈ denied' ↔ name ∈ denied) → outcome allowed' denied' = turn.result) ∧
      (∀ denied', denied ⊆ denied' → turn.result = .served .denied →
        outcome allowed denied' = .served .denied) ∧
      (∀ allowed', allowed ⊆ allowed' → ¬ (allowed = [] ∧ restricts) →
        turn.result ≠ .served .denied → outcome allowed' denied = turn.result) := by
  intro restricts allowed denied turn outcome
  have rules : (Server.ofSettings (.build steps) network made).rules =
      ⟨restricts, allowed, denied⟩ := Settings.accessRules_build steps
  have step := step_welcome client ⟨restricts, allowed, denied⟩ stream clock
  have denied_iff := denied_welcome_iff client ⟨restricts, allowed, denied⟩ stream clock
  simp only [turn, rules]
  refine ⟨denied_iff, fun refused => ⟨?_, step.denied_iff.2 refused⟩, fun admitted => ?_,
    fun allowed' denied' same_allowed same_denied => ?_, fun denied' more refused => ?_,
    fun allowed' more enforced admitted => ?_⟩
  · exact calls_welcome stream clock (step.denied_iff.1.1 refused)
  · have allow : AccessRules.check ⟨restricts, allowed, denied⟩ client = .allow :=
      Decidable.not_not.1 (mt step.denied_iff.1.2 admitted)
    obtain ⟨served_iff, output⟩ := step.delivered_iff rfl (fun _ => allow) rfl
    exact ⟨served_iff, fun takes => output (served_iff.2 takes)⟩
  · have nonempty : allowed' ≠ [] ↔ allowed ≠ [] := by
      simp only [ne_eq, List.eq_nil_iff_forall_not_mem, same_allowed]
    apply result_welcome_congr
    simp only [same_allowed, same_denied, nonempty]
  · rw [denied_welcome_iff]
    exact (denied_iff.1 refused).imp_left fun member => more member
  · have refused := mt denied_iff.2 admitted
    apply result_welcome_congr
    refine iff_of_false (not_or.2 ⟨(not_or.1 refused).1, ?_⟩) refused
    rintro ⟨restricted, _, unnamed⟩
    -- The client was not on the shorter list either, so that list was empty.
    have unnamed' : client ∉ allowed := fun member => unnamed (more member)
    refine enforced ⟨?_, restricted⟩
    exact Decidable.not_not.1 fun some_allowed =>
      refused (.inr ⟨restricted, some_allowed, unnamed'⟩)

end Connection

end TimeServer
