/-! # Access rules

Which clients are served.  Clients are compared with the lists by their exact text.

* `check`, `admits` — what the rules say about a client;
* `check_ne_allow_iff` — whom they turn away.
-/

namespace TimeServer

inductive Verdict
  | allow
  | deny
  | restrict
  deriving DecidableEq, Repr

structure AccessRules where
  /-- Whether the allow list is enforced, if it holds any client. -/
  restrictQueries : Bool := false
  allowed : List String := []
  denied : List String := []
  deriving DecidableEq, Repr

namespace AccessRules

/-- What the rules say about a client: the deny list first, then the allow list. -/
def check (rules : AccessRules) (client : String) : Verdict :=
  if client ∈ rules.denied then .deny
  else if rules.restrictQueries ∧ rules.allowed ≠ [] ∧ client ∉ rules.allowed then .restrict
  else .allow

/-- A client is turned away just if it is on the deny list, or the allow list is enforced, holds
    any client and does not hold this one. -/
theorem check_ne_allow_iff {rules : AccessRules} {client : String} :
    rules.check client ≠ .allow ↔ client ∈ rules.denied ∨
      rules.restrictQueries ∧ rules.allowed ≠ [] ∧ client ∉ rules.allowed := by
  unfold check
  split
  · rename_i denied
    exact iff_of_true nofun (.inl denied)
  · rename_i not_denied
    split
    · rename_i restricted
      exact iff_of_true nofun (.inr restricted)
    · rename_i admitted
      exact iff_of_false (not_not_intro rfl) (not_or.2 ⟨not_denied, admitted⟩)

def admits (rules : AccessRules) (client : String) : Bool := rules.check client == .allow

def names (clients : List String) : List String :=
  (clients.mergeSort (· ≤ ·)).eraseDups

end AccessRules

end TimeServer
