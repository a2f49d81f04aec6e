/-
# Settings.Basic -- what a client can choose

Settings belong to one request.  A search needs a depth and a number of results of
at least one; `Settings.fault?` names the first of the two that is missing.
-/

namespace ChainCompletion

set_option autoImplicit false

/-- What a client can choose. -/
structure Settings where
  /-- Whether chains are proposed at all. -/
  enabled : Bool
  /-- How long a search may take, in milliseconds. -/
  timeoutMs : Nat
  /-- The most accesses in one chain. -/
  maxDepth : Nat
  /-- The most proposals. -/
  maxResults : Nat
  /-- Qualified names of types that are not searched for. -/
  excludedTypes : List String
  /-- Qualified names of types whose static members may start a chain. -/
  staticRoots : List String
  /-- Whether the client understands placeholders. -/
  snippets : Bool
  deriving DecidableEq

/-- What makes settings useless. -/
inductive SettingsFault where
  | zeroDepth
  | zeroResults
  deriving DecidableEq

/-- The wording of a fault. -/
def SettingsFault.message : SettingsFault → String
  | .zeroDepth => "maxDepth must be at least 1"
  | .zeroResults => "maxResults must be at least 1"

namespace Settings

/-- The settings of a client that chooses nothing. -/
def standard : Settings := ⟨true, 3000, 4, 20, [], [], true⟩

/-- What makes the settings useless, if anything does; the depth comes first. -/
def fault? (settings : Settings) : Option SettingsFault :=
  if settings.maxDepth = 0 then some .zeroDepth
  else if settings.maxResults = 0 then some .zeroResults
  else none

/-- The time limit in whole seconds and the milliseconds beyond them. -/
def timeout (settings : Settings) : Nat × Nat :=
  (settings.timeoutMs / 1000, settings.timeoutMs % 1000)

end Settings

end ChainCompletion
