/-!
# Errors in director-supplied data

Each constructor is one cause; `SpecError.message` holds all the wording.
-/

namespace ContainerCpi

/-- Why an identity, a network or an agent environment could not be used. -/
inductive SpecError where
  /-- An identity without its expected leading text. -/
  | invalidId (kind value expected : String)
  /-- An address, netmask or prefix that cannot be read. -/
  | invalidNetwork (network reason : String)
  /-- Network cloud properties that do not decode. -/
  | networkProperties (network detail : String)
  /-- An agent environment that does not decode. -/
  | agentEnv (detail : String)
  deriving DecidableEq, Repr

/-- The wording of each cause. -/
def SpecError.message : SpecError → String
  | .invalidId kind value expected => s!"invalid {kind} id '{value}': expected prefix '{expected}'"
  | .invalidNetwork network reason => s!"invalid network '{network}': {reason}"
  | .networkProperties network detail => s!"invalid cloud properties for network '{network}': {detail}"
  | .agentEnv detail => s!"agent env JSON error: {detail}"

end ContainerCpi
