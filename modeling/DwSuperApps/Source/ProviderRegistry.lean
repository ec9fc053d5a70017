import DwSuperApps.Lib.FirstWins
import DwSuperApps.Source.Routing

/-!
# Provider registry

`taskcontroller/routing/registry.py`: the registry of provider and capability cards. Two cards
are compared by their `to_dict`, that is field by field, where the plain data in a card is
compared by Python's `==`: a boolean and an integral float equal the integer of their value,
and the order of the members of an object does not count.
-/
namespace DwSuperApps.Source.ProviderRegistry

open DwSuperApps.Lib DwSuperApps.Lib.Checked DwSuperApps.Source.Routing

/-- The integer a float is equal to, by the text of the float. -/
class FloatValues where
  integer : String → Option Int

section PlainData
variable [FloatValues]

/-! ## Plain data -/

mutual
/-- The value with its integral numbers as integers. -/
def integral : Json → Json
  | .null => .null
  | .bool b => .int (if b then 1 else 0)
  | .int n => .int n
  | .float text => ((FloatValues.integer text).map Json.int).getD (.float text)
  | .str s => .str s
  | .arr items => .arr (integralItems items)
  | .obj members => .obj (integralMembers members)
def integralItems : List Json → List Json
  | [] => []
  | item :: rest => integral item :: integralItems rest
def integralMembers : List (String × Json) → List (String × Json)
  | [] => []
  | (name, value) :: rest => (name, integral value) :: integralMembers rest
end

/-- Members of two objects are the same here exactly if the objects are equal. -/
def comparableMembers (members : List (String × Json)) : List (String × Json) :=
  Json.sortMembers (integralMembers members)

end PlainData

/-! ## Cards -/

/-- What a binding has beside the fields routing reads. -/
structure Channel where
  protocol : Option String := none
  protocolVersion : Option String := none
  authRef : Option String := none
  deriving DecidableEq

/-- A whole provider card: the fields routing reads, and the others. -/
structure ProviderEntry where
  card : ExecutionProviderCard
  channels : List Channel := []
  capacity : List (String × Json) := []
  availability : Option (List (String × Json)) := none
  limits : Option (List (String × Json)) := none
  version : String := "1"
  deriving DecidableEq

/-- A whole capability card. -/
structure CapabilityEntry where
  card : CapabilityCard
  name : String
  requiredEnvironment : EnvironmentRequirement := {}
  tags : List String := []
  deriving DecidableEq

section Registration
variable [FloatValues]

def comparableEnvironment (env : EnvironmentInfo) : EnvironmentInfo :=
  { env with metadata := comparableMembers env.metadata }

def ProviderEntry.comparable (p : ProviderEntry) : ProviderEntry where
  card := { p.card with environment := p.card.environment.map comparableEnvironment }
  channels := p.channels
  capacity := comparableMembers p.capacity
  availability := p.availability.map comparableMembers
  limits := p.limits.map comparableMembers
  version := p.version

/-- `_card_equal`. -/
def SameProvider (a b : ProviderEntry) : Prop := a.comparable = b.comparable

instance : DecidableRel SameProvider := fun a b => inferInstanceAs (Decidable (a.comparable = b.comparable))

/-- A `RoutingRegistrationError`. -/
structure RegistrationError where
  message : String
  deriving DecidableEq

def providerKey (p : ProviderEntry) : String := p.card.providerId.text

def capabilityKey (c : CapabilityEntry) : String := c.card.capabilityId.text

def duplicateProvider (p : ProviderEntry) : RegistrationError :=
  ⟨s!"duplicate provider_id {Json.reprString (providerKey p)} with non-identical card"⟩

def duplicateCapability (c : CapabilityEntry) : RegistrationError :=
  ⟨s!"duplicate capability_id {Json.reprString (capabilityKey c)} with non-identical card"⟩

/-- `build_registry`. -/
def buildRegistry (providers : List ProviderEntry) (capabilities : List CapabilityEntry) :
    Except RegistrationError Registry := do
  let prov ← FirstWins.registerAll providerKey SameProvider duplicateProvider {} providers
  let caps ← FirstWins.registerAll capabilityKey (· = ·) duplicateCapability {} capabilities
  return {
    providers := prov.map fun _ p => p.card
    capabilities := caps.map fun _ c => c.card }

end Registration

end DwSuperApps.Source.ProviderRegistry
