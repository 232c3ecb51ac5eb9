import DeviceAuth.Text.Octets

/-! Environments: what a program is told from outside when it starts. A variable is set to
octets, which need not be text. -/

namespace DeviceAuth

structure Environment where
  entries : List (String × Octets) := []
deriving DecidableEq, Repr

namespace Environment

def ofTexts (entries : List (String × String)) : Environment :=
  ⟨entries.map fun entry => (entry.1, Octets.ofText entry.2)⟩

def octets? (environment : Environment) (name : String) : Option Octets :=
  (environment.entries.find? fun entry => entry.1 == name).map (·.2)

/-- The text that a variable is set to. Octets that are no text count as nothing. -/
def value? (environment : Environment) (name : String) : Option String :=
  (environment.octets? name).bind Octets.toText?

def filled? (environment : Environment) (name : String) : Option String :=
  (environment.value? name).filter fun value => !value.isEmpty

theorem value?_eq_some_iff {environment : Environment} {name value : String} :
    environment.value? name = some value ↔
      environment.octets? name = some (Octets.ofText value) := by
  rw [value?, Option.bind_eq_some_iff]
  constructor
  · rintro ⟨octets, set_, decoded⟩
    rw [set_, Octets.ofText_of_toText? decoded]
  · exact fun set_ => ⟨_, set_, Octets.toText?_ofText value⟩

end Environment

end DeviceAuth
