/-! # The host

What a run sees of the machine it runs on. Everything that reads it takes it as a value, so a run is
a function of it. -/

namespace OmniLayer

/-- The **host** of a run. -/
structure Host where
  /-- The number of threads that the machine runs at once. -/
  workers : Nat
  /-- The environment variables. -/
  environment : List (String × String)
  /-- The content of the file at a path, if there is one. -/
  file : String → Option String

/-- The value of an environment variable. -/
def Host.lookup? (host : Host) (name : String) : Option String :=
  (host.environment.find? fun entry => entry.1 == name).map (·.2)

end OmniLayer
