import CredentialGateway.Config.Load

/-! Which loaded configurations are applied while a gateway runs: only the services are taken over, and only if they
changed. -/

namespace CredentialGateway.Config

structure ReloadFilter where
  current : Config
  deriving DecidableEq, Repr

inductive Reload
  | unchanged
  | changed (update : Config)
  | rejected (e : LoadError)
  deriving DecidableEq, Repr

namespace ReloadFilter

/-- Settings that differ from the running ones take effect only after a restart. -/
def needsRestart (f : ReloadFilter) (loaded : Config) : Bool :=
  loaded.listener ≠ f.current.listener || loaded.forwarding ≠ f.current.forwarding

def accept (f : ReloadFilter) (loaded : Config) : Option Config × ReloadFilter :=
  -- Only the services are remembered: the other settings stay those of the start.
  if loaded.services = f.current.services then (none, f)
  else (some loaded, ⟨{ f.current with services := loaded.services }⟩)

def reload (f : ReloadFilter) (file : File) : Reload × ReloadFilter :=
  match load file with
  | .error e => (.rejected e, f)
  | .ok loaded =>
    match f.accept loaded with
    | (some update, g) => (.changed update, g)
    | (none, g) => (.unchanged, g)

end ReloadFilter
end CredentialGateway.Config
