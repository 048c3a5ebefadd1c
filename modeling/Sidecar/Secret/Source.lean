import Sidecar.Secret.Provider

/-!
# Settings of a provider

Secrets are given either as descriptors or by name.
-/

namespace Sidecar.Secret

structure Source (σ : Type) where
  store : Option String := none
  descriptors : List Descriptor := []
  names : List String := []
  manager : Option Manager := none
  api : Option (Api σ) := none

namespace Source

variable {σ : Type}

def selection (s : Source σ) : Except LoadError Selection :=
  match s.descriptors, s.names with
  | _ :: _, _ :: _ => .error .mixedSelection
  | _ :: _, [] => if s.manager.isSome then .error .idleManager else .ok (.described s.descriptors)
  | [], _ :: _ => .ok (.named s.names (s.manager.getD .standard))
  | [], [] => .ok (.described [])

def build (s : Source σ) : Except LoadError (Provider σ) := do
  let store := s.store.getD ""
  if store.isEmpty then throw .emptyStore
  let api ← s.api.elim (.error .noClient) .ok
  Provider.create store (← s.selection) api

end Source

end Sidecar.Secret
