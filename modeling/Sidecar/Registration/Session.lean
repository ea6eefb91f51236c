import Sidecar.Registration.Apply

/-!
A controller over time: it applies registrations with whatever bundle it is given, its configuration is
exchanged, and other clients delete objects.
-/

namespace Sidecar.Registration

/-- What happens next. -/
inductive Action where
  | apply (ca : Content) (forced : ForcedFailures)
  | configure (c : WebhookConfig)
  | delete (name : String)
  deriving DecidableEq, Repr

structure Session where
  config : WebhookConfig
  store : RegistrationStore
  deriving DecidableEq, Repr

namespace Session

/-- The run in which the registration of the current configuration is applied. -/
def apply (s : Session) (ca : Content) (forced : ForcedFailures) : Run :=
  (build s.config ca).apply forced s.store

def step (s : Session) : Action → Session
  | .apply ca forced => { s with store := (s.apply ca forced).store }
  | .configure c => { s with config := c }
  | .delete name => { s with store := s.store.delete name }

def run (s : Session) (actions : List Action) : Session := actions.foldl step s

end Session

end Sidecar.Registration
