import ClusterAccess.Fault.Failure
import ClusterAccess.Logging.Level

/-!
# Traced computations

A traced computation ends in a value or a failure and leaves behind what it logged and which
credential plugins it called, in order. What was traced before a failure is kept.
-/

namespace ClusterAccess

/-- A call of the credential plugin: the context it was asked for and the folder that relative
paths are taken from. -/
structure PluginCall where
  context : Value
  folder : String
  deriving Repr

structure Traced (α : Type) where
  result : Except Failure α
  records : List Logging.Record := []
  calls : List PluginCall := []

namespace Traced

variable {α β : Type}

def ok (a : α) : Traced α := { result := .ok a }

def fail (e : Failure) : Traced α := { result := .error e }

/-- Go on with the value of the first computation; both traces are kept. -/
def andThen (t : Traced α) (f : α → Traced β) : Traced β :=
  match t.result with
  | .error e => { result := .error e, records := t.records, calls := t.calls }
  | .ok a =>
    let u := f a
    { result := u.result, records := t.records ++ u.records, calls := t.calls ++ u.calls }

instance : Monad Traced where
  pure := ok
  bind := andThen

def lift (e : Except Failure α) : Traced α := { result := e }

def log (r : Logging.Record) : Traced Unit := { result := .ok (), records := [r] }

def call (c : PluginCall) : Traced Unit := { result := .ok (), calls := [c] }

def mapFailure (f : Failure → Failure) (t : Traced α) : Traced α :=
  { t with result := t.result.mapError f }

theorem result_bind (t : Traced α) (f : α → Traced β) :
    (t >>= f).result = t.result.bind fun a => (f a).result := by
  show (andThen t f).result = _
  unfold andThen Except.bind
  cases t.result <;> rfl

end Traced
end ClusterAccess
