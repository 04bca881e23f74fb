import ClusterAccess.Connection.Configuration
import ClusterAccess.Profile.Derivation

/-!
# Sessions

A session holds the profiles made so far and the store for key material. Each action makes a
profile, builds a configuration or a client, or changes the store; a failed action makes no profile.
An attribute can be assigned to one of the profiles.
-/

namespace ClusterAccess.Connection

structure Session where
  profiles : List (Finished Profile) := []
  store : KeyStore := {}
  /-- The paths that the system chooses for the folder of the store, one each time it is made. -/
  folderPaths : List String := []
  deriving Repr

inductive Action
  | construct (fields : List (Value × Value))
  | impersonate (source : Finished Profile) (user groups : Value)
  | trustAnyone (source : Finished Profile)
  | build (source : Profile)
  | connect (source : Profile)
  | cleanup
  | removeFiles
  | overwriteFiles (contents : List UInt8)
  deriving Repr

inductive Reply
  | profile (p : Profile)
  | configuration (c : Configuration)
  | client (c : Client)
  | done
  deriving Repr

namespace Session

def assign (s : Session) (position : Nat) (name : String) (v : Value) :
    Session × Except Failure Unit :=
  match s.profiles[position]? with
  | none => (s, .ok ())
  | some x =>
    match x.assign name v with
    | .error e => (s, .error e)
    | .ok x => ({ s with profiles := s.profiles.set position x }, .ok ())

def extend (s : Session) (t : Traced (Finished Profile)) : Session × Traced Reply :=
  ({ s with
      profiles := match t.result with
        | .ok p => s.profiles ++ [p]
        | .error _ => s.profiles },
    t.andThen fun x => Traced.ok (.profile x.value))

/-- Remove the folder of the store, if there is one. -/
def cleanup (s : Session) : Session × Traced Reply :=
  let isThere := s.store.folder.isSome
  ({ s with
      store := s.store.cleanup
      folderPaths := if isThere then s.folderPaths.tail else s.folderPaths },
    do
      if isThere then Traced.log (KeyStore.removedRecord (s.folderPaths.headD ""))
      pure .done)

def step (s : Session) : Action → Session × Traced Reply
  | .construct fields =>
    let checked := (Profile.check fields).mapError Failure.invalid
    s.extend (Traced.lift (checked.map Finished.ofValue))
  | .impersonate x user groups => s.extend (Traced.lift (x.impersonating user groups))
  | .trustAnyone x => s.extend x.trustingAnyone
  | .build p =>
    let (store, result) := Connection.build s.store p
    ({ s with store := store }, Traced.lift (result.map Reply.configuration))
  | .connect p =>
    let (store, result) := Connection.connect s.store p
    ({ s with store := store }, result.andThen fun c => Traced.ok (.client c))
  | .cleanup => s.cleanup
  | .removeFiles => ({ s with store := s.store.removeFiles }, Traced.ok .done)
  | .overwriteFiles contents =>
    ({ s with store := s.store.overwrite contents }, Traced.ok .done)

def run (s : Session) (actions : List Action) : Session :=
  actions.foldl (fun s a => (s.step a).1) s

end Session
end ClusterAccess.Connection
