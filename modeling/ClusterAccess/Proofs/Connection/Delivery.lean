import ClusterAccess.Proofs.Connection.Material
import ClusterAccess.Proofs.Connection.Readiness

/-!
# What a build delivers

As long as nobody writes into its files, a session delivers the material of a profile with the
profile's configuration, whatever was built or removed before (`Undisturbed.backs`). A build fails
only over a certificate or a key, if the authorities have bytes (`build_error`).
-/

namespace ClusterAccess.Connection

open KeyStore

/-- A build that fails does so over the certificate or, if that can be decoded, over the key. -/
theorem build_error {store : KeyStore} {p : Profile} {e : Failure}
    (h : (build store p).2 = .error e) (encodes : Encodes p.trust) :
    ∃ certificate privateKey, p.credentials = .pem certificate privateKey ∧
      (decodeMaterial certificate = .error e ∨
        ∃ bytes, decodeMaterial certificate = .ok bytes ∧
          decodeMaterial privateKey = .error e) := by
  have finishes (store : KeyStore) (c : Configuration)
      (failed : (addAuthorities store c p.trust).2 = .error e) : False := by
    obtain ⟨c', ended⟩ := addAuthorities_succeeds store c encodes
    rw [ended] at failed
    cases failed
  unfold build at h
  cases kind : p.credentials with
  | header value =>
    rw [kind] at h
    exact (finishes _ _ h).elim
  | pem certificate privateKey =>
    refine ⟨certificate, privateKey, rfl, ?_⟩
    rw [kind] at h
    dsimp only [addCredentials] at h
    cases first : decodeMaterial certificate with
    | error e' =>
      rw [first] at h
      obtain rfl := Except.error.inj h
      exact .inl rfl
    | ok bytes =>
      rw [first] at h
      dsimp only [keep] at h
      cases second : decodeMaterial privateKey with
      | error e' =>
        rw [second] at h
        obtain rfl := Except.error.inj h
        exact .inr ⟨bytes, rfl, rfl⟩
      | ok bytes' =>
        rw [second] at h
        exact (finishes _ _ h).elim

namespace Session

/-- A session that starts without a folder and builds a profile in the end. Nobody writes into its
files, and no two of the contents that it is asked to store have the same digest. -/
structure Undisturbed (s : Session) (actions : List Action) (p : Profile) : Prop where
  fresh : s.store.folder = none
  untouched : ∀ a ∈ actions, a.overwrites = false
  free : CollisionFree ((actions ++ [Action.build p]).flatMap Action.pieces)

variable {s : Session} {actions : List Action} {p : Profile} {c : Configuration}

theorem Undisturbed.holds (h : s.Undisturbed actions p) :
    (s.run actions).store.Holds ((actions ++ [Action.build p]).flatMap Action.pieces) := by
  have nothing : s.store.Holds ((actions ++ [Action.build p]).flatMap Action.pieces) := by
    intro f stored
    unfold KeyStore.files at stored
    rw [h.fresh] at stored
    cases stored
  refine run_holds nothing h.untouched ?_
  rw [List.flatMap_append]
  exact List.subset_append_left _ _

/-- The configuration that a profile has in one store is built in any session, and its files are
there. -/
theorem Undisturbed.backs {store : KeyStore} (h : s.Undisturbed actions p)
    (built : (Connection.build store p).2 = .ok c) :
    (s.run actions).Builds p c (.build p) ∧
      Backs (s.run (actions ++ [Action.build p])).store p c := by
  have result : (Connection.build (s.run actions).store p).2 = .ok c := by
    rw [build_result, ← build_result store]
    exact built
  have builds : (s.run actions).Builds p c (.build p) := by
    refine .build ?_
    rw [step_build, result]
    rfl
  have among : (Action.build p).pieces ⊆ (actions ++ [Action.build p]).flatMap Action.pieces := by
    intro piece member
    exact List.mem_flatMap.mpr ⟨.build p, by simp, member⟩
  refine ⟨builds, ?_⟩
  rw [run_append]
  refine backs_of_contains result fun piece member => ?_
  exact contains_after h.holds h.free builds among (by simp) (by simp) member

end Session
end ClusterAccess.Connection
