import ClusterAccess.Proofs.Resolution.BlankFiles
import ClusterAccess.Proofs.Resolution.Discovery
import ClusterAccess.Proofs.Resolution.Rejections

/-!
# Where faults are located

The steps of a resolution raise faults that name no file and no context. A resolution ends in a
fault exactly if a step rejects something, and then adds the path of the document, and the context
once it is selected, each in one place (`faults_located`).
-/

namespace ClusterAccess.Kubeconfig

/-- What is rejected about the parts of a profile, in the order in which they are read. -/
inductive PartsRejected (w : World) (base : FilePath) (cluster user : Entries)
    (groups : List Value) (name userAgent : Value) : Rejection → Prop
  | authorities {r : Rejection} : AuthoritiesRejected cluster r →
    PartsRejected w base cluster user groups name userAgent r
  | credentials {trust : Option TrustSource} {r : Rejection} :
    Kubeconfig.authorities w cluster base = .ok trust → CredentialsRejected w user base r →
    PartsRejected w base cluster user groups name userAgent r
  | values {trust : Option TrustSource} {creds : Credentials} {method : AuthMethod}
    {issues : List Issue} : Kubeconfig.authorities w cluster base = .ok trust →
    (Kubeconfig.credentials w user name base).result = .ok (creds, method) →
    profile (Value.field cluster "server") creds trust userAgent user groups =
      .error (.invalid issues) →
    PartsRejected w base cluster user groups name userAgent (.invalid issues)

inductive EntriesRejected (w : World) (base : FilePath) (clusterName : Value) (cluster : Entries)
    (userName : Value) (user : Entries) (name userAgent : Value) : Rejection → Prop
  | server : (Value.field cluster "server").truthy = false → clusterName.isShowable = true →
    EntriesRejected w base clusterName cluster userName user name userAgent
      (.noServer clusterName.display)
  | groups : (Value.field cluster "server").truthy = true →
    (∀ xs, ((Value.field user "as-groups").orElse (.list [])).untied ≠ .list xs) →
    userName.isShowable = true →
    EntriesRejected w base clusterName cluster userName user name userAgent
      (.groupsNotAList userName.display)
  | parts {groups : List Value} {r : Rejection} :
    (Value.field cluster "server").truthy = true → actingGroups user userName = .ok groups →
    PartsRejected w base cluster user groups name userAgent r →
    EntriesRejected w base clusterName cluster userName user name userAgent r

inductive ContextRejected (w : World) (d : Document) (selected : Entries)
    (name userAgent : Value) : Rejection → Prop
  | cluster {r : Rejection} :
    ReferenceRejected d.entries selected "clusters" "cluster" "Cluster" r →
    ContextRejected w d selected name userAgent r
  | user {found : Value × Entries} {r : Rejection} :
    referenced d.entries selected "clusters" "cluster" "Cluster" = .ok found →
    ReferenceRejected d.entries selected "users" "user" "User" r →
    ContextRejected w d selected name userAgent r
  | entries {clusterName userName : Value} {cluster user : Entries} {r : Rejection} :
    referenced d.entries selected "clusters" "cluster" "Cluster" = .ok (clusterName, cluster) →
    referenced d.entries selected "users" "user" "User" = .ok (userName, user) →
    EntriesRejected w d.path.parent clusterName cluster userName user name userAgent r →
    ContextRejected w d selected name userAgent r

/-- What is rejected while no context is selected. -/
inductive SelectionRejected (d : Document) (context : Value) : Rejection → Prop
  | unnamed : (contextName d context).truthy = false → SelectionRejected d context .noContext
  | contexts {r : Rejection} : (contextName d context).truthy = true →
    SectionRejected d.entries "contexts" "context" (contextName d context) r →
    SelectionRejected d context r
  | unknown : (contextName d context).truthy = true →
    find d.entries "contexts" "context" (contextName d context) = .ok none →
    (contextName d context).isShowable = true →
    SelectionRejected d context (.notFound "Context" (contextName d context).display)

/-- What a resolution rejects, and the context that its fault names. -/
inductive Rejected (w : World) (d : Document) (context userAgent : Value) :
    Value → Rejection → Prop
  | selecting {r : Rejection} : SelectionRejected d context r →
    Rejected w d context userAgent .null r
  | selected {selected : Entries} {r : Rejection} : (contextName d context).truthy = true →
    find d.entries "contexts" "context" (contextName d context) = .ok (some selected) →
    ContextRejected w d selected (contextName d context) userAgent r →
    (contextName d context).isShowable = true →
    Rejected w d context userAgent (contextName d context) r

/-- A fault with the path of a document, and a context or null. -/
def Rejection.located (r : Rejection) (path : FilePath) (place : Value) : Fault :=
  FaultOf.kubeconfig (.str r.message) (.str path.text) place .null r.cause

/-- The text of a context at the end of a message. -/
def contextNote (place : Value) : String :=
  if place.truthy then " (context: " ++ place.display ++ ")" else ""

/-- A fault says what was rejected and of what cause, and names the path and the context once. -/
structure Located (f : Fault) (r : Rejection) (path : FilePath) (place : Value) : Prop where
  rank : f.rank = .kubeconfig
  text : f.text = r.message ++ contextNote place ++ " [" ++ path.text ++ "]" ++
    "\nAction required: " ++ FaultOf.kubeconfigAdvice
  path : f.path = .str path.text
  context : f.context = place
  cause : f.cause = r.cause
  category : f.category = .str "kubeconfig"
  retryable : f.retryable = .bool false
  permanent : f.isTemporary = false
  advice : f.userAction = .str FaultOf.kubeconfigAdvice

/-! ### Locating -/

section Locating

variable {r : Rejection} {path : FilePath} {place name : Value}

theorem located_text (named : path.text ≠ "") :
    (r.located path place).text = r.message ++ contextNote place ++ " [" ++ path.text ++ "]" ++
      "\nAction required: " ++ FaultOf.kubeconfigAdvice := by
  have noted : (FaultOf.annotate (.str r.message) " (context: " place ")") =
      .str (r.message ++ contextNote place) := by
    unfold FaultOf.annotate contextNote
    split
    · simp only [Value.display, String.append_assoc]
    · rw [String.append_empty]
  have pathed (m : String) : (FaultOf.annotate (.str m) " [" (.str path.text) "]") =
      .str (m ++ " [" ++ path.text ++ "]") := by
    unfold FaultOf.annotate
    rw [if_pos (by simpa [Value.truthy] using named)]
    rfl
  have message : (r.located path place).message =
      .str (r.message ++ contextNote place ++ " [" ++ path.text ++ "]") := by
    unfold Rejection.located FaultOf.kubeconfig
    dsimp only
    rw [noted, pathed]
  have advised : (r.located path place).userAction = .str FaultOf.kubeconfigAdvice := rfl
  unfold FaultOf.text
  rw [advised, message]
  rfl

theorem located_located (named : path.text ≠ "") : Located (r.located path place) r path place :=
  ⟨rfl, located_text named, rfl, rfl, rfl, rfl, rfl, rfl, rfl⟩

theorem SectionRejected.cause {document : Entries} {sectionName itemKey : String}
    (h : SectionRejected document sectionName itemKey name r) : r.cause = none := by
  cases h <;> rfl

/-- While a context is selected, only the path is added; there is no cause to keep. -/
theorem withPath_fault (r : Rejection) (none : r.cause = none) :
    withPath path r.fault = .fault (r.located path .null) := by
  unfold withPath Rejection.fault Failure.kubeconfig Rejection.located
  rw [none]
  rfl

theorem situate_fault (r : Rejection) (shows : name.isShowable = true) :
    situate path name r.fault = .fault (r.located path name) := by
  unfold situate Rejection.fault Failure.kubeconfig Rejection.located
  dsimp only
  rw [textOf_ok.mpr ⟨shows, rfl⟩]
  rfl

theorem situate_unshowable (r : Rejection) (unwritable : name.isShowable = false) :
    situate path name r.fault = tooLong := by
  unfold situate Rejection.fault Failure.kubeconfig
  dsimp only
  rw [textOf_error.mpr ⟨unwritable, rfl⟩]

theorem withPath_stray (path : FilePath) (e : Failure) (stray : e.isFaultOrInvalid = false) :
    withPath path e = e := by
  cases e <;> first | rfl | cases stray

theorem situate_stray (path : FilePath) (name : Value) (e : Failure)
    (stray : e.isFaultOrInvalid = false) : situate path name e = e := by
  cases e <;> first | rfl | cases stray

end Locating

/-! ### The steps of a context -/

section Steps

variable {w : World} {d : Document} {selected cluster user : Entries}
  {context name userAgent userName clusterName : Value} {groups : List Value} {e : Failure}

theorem actingGroups_rejects : Rejects (actingGroups user userName) e ↔
    (∀ xs, ((Value.field user "as-groups").orElse (.list [])).untied ≠ .list xs) ∧
      userName.isShowable = true ∧
      e = (Rejection.groupsNotAList userName.display).fault := by
  unfold actingGroups
  split
  · rename_i xs listed
    exact iff_of_false (not_strays_ok _ _) fun h => h.1 xs listed
  · rename_i unlisted
    exact (rejects_told fun _ => rfl).trans ⟨fun h => ⟨unlisted, h⟩, fun h => h.2⟩

theorem assembled_rejects : Rejects (assembled w d cluster user name userAgent groups).result e ↔
    ∃ r, PartsRejected w d.path.parent cluster user groups name userAgent r ∧ e = r.raised := by
  unfold assembled
  constructor
  · intro rejected
    rcases Traced.strays_bind.mp rejected with rejected | ⟨trust, trusted, rejected⟩
    · obtain ⟨r, refused, rfl⟩ := authorities_rejects.mp rejected
      exact ⟨r, .authorities refused, rfl⟩
    · rcases Traced.strays_bind.mp rejected with rejected | ⟨⟨creds, method⟩, found, rejected⟩
      · obtain ⟨r, refused, rfl⟩ := credentials_rejects.mp rejected
        exact ⟨r, .credentials trusted refused, rfl⟩
      · obtain ⟨failed, _⟩ := Traced.strays_bind_pure.mp rejected
        obtain ⟨issues, rfl⟩ := profile_error failed
        exact ⟨_, .values trusted found failed, rfl⟩
  · rintro ⟨r, rejected, rfl⟩
    cases rejected with
    | authorities rejected =>
      exact Traced.strays_bind.mpr (.inl (authorities_rejects.mpr ⟨r, rejected, rfl⟩))
    | credentials trusted rejected =>
      refine Traced.strays_bind.mpr (.inr ⟨_, trusted, Traced.strays_bind.mpr (.inl ?_)⟩)
      exact credentials_rejects.mpr ⟨r, rejected, rfl⟩
    | values trusted found failed =>
      refine Traced.strays_bind.mpr (.inr ⟨_, trusted, Traced.strays_bind.mpr (.inr ?_)⟩)
      exact ⟨_, found, Traced.strays_bind_pure.mpr ⟨failed, rfl⟩⟩

theorem invalidValues_stray (e : Failure) (stray : e.isFaultOrInvalid = false) :
    invalidValues e = e := by
  cases e <;> first | rfl | cases stray

/-- Values that are refused count as a fault from here on. -/
theorem invalidValues_rejects :
    Rejects ((assembled w d cluster user name userAgent groups).mapFailure invalidValues).result e ↔
      ∃ r, PartsRejected w d.path.parent cluster user groups name userAgent r ∧ e = r.fault := by
  rw [Traced.result_mapFailure]
  constructor
  · intro rejected
    obtain ⟨e', unmapped, rfl⟩ := rejects_mapError invalidValues_stray rejected
    obtain ⟨r, refused, rfl⟩ := assembled_rejects.mp unmapped
    exact ⟨r, refused, r.invalidValues_raised⟩
  · rintro ⟨r, rejected, rfl⟩
    obtain ⟨ended, _⟩ := assembled_rejects.mpr ⟨r, rejected, rfl⟩
    rw [ended]
    exact ⟨congrArg Except.error r.invalidValues_raised, rfl⟩

theorem resolveFound_rejects :
    Rejects (resolveFound w d clusterName cluster userName user name userAgent).result e ↔
      ∃ r, EntriesRejected w d.path.parent clusterName cluster userName user name userAgent r ∧
        e = r.fault := by
  unfold resolveFound
  constructor
  · intro rejected
    split at rejected
    · rename_i noServer
      rw [Traced.result_bind] at rejected
      obtain ⟨shows, rfl⟩ := (rejects_told fun _ => rfl).mp rejected
      exact ⟨_, .server (by simpa using noServer) shows, rfl⟩
    · rename_i server
      replace server : (Value.field cluster "server").truthy = true := by simpa using server
      rcases Traced.strays_bind.mp rejected with rejected | ⟨groups, read, rejected⟩
      · obtain ⟨unlisted, shows, rfl⟩ := actingGroups_rejects.mp rejected
        exact ⟨_, .groups server unlisted shows, rfl⟩
      · obtain ⟨r, refused, rfl⟩ := invalidValues_rejects.mp (verified_strays.mp rejected)
        exact ⟨r, .parts server read refused, rfl⟩
  · rintro ⟨r, rejected, rfl⟩
    cases rejected with
    | server noServer shows =>
      rw [noServer, Bool.not_false, if_pos rfl, Traced.result_bind]
      exact (rejects_told fun _ => rfl).mpr ⟨shows, rfl⟩
    | groups server unlisted shows =>
      rw [server, Bool.not_true, if_neg Bool.false_ne_true]
      exact Traced.strays_bind.mpr (.inl (actingGroups_rejects.mpr ⟨unlisted, shows, rfl⟩))
    | parts server read rejected =>
      rw [server, Bool.not_true, if_neg Bool.false_ne_true]
      refine Traced.strays_bind.mpr (.inr ⟨_, read, verified_strays.mpr ?_⟩)
      exact invalidValues_rejects.mpr ⟨r, rejected, rfl⟩

theorem resolveContext_rejects :
    Rejects (resolveContext w d selected name userAgent).result e ↔
      ∃ r, ContextRejected w d selected name userAgent r ∧ e = r.fault := by
  rw [resolveContext_eq]
  constructor
  · intro rejected
    rcases Traced.strays_bind.mp rejected with
      rejected | ⟨⟨clusterName, cluster⟩, foundCluster, rejected⟩
    · obtain ⟨r, refused, rfl⟩ := referenced_rejects.mp rejected
      exact ⟨r, .cluster refused, rfl⟩
    · rcases Traced.strays_bind.mp rejected with
        rejected | ⟨⟨userName, user⟩, foundUser, rejected⟩
      · obtain ⟨r, refused, rfl⟩ := referenced_rejects.mp rejected
        exact ⟨r, .user foundCluster refused, rfl⟩
      · obtain ⟨r, refused, rfl⟩ := resolveFound_rejects.mp rejected
        exact ⟨r, .entries foundCluster foundUser refused, rfl⟩
  · rintro ⟨r, rejected, rfl⟩
    cases rejected with
    | cluster rejected =>
      exact Traced.strays_bind.mpr (.inl (referenced_rejects.mpr ⟨r, rejected, rfl⟩))
    | user foundCluster rejected =>
      refine Traced.strays_bind.mpr (.inr ⟨_, foundCluster, Traced.strays_bind.mpr (.inl ?_)⟩)
      exact referenced_rejects.mpr ⟨r, rejected, rfl⟩
    | entries foundCluster foundUser rejected =>
      refine Traced.strays_bind.mpr (.inr ⟨_, foundCluster, Traced.strays_bind.mpr (.inr ?_)⟩)
      exact ⟨_, foundUser, resolveFound_rejects.mpr ⟨r, rejected, rfl⟩⟩

/-! ### Whole resolutions -/

theorem finish_rejects : Rejects (finish w d selected name userAgent).result e ↔
    ∃ r, ContextRejected w d selected name userAgent r ∧ name.isShowable = true ∧
      e = .fault (r.located d.path name) := by
  constructor
  · intro rejected
    rcases Traced.strays_bind.mp rejected with rejected | ⟨_, _, rejected⟩
    · obtain ⟨e', unsituated, rfl⟩ := rejects_mapError (situate_stray d.path name) rejected
      obtain ⟨r, refused, rfl⟩ := resolveContext_rejects.mp unsituated
      -- A context that cannot be written out turns every fault into a failure that is none.
      cases shows : name.isShowable with
      | true => exact ⟨r, refused, rfl, situate_fault r shows⟩
      | false =>
        rw [situate_unshowable r shows] at rejected
        cases rejected.2
    · rcases Traced.strays_bind.mp rejected with rejected | ⟨_, _, rejected⟩
      · exact (not_rejects_textOf rejected).elim
      · exact (not_strays_ok _ _ rejected).elim
  · rintro ⟨r, rejected, shows, rfl⟩
    obtain ⟨ended, _⟩ := resolveContext_rejects.mpr ⟨r, rejected, rfl⟩
    rw [finish_of_error ended, situate_fault r shows]
    exact (rejects_error rfl).mpr rfl

theorem selection_rejects : Rejects ((Traced.lift
      (find d.entries "contexts" "context" name)).mapFailure (withPath d.path)).result e ↔
    ∃ r, SectionRejected d.entries "contexts" "context" name r ∧
      e = .fault (r.located d.path .null) := by
  rw [Traced.result_mapFailure, Traced.result_lift]
  constructor
  · intro rejected
    obtain ⟨e', unplaced, rfl⟩ := rejects_mapError (withPath_stray d.path) rejected
    obtain ⟨r, refused, rfl⟩ := find_rejects.mp unplaced
    exact ⟨r, refused, withPath_fault r refused.cause⟩
  · rintro ⟨r, rejected, rfl⟩
    obtain ⟨ended, _⟩ := find_rejects.mpr ⟨r, rejected, rfl⟩
    rw [ended]
    exact ⟨congrArg Except.error (withPath_fault r rejected.cause), rfl⟩

theorem unknownContext_rejects : Rejects (unknownContext d name).result e ↔
    name.isShowable = true ∧
      e = .fault ((Rejection.notFound "Context" name.display).located d.path .null) := by
  unfold unknownContext
  rw [Traced.result_bind]
  exact rejects_told fun _ => rfl

theorem resolve_rejects : Rejects (resolve w d context userAgent).result e ↔
    ∃ place r, Rejected w d context userAgent place r ∧ e = .fault (r.located d.path place) := by
  rw [resolve_eq]
  constructor
  · intro rejected
    split at rejected
    · rename_i unnamed
      obtain rfl := (rejects_error rfl).mp rejected
      exact ⟨_, _, .selecting (.unnamed (by simpa using unnamed)), rfl⟩
    · rename_i named
      replace named : (contextName d context).truthy = true := by simpa using named
      rcases Traced.strays_bind.mp rejected with rejected | ⟨found, read, rejected⟩
      · obtain ⟨r, refused, rfl⟩ := selection_rejects.mp rejected
        exact ⟨_, r, .selecting (.contexts named refused), rfl⟩
      · have read := mapError_ok.mp read
        cases found with
        | none =>
          obtain ⟨shows, rfl⟩ := unknownContext_rejects.mp rejected
          exact ⟨_, _, .selecting (.unknown named read shows), rfl⟩
        | some selected =>
          obtain ⟨r, refused, shows, rfl⟩ := finish_rejects.mp rejected
          exact ⟨_, r, .selected named read refused shows, rfl⟩
  · rintro ⟨place, r, rejected, rfl⟩
    cases rejected with
    | selecting rejected =>
      cases rejected with
      | unnamed unnamed =>
        rw [unnamed, Bool.not_false, if_pos rfl]
        exact (rejects_error rfl).mpr rfl
      | contexts named rejected =>
        rw [named, Bool.not_true, if_neg Bool.false_ne_true]
        exact Traced.strays_bind.mpr (.inl (selection_rejects.mpr ⟨r, rejected, rfl⟩))
      | unknown named read shows =>
        rw [named, Bool.not_true, if_neg Bool.false_ne_true, read]
        exact unknownContext_rejects.mpr ⟨shows, rfl⟩
    | selected named read rejected shows =>
      rw [named, Bool.not_true, if_neg Bool.false_ne_true, read]
      exact finish_rejects.mpr ⟨r, rejected, shows, rfl⟩

/-- A fault names no context while one is selected, and the selected one from then on. -/
theorem Rejected.place_eq {place : Value} {r : Rejection}
    (h : Rejected w d context userAgent place r) :
    SelectionRejected d context r ∧ place = .null ∨
      (∃ selected, ContextRejected w d selected (contextName d context) userAgent r) ∧
        place = contextName d context ∧ place.truthy = true := by
  cases h with
  | selecting rejected => exact .inl ⟨rejected, rfl⟩
  | selected named _ rejected _ => exact .inr ⟨⟨_, rejected⟩, rfl, named⟩

/-- A resolution raises a fault exactly if it rejects something. The fault has the message and the
cause of what is rejected, the path of the document, and the context unless that is still to be
selected, once each. -/
theorem faults_located (named : d.path.text ≠ "") (f : Fault) :
    ((resolve w d context userAgent).result = .error (.fault f) ↔
      ∃ place r, Rejected w d context userAgent place r ∧ f = r.located d.path place) ∧
    ∀ place r, Rejected w d context userAgent place r →
      Located (r.located d.path place) r d.path place ∧
      (SelectionRejected d context r ∧ place = .null ∨
        (∃ selected, ContextRejected w d selected (contextName d context) userAgent r) ∧
          place = contextName d context ∧ place.truthy = true) := by
  refine ⟨?_, fun place r rejected => ⟨located_located named, rejected.place_eq⟩⟩
  have exactly : Rejects (resolve w d context userAgent).result (.fault f) ↔ _ := resolve_rejects
  constructor
  · intro failed
    obtain ⟨place, r, rejected, same⟩ := exactly.mp ⟨failed, rfl⟩
    exact ⟨place, r, rejected, Failure.fault.inj same⟩
  · rintro ⟨place, r, rejected, rfl⟩
    exact (exactly.mpr ⟨place, r, rejected, rfl⟩).1

/-- Credentials that are rejected end a resolution, if nothing before them does. -/
theorem Steps.Prepared.rejected {s : Steps} {r : Rejection} (h : s.Prepared w d context)
    (userAgent : Value) (shows : (contextName d context).isShowable = true)
    (rejected : CredentialsRejected w s.user d.path.parent r) :
    Rejected w d context userAgent (contextName d context) r :=
  .selected h.named h.found (.entries h.cluster h.user
    (.parts h.server h.groups (.credentials h.trust rejected))) shows

end Steps

/-- A user with a token file from the root. -/
def rootedTokenUser : Entries := [(.str "tokenFile", .str "/t")]

/-- Surroundings where the token file must not be read. -/
def deniedWorld : World := { files := [(["t"], .denied)] }

theorem rootedTokenUser_rejected :
    CredentialsRejected deniedWorld rootedTokenUser (Document.ofUser rootedTokenUser).path.parent
      (.unreadable ⟨"/", ["t"]⟩ ⟨.denied, "/t"⟩) := by
  have token : (Value.field rootedTokenUser "token").truthy = false := by cbv
  have plain : Text.Utf8.surrogates? (fun n => !Text.Utf16.isByteMark n)
      (FilePath.text ⟨"/", ["t"]⟩).toList = none := by cbv
  have terminated : World.hasNul ⟨"/", ["t"]⟩ = false := by cbv
  refine .method (m := .tokenFile) ⟨by cbv, fun higher above => ?_⟩
    (.tokenFile (.file (.unreadable (by cbv) (fun e unreadable => ?_) (by cbv))))
  · cases higher with
    | token => exact fun configured => Bool.noConfusion (token.symm.trans configured)
    | _ => exact absurd above (by decide)
  · cases unreadable with
    | surrogate found => cases plain.symm.trans found
    | null _ found => cases terminated.symm.trans found

theorem denied_token_file_located :
    ∃ f r, (resolve deniedWorld (.ofUser rootedTokenUser) .null (.str "ua")).result =
        .error (.fault f) ∧
      Located f r (FilePath.ofString "config") (.str "c") ∧
      f.cause = some (.file ⟨.denied, "/t"⟩) := by
  have named : (Document.ofUser rootedTokenUser).path.text ≠ "" := by decide +kernel
  have prepared :
      (userSteps rootedTokenUser).Prepared deniedWorld (.ofUser rootedTokenUser) .null :=
    ⟨by cbv, by cbv, by cbv, by cbv, by cbv, by cbv, by cbv⟩
  have selected : contextName (.ofUser rootedTokenUser) .null = .str "c" := by cbv
  have rejected := prepared.rejected (.str "ua") (by rw [selected]; rfl) rootedTokenUser_rejected
  rw [selected] at rejected
  obtain ⟨exactly, located⟩ := faults_located named _
  obtain ⟨faithful, _⟩ := located _ _ rejected
  exact ⟨_, _, exactly.mpr ⟨_, _, rejected, rfl⟩, faithful, rfl⟩

end ClusterAccess.Kubeconfig
