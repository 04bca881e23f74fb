import ClusterAccess.Proofs.Connection.KeyStore
import ClusterAccess.Proofs.Trace

/-!
# Key material over a session

A session that starts without a folder keeps its files sound: each is private and named by its own
contents. What a configuration refers to is there and stays there until files are removed, and
building the same profile again meanwhile changes nothing (`session_keeps_material`).
-/

namespace ClusterAccess.Connection

open KeyStore

/-- A reference to a file that holds some contents and that only the owner may read. -/
def Reaches (store : KeyStore) (reference : Option FileReference) (contents : List UInt8) : Prop :=
  ∃ f, reference = some (.stored f.name) ∧ store.find? f.name = some f ∧
    f.mode = ownerOnly ∧ f.contents = contents

/-- The files of a configuration are there. They hold the bytes that the certificate and the key of
its profile stand for, and the UTF-8 of its authorities. -/
structure Backs (store : KeyStore) (p : Profile) (c : Configuration) : Prop where
  header : ∀ value, p.credentials = .header value → c.certificate = none ∧ c.privateKey = none
  pem : ∀ certificate privateKey, p.credentials = .pem certificate privateKey →
    ∃ first second, StandsFor certificate first ∧ StandsFor privateKey second ∧
      Reaches store c.certificate first ∧ Reaches store c.privateKey second
  authorities : ∀ text, p.trust = some (.contents text) →
    Text.Utf8.surrogates? (fun _ => true) text.toList = none ∧
      Reaches store c.authorities (Text.Utf8.ofString text)

namespace Action

def pieces : Action → List Piece
  | .build p => Connection.pieces p
  | .connect p => if 1 < p.groups.length then [] else Connection.pieces p
  | _ => []

def removes : Action → Bool
  | .cleanup => true
  | .removeFiles => true
  | _ => false

/-- An action that writes into files behind the store's back. -/
def overwrites : Action → Bool
  | .overwriteFiles _ => true
  | _ => false

end Action

namespace Session

/-- An action builds the configuration of a profile, alone or for a client. -/
inductive Builds (s : Session) (p : Profile) (c : Configuration) : Action → Prop
  | build : (s.step (.build p)).2.result = .ok (.configuration c) → Builds s p c (.build p)
  | connect {client : Client} : (s.step (.connect p)).2.result = .ok (.client client) →
    client.configuration = c → Builds s p c (.connect p)

/-! ### One step -/

theorem step_build (s : Session) (p : Profile) :
    s.step (.build p) = ({ s with store := (build s.store p).1 },
      Traced.lift ((build s.store p).2.map Reply.configuration)) := rfl

theorem step_connect (s : Session) (p : Profile) :
    s.step (.connect p) = ({ s with store := (connect s.store p).1 },
      (connect s.store p).2.andThen fun c => Traced.ok (.client c)) := rfl

theorem connect_store (store : KeyStore) (p : Profile) :
    (connect store p).1 = store.putAll (Action.connect p).pieces := by
  dsimp only [Action.pieces]
  unfold connect
  split
  · rfl
  · rw [← build_store]
    split
    · rename_i built
      rw [built]
    · rename_i built
      rw [built]

theorem connect_ok {store : KeyStore} {p : Profile} {client : Client}
    (h : (connect store p).2.result = .ok client) :
    (build store p).2 = .ok client.configuration ∧ ¬ 1 < p.groups.length := by
  unfold connect at h
  split at h
  · cases h
  · rename_i single
    split at h
    · cases h
    · rename_i store' c built
      rw [built]
      obtain ⟨_, _, h⟩ := Traced.result_bind_ok.mp h
      rw [← Except.ok.inj h]
      exact ⟨rfl, single⟩

theorem step_store (s : Session) {a : Action} (keeps : a.removes = false)
    (untouched : a.overwrites = false) : (s.step a).1.store = s.store.putAll a.pieces := by
  cases a with
  | build p =>
    rw [step_build]
    exact build_store s.store p
  | connect p =>
    rw [step_connect]
    exact connect_store s.store p
  | construct fields => rfl
  | impersonate x user groups => rfl
  | trustAnyone x => rfl
  | cleanup => cases keeps
  | removeFiles => cases keeps
  | overwriteFiles contents => cases untouched

theorem step_holds {s : Session} {asked : List Piece} (holds : s.store.Holds asked) {a : Action}
    (untouched : a.overwrites = false) (among : a.pieces ⊆ asked) :
    (s.step a).1.store.Holds asked := by
  cases keeps : a.removes with
  | false =>
    rw [step_store s keeps untouched]
    exact putAll_holds holds among
  | true =>
    cases a with
    | cleanup => exact fun f stored => absurd stored List.not_mem_nil
    | removeFiles =>
      intro f stored
      change f ∈ (s.store.folder.map fun _ => []).getD [] at stored
      cases folder : s.store.folder with
      | none => rw [folder] at stored; cases stored
      | some files => rw [folder] at stored; cases stored
    | _ => cases keeps

theorem step_contains {s : Session} {piece : Piece} (contains : s.store.Contains piece)
    {a : Action} (keeps : a.removes = false) (untouched : a.overwrites = false) :
    (s.step a).1.store.Contains piece := by
  rw [step_store s keeps untouched]
  exact contains.putAll a.pieces

/-! ### Whole runs -/

theorem run_append (s : Session) (before after : List Action) :
    s.run (before ++ after) = (s.run before).run after :=
  List.foldl_append ..

theorem run_holds {s : Session} {asked : List Piece} {actions : List Action}
    (holds : s.store.Holds asked) (untouched : ∀ a ∈ actions, a.overwrites = false)
    (among : actions.flatMap Action.pieces ⊆ asked) : (s.run actions).store.Holds asked := by
  induction actions generalizing s with
  | nil => exact holds
  | cons a rest ih =>
    obtain ⟨first, others⟩ := List.forall_mem_cons.mp untouched
    rw [List.flatMap_cons] at among
    obtain ⟨firstAmong, othersAmong⟩ := List.append_subset.mp among
    exact ih (step_holds holds first firstAmong) others othersAmong

theorem run_contains {s : Session} {piece : Piece} {actions : List Action}
    (contains : s.store.Contains piece) (keeps : ∀ a ∈ actions, a.removes = false)
    (untouched : ∀ a ∈ actions, a.overwrites = false) : (s.run actions).store.Contains piece := by
  induction actions generalizing s with
  | nil => exact contains
  | cons a rest ih =>
    obtain ⟨firstKeeps, othersKeep⟩ := List.forall_mem_cons.mp keeps
    obtain ⟨first, others⟩ := List.forall_mem_cons.mp untouched
    exact ih (step_contains contains firstKeeps first) othersKeep others

/-! ### Builds -/

theorem Builds.built {s : Session} {p : Profile} {c : Configuration} {a : Action}
    (h : s.Builds p c a) :
    (Connection.build s.store p).2 = .ok c ∧ a.pieces = Connection.pieces p := by
  cases h with
  | build ended =>
    rw [step_build] at ended
    refine ⟨?_, rfl⟩
    cases built : (Connection.build s.store p).2 with
    | error e =>
      rw [built] at ended
      cases ended
    | ok c' =>
      rw [built] at ended
      rw [Reply.configuration.inj (Except.ok.inj ended)]
  | connect ended same =>
    rw [step_connect] at ended
    obtain ⟨client, made, ended⟩ := Traced.result_bind_ok.mp ended
    obtain ⟨built, single⟩ := connect_ok made
    refine ⟨?_, ?_⟩
    · rw [built, ← same, Reply.client.inj (Except.ok.inj ended)]
    · dsimp only [Action.pieces]
      rw [if_neg single]

theorem Builds.plain {s : Session} {p : Profile} {c : Configuration} {a : Action}
    (h : s.Builds p c a) : a.removes = false ∧ a.overwrites = false := by
  cases h <;> exact ⟨rfl, rfl⟩

theorem reaches {store : KeyStore} {reference : Option FileReference} {piece : Piece}
    (refers : Refers reference piece) (contains : store.Contains piece) :
    Reaches store reference piece.2 :=
  ⟨fileFor piece, refers, contains, rfl, rfl⟩

theorem trustPieces_subset {p : Profile} {c : Configuration}
    (h : HasCredentials c p.credentials) : trustPieces p.trust ⊆ Connection.pieces p := by
  cases kind : p.credentials with
  | header value =>
    unfold Connection.pieces
    rw [kind]
    exact List.Subset.refl _
  | pem certificate privateKey =>
    rw [kind] at h
    obtain ⟨_, first, second, certified, keyed, _, _⟩ := h
    rw [pieces_pem kind certified keyed]
    exact fun piece member => List.mem_cons_of_mem _ (List.mem_cons_of_mem _ member)

theorem mem_trustPieces {text : String} {bytes : List UInt8}
    (written : Failure.bytesOf text = .ok bytes) :
    (.certificate, bytes) ∈ trustPieces (some (.contents text)) := by
  unfold trustPieces
  dsimp only
  rw [written]
  exact List.mem_singleton_self _

/-- A store with all pieces of a profile backs every configuration that is built for it. -/
theorem backs_of_contains {store before : KeyStore} {p : Profile} {c : Configuration}
    (built : (Connection.build before p).2 = .ok c)
    (contains : ∀ piece ∈ Connection.pieces p, store.Contains piece) : Backs store p c := by
  obtain ⟨_, _, credentials, trust⟩ := build_ok built
  refine ⟨fun value header => ?_, fun certificate privateKey pem => ?_, fun text given => ?_⟩
  · rw [header] at credentials
    exact credentials.2
  · rw [pem] at credentials
    obtain ⟨_, first, second, certified, keyed, refersFirst, refersSecond⟩ := credentials
    have all := pieces_pem pem certified keyed
    refine ⟨first, second, certified, keyed, reaches refersFirst (contains _ ?_),
      reaches refersSecond (contains _ ?_)⟩
    · rw [all]
      exact List.mem_cons_self
    · rw [all]
      exact List.mem_cons_of_mem _ List.mem_cons_self
  · have among := trustPieces_subset credentials
    rw [given] at trust among
    obtain ⟨bytes, written, refers⟩ := trust
    have stored := reaches refers (contains _ (among (mem_trustPieces written)))
    obtain rfl := bytesOf_eq written
    exact ⟨bytesOf_ok_iff.mp ⟨_, written⟩, stored⟩

/-- After a profile was built, building it again gives the same and leaves the store alone. -/
structure BuildsAgain (s : Session) (p : Profile) (c : Configuration) : Prop where
  succeeds : s.Builds p c (.build p)
  same : ∀ b c', s.Builds p c' b → c' = c
  unchanged : ∀ b, b = .build p ∨ b = .connect p → (s.step b).1.store = s.store

theorem buildsAgain {s : Session} {before : KeyStore} {p : Profile} {c : Configuration}
    (built : (Connection.build before p).2 = .ok c)
    (contains : ∀ piece ∈ Connection.pieces p, s.store.Contains piece) : s.BuildsAgain p c := by
  have result : (Connection.build s.store p).2 = .ok c := by
    rw [build_result, ← build_result before]
    exact built
  refine ⟨.build ?_, fun b c' again => ?_, fun b builds => ?_⟩
  · rw [step_build, result]
    rfl
  · have same := again.built.1
    rw [result] at same
    exact (Except.ok.inj same).symm
  · rcases builds with rfl | rfl
    · rw [step_store s rfl rfl]
      exact putAll_of_contains contains
    · rw [step_store s rfl rfl]
      refine putAll_of_contains fun piece member => contains piece ?_
      dsimp only [Action.pieces] at member
      split at member
      · cases member
      · exact member

/-- What a build stored is there until files are removed. -/
theorem contains_after {s : Session} {asked : List Piece} {p : Profile} {c : Configuration}
    {a : Action} {between : List Action} (holds : s.store.Holds asked) (free : CollisionFree asked)
    (builds : s.Builds p c a) (among : a.pieces ⊆ asked)
    (keeps : ∀ b ∈ between, b.removes = false) (untouched : ∀ b ∈ between, b.overwrites = false)
    {piece : Piece} (member : piece ∈ Connection.pieces p) :
    (s.run (a :: between)).store.Contains piece := by
  obtain ⟨_, asks⟩ := builds.built
  obtain ⟨stays, plain⟩ := builds.plain
  have stored : (s.step a).1.store.Contains piece := by
    rw [step_store s stays plain]
    exact putAll_contains free holds among (asks ▸ member)
  have later : ((s.step a).1.run between).store.Contains piece :=
    run_contains stored keeps untouched
  exact later

/-- The store of a session that starts without a folder, if no two of the contents that it is asked
to store have the same digest. -/
theorem session_keeps_material {s : Session} {actions : List Action}
    (fresh : s.store.folder = none) (untouched : ∀ a ∈ actions, a.overwrites = false)
    (free : CollisionFree (actions.flatMap Action.pieces)) :
    (∀ before after, actions = before ++ after → ∀ f ∈ (s.run before).store.files,
      f.mode = 0o600 ∧ ∃ kind : Material, f.name = Digest.sha256Hex f.contents ++ kind.suffix) ∧
    (∀ before a between after p c, actions = before ++ a :: (between ++ after) →
      (s.run before).Builds p c a → (∀ b ∈ between, b.removes = false) →
      Backs (s.run (before ++ a :: between)).store p c ∧
        (s.run (before ++ a :: between)).BuildsAgain p c) ∧
    (∀ before after, actions = before ++ .cleanup :: after →
      (s.run (before ++ [.cleanup])).store.folder = none) := by
  -- The invariant: every file is the one for a piece that was asked for.
  have nothing : s.store.Holds (actions.flatMap Action.pieces) := by
    intro f stored
    unfold KeyStore.files at stored
    rw [fresh] at stored
    cases stored
  have sound {before after : List Action} (split : actions = before ++ after) :
      (s.run before).store.Holds (actions.flatMap Action.pieces) := by
    refine run_holds nothing (fun a member => untouched a ?_) ?_
    · rw [split]
      exact List.mem_append_left _ member
    · rw [split, List.flatMap_append]
      exact List.subset_append_left _ _
  refine ⟨fun before after split f stored => ?_,
    fun before a between after p c split builds keeps => ?_, fun before after _ => ?_⟩
  · obtain ⟨piece, _, rfl⟩ := sound split f stored
    exact ⟨rfl, piece.1, rfl⟩
  · have among : a.pieces ⊆ actions.flatMap Action.pieces := by
      rw [split, List.flatMap_append, List.flatMap_cons]
      exact fun piece member => List.mem_append_right _ (List.mem_append_left _ member)
    have plain : ∀ b ∈ between, b.overwrites = false := by
      intro b later
      refine untouched b ?_
      rw [split]
      exact List.mem_append_right _ (List.mem_cons_of_mem _ (List.mem_append_left _ later))
    rw [run_append]
    have contains (piece : Piece) (member : piece ∈ Connection.pieces p) :=
      contains_after (sound split) free builds among keeps plain member
    exact ⟨backs_of_contains builds.built.1 contains, buildsAgain builds.built.1 contains⟩
  · rw [run_append]
    rfl

/-- A profile whose certificate, key and authorities are single letters. -/
def pemProfile : Profile :=
  { endpoint := "https://h", credentials := .pem "YQ==" "Yg==", trust := some (.contents "c"),
    userAgent := "ua", verify := true, impersonate := .null, groups := [] }

def pemActions : List Action :=
  [.build pemProfile, .trustAnyone (Finished.ofValue pemProfile), .connect pemProfile, .cleanup,
    .build pemProfile]

/-- The files of a configuration hold the three letters. -/
structure HoldsLetters (store : KeyStore) (c : Configuration) : Prop where
  certificate : Reaches store c.certificate [0x61]
  privateKey : Reaches store c.privateKey [0x62]
  authorities : Reaches store c.authorities [0x63]

theorem holdsLetters {store : KeyStore} {c : Configuration} (backs : Backs store pemProfile c) :
    HoldsLetters store c := by
  have stands : StandsFor "YQ==" [0x61] := ⟨by simp, rfl⟩
  have stands' : StandsFor "Yg==" [0x62] := ⟨by simp, rfl⟩
  obtain ⟨first, second, certified, keyed, reaches, reaches'⟩ := backs.pem _ _ rfl
  obtain rfl := stands.unique certified
  obtain rfl := stands'.unique keyed
  exact ⟨reaches, reaches', (backs.authorities "c" rfl).2⟩

theorem pem_session_keeps_material :
    let s : Session := {}
    ∃ c, Backs (s.run (pemActions.take 3)).store pemProfile c ∧
      HoldsLetters (s.run (pemActions.take 3)).store c ∧
      (s.run (pemActions.take 3)).BuildsAgain pemProfile c ∧
      (s.run (pemActions.take 4)).store.folder = none ∧
      Backs (s.run pemActions).store pemProfile c ∧ HoldsLetters (s.run pemActions).store c := by
  intro s
  have free : CollisionFree (pemActions.flatMap Action.pieces) := by
    unfold CollisionFree
    decide +kernel
  have plain : ∀ a ∈ pemActions, a.overwrites = false := by decide
  have succeeds : (Connection.build {} pemProfile).2.isOk = true := by decide +kernel
  cases built : (Connection.build {} pemProfile).2 with
  | error e =>
    rw [built] at succeeds
    cases succeeds
  | ok c =>
    have builds (t : Session) : t.Builds pemProfile c (.build pemProfile) := by
      refine .build ?_
      rw [step_build, build_result, built]
      rfl
    obtain ⟨_, keeps, cleaned⟩ := session_keeps_material (s := s) rfl plain free
    obtain ⟨backs, again⟩ := keeps [] _ [.trustAnyone (.ofValue pemProfile), .connect pemProfile]
      [.cleanup, .build pemProfile] _ _ rfl (builds _) (by decide)
    obtain ⟨later, _⟩ := keeps (pemActions.take 4) _ [] [] _ _ rfl (builds _) (by decide)
    exact ⟨c, backs, holdsLetters backs, again,
      cleaned (pemActions.take 3) [.build pemProfile] rfl, later, holdsLetters later⟩

end Session
end ClusterAccess.Connection
