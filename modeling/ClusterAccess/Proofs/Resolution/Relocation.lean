import ClusterAccess.Proofs.EndAlike
import ClusterAccess.Proofs.Resolution.Readiness
import ClusterAccess.Proofs.Text.Surrogates

/-!
# Documents moved with their files

A document whose references are relative can be moved together with the folder that it stands in,
also to a place with other home directories. If what its references lead to is the same there, its
resolution ends alike, and only the path of a file with authorities tells the places apart
(`resolve_relocated`).
-/

namespace ClusterAccess

/-! ### Texts of joined paths -/

namespace FilePath

variable {q : Char → Bool} {base r : FilePath}

theorem any_intercalate (slash : q '/' = false) (parts : List String) :
    ("/".intercalate parts).toList.any q = parts.any fun part => part.toList.any q := by
  induction parts with
  | nil => rfl
  | cons part rest ih =>
    cases rest with
    | nil => rw [String.intercalate_singleton, List.any_cons, List.any_nil, Bool.or_false]
    | cons next more =>
      have single : "/".toList.any q = false := by simpa using slash
      rw [String.intercalate_cons_cons, String.toList_append, String.toList_append, List.any_append,
        List.any_append, single, Bool.or_false, ih]
      rfl

/-- A path holds such a character if its root or one of its names does. -/
theorem any_text (slash : q '/' = false) (dot : q '.' = false) (p : FilePath) :
    p.text.toList.any q = (p.root.toList.any q || p.parts.any fun part => part.toList.any q) := by
  unfold text
  split
  · rename_i empty
    rw [empty.1, empty.2]
    simpa using dot
  · rw [String.toList_append, List.any_append, any_intercalate slash]

theorem any_text_join (slash : q '/' = false) (dot : q '.' = false) (relative : r.root = "") :
    (base.join r).text.toList.any q =
      (base.text.toList.any q || r.parts.any fun part => part.toList.any q) := by
  rw [any_text slash dot, any_text slash dot, join, if_pos relative]
  dsimp only
  rw [List.any_append, Bool.or_assoc]

/-- A relative path that starts with no tilde. -/
structure Below (r : FilePath) : Prop where
  relative : r.root = ""
  untilded : ∀ name ∈ r.parts.head?, name.toList.head? ≠ some '~'

/-- A path that the system takes: without null characters and surrogates, except those that stand
for bytes. -/
structure Nameable (p : FilePath) : Prop where
  noNull : World.hasNul p = false
  encodable : Text.Utf8.surrogates? (fun n => !Text.Utf16.isByteMark n) p.text.toList = none

theorem hasNul_eq_any (p : FilePath) : World.hasNul p = p.text.toList.any (· == '\x00') := by
  unfold World.hasNul
  rw [Bool.eq_iff_iff, List.contains_iff_mem, List.any_eq_true]
  simp

/-- Below a path that the system takes, only the rest decides whether it does. -/
theorem hasNul_join (nameable : base.Nameable) (relative : r.root = "") :
    World.hasNul (base.join r) = r.parts.any fun part => part.toList.any (· == '\x00') := by
  have none := nameable.noNull
  rw [hasNul_eq_any] at none ⊢
  rw [any_text_join (by decide) (by decide) relative, none, Bool.false_or]

theorem surrogates?_join (nameable : base.Nameable) (relative : r.root = "") :
    Text.Utf8.surrogates? (fun n => !Text.Utf16.isByteMark n) (base.join r).text.toList = none ↔
      (r.parts.any fun part => part.toList.any fun c =>
        (Text.Utf16.surrogate? c).any fun n => !Text.Utf16.isByteMark n) = false := by
  have found (cs : List Char) : Text.Utf8.surrogates? (fun n => !Text.Utf16.isByteMark n) cs = none ↔
      (cs.any fun c => (Text.Utf16.surrogate? c).any fun n => !Text.Utf16.isByteMark n) = false := by
    rw [Text.Utf8.surrogates?_eq_none_iff, List.any_eq_false]
    simp only [Bool.not_eq_true]
  have free := (found _).mp nameable.encodable
  rw [found, any_text_join (by decide +kernel) (by decide +kernel) relative, free, Bool.false_or]

end FilePath

namespace Kubeconfig

variable {w w' : World} {base base' p p' r : FilePath} {v : Value}

/-! ### References -/

/-- Both paths lead to the same bytes, or neither leads to a file that can be read. -/
def SameBytes (w : World) (p : FilePath) (w' : World) (p' : FilePath) : Prop :=
  ∀ bytes, w.read p = .ok bytes ↔ w'.read p' = .ok bytes

/-- Not given, or the text of a path below any base. -/
inductive Portable : Value → Prop
  | unset {v : Value} : v.truthy = false → Portable v
  | path {s : String} : (FilePath.ofString s).Below → Portable (.str s)

/-- Not given, or the text of a path that leads to the same below both bases. -/
inductive MovedFile (w w' : World) (base base' : FilePath) : Value → Prop
  | unset {v : Value} : v.truthy = false → MovedFile w w' base base' v
  | file {s : String} : (FilePath.ofString s).Below →
    SameBytes w (base.join (FilePath.ofString s)) w' (base'.join (FilePath.ofString s)) →
    MovedFile w w' base base' (.str s)

theorem referencedPath_of_below {s : String} (below : (FilePath.ofString s).Below) (w : World)
    (base : FilePath) :
    referencedPath w base (.str s) = .ok (base.join (FilePath.ofString s)) := by
  have expanded : w.expandHome (FilePath.ofString s) = .ok (FilePath.ofString s) := by
    unfold World.expandHome
    split
    · rfl
    · rename_i name rest parts
      have untilded := below.untilded name (by rw [parts]; rfl)
      rw [if_neg fun tilded => untilded tilded.2]
  unfold referencedPath World.namedPath
  dsimp only [FilePath.ofValue, bind, Except.bind]
  rw [expanded]
  rfl

theorem checkSurrogates_alike {refused : Nat → Bool} {s t : String}
    (marks : Text.Utf8.surrogates? refused s.toList = none ↔
      Text.Utf8.surrogates? refused t.toList = none) :
    EndAlike Eq (Failure.checkSurrogates refused s) (Failure.checkSurrogates refused t) := by
  unfold Failure.checkSurrogates
  cases found : Text.Utf8.surrogates? refused s.toList with
  | none =>
    rw [marks.mp found]
    exact .ok rfl
  | some first =>
    cases found' : Text.Utf8.surrogates? refused t.toList with
    | none =>
      rw [marks.mpr found'] at found
      cases found
    | some second => exact .error (.unencodable _ _ _ _ _ _)

theorem readReferenced_alike (place : base.Nameable) (place' : base'.Nameable)
    (relative : r.root = "") (same : SameBytes w (base.join r) w' (base'.join r)) :
    EndAlike Eq (readReferenced w (base.join r)) (readReferenced w' (base'.join r)) := by
  have marks := (FilePath.surrogates?_join place relative).trans
    (FilePath.surrogates?_join place' relative).symm
  have nuls := (FilePath.hasNul_join place relative).trans
    (FilePath.hasNul_join place' relative).symm
  unfold readReferenced
  refine .bind (checkSurrogates_alike marks) fun _ _ _ => ?_
  rw [nuls]
  cases World.hasNul (base'.join r) with
  | true => exact .error (.same _)
  | false =>
    cases read : w.read (base.join r) with
    | ok bytes =>
      rw [(same bytes).mp read]
      exact .ok rfl
    | error e =>
      cases read' : w'.read (base'.join r) with
      | ok bytes =>
        rw [(same bytes).mpr read'] at read
        cases read
      | error e' => exact .error (.fault rfl)

theorem MovedFile.readsFile_alike {α : Type} {f g : FilePath → List UInt8 → Except Failure α}
    (moved : MovedFile w w' base base' v) (given : v.truthy = true) (place : base.Nameable)
    (place' : base'.Nameable) (rest : ∀ p p' bytes, EndAlike Eq (f p bytes) (g p' bytes)) :
    EndAlike Eq (readsFile w base v f) (readsFile w' base' v g) := by
  cases moved with
  | unset falsy => exact absurd (given.symm.trans falsy) (by decide)
  | file below same =>
    rw [readsFile_of_path (referencedPath_of_below below w base),
      readsFile_of_path (referencedPath_of_below below w' base')]
    apply EndAlike.bind (readReferenced_alike place place' below.relative same)
    rintro bytes _ rfl
    exact rest _ _ bytes

/-! ### Credentials -/

/-- Two surroundings, and what the files of a user lead to in each. -/
structure UserMoved (w w' : World) (base base' : FilePath) (user : Entries) : Prop where
  plugin : w'.plugin = w.plugin
  place : base.Nameable
  place' : base'.Nameable
  files : ∀ kind ∈ ["tokenFile", "client-certificate", "client-key"],
    MovedFile w w' base base' (Value.field user kind)

variable {user : Entries} {name : Value}

theorem UserMoved.tokenFromFile_alike (h : UserMoved w w' base base' user)
    (given : (Value.field user "tokenFile").truthy = true) :
    EndAlike Eq (tokenFromFile w base (Value.field user "tokenFile"))
      (tokenFromFile w' base' (Value.field user "tokenFile")) := by
  have moved := h.files "tokenFile" (by decide)
  rw [tokenFromFile_eq, tokenFromFile_eq]
  apply moved.readsFile_alike given h.place h.place'
  intro p p' bytes
  cases Text.Utf8.toString? bytes with
  | some text => exact .ok rfl
  | none => exact .error (.fault rfl)

theorem UserMoved.material_alike (h : UserMoved w w' base base' user) {kind : String}
    (member : kind ∈ ["tokenFile", "client-certificate", "client-key"]) :
    EndAlike Eq (material w user kind base) (material w' user kind base') := by
  have moved := h.files kind member
  rw [material_eq, material_eq]
  split
  · exact .ok rfl
  · split
    · rename_i given
      exact moved.readsFile_alike given h.place h.place' fun _ _ _ => .ok rfl
    · exact .ok rfl

theorem UserMoved.pluginCredentials_result (h : UserMoved w w' base base' user) :
    (pluginCredentials w' name base').result =
      (pluginCredentials w name base).result := by
  unfold pluginCredentials
  rw [Traced.result_bind, Traced.result_bind, h.plugin]
  rfl

theorem UserMoved.basicOrPlugin_alike (h : UserMoved w w' base base' user) :
    EndAlike Eq (basicOrPlugin w user name base).result
      (basicOrPlugin w' user name base').result := by
  unfold basicOrPlugin
  dsimp only
  split
  · exact .refl (fun _ => rfl) _
  · split
    · refine .traced (R := Eq) (.of_eq h.pluginCredentials_result.symm) ?_
      rintro creds _ rfl
      exact .ok rfl
    · exact .error (.same _)

theorem UserMoved.credentials_alike (h : UserMoved w w' base base' user) (name : Value) :
    EndAlike Eq (credentials w user name base).result
      (credentials w' user name base').result := by
  rw [credentials_eq, credentials_eq]
  split
  · exact .refl (fun _ => rfl) _
  · split
    · rename_i given
      refine .traced (h.tokenFromFile_alike given) ?_
      rintro creds _ rfl
      exact .ok rfl
    · refine .traced (h.material_alike (by decide)) ?_
      rintro certificate _ rfl
      refine .traced (h.material_alike (by decide)) ?_
      rintro key _ rfl
      unfold certifiedOr
      split
      · exact .refl (fun _ => rfl) _
      · split
        · exact .error (.same _)
        · exact h.basicOrPlugin_alike

/-! ### Profiles -/

/-- The same authorities, but for the place of a file that a reference names. -/
inductive TrustMoved (base base' : FilePath) (reference : Value) :
    Option TrustSource → Option TrustSource → Prop
  | absent : TrustMoved base base' reference none none
  | contents (text : String) :
    TrustMoved base base' reference (some (.contents text)) (some (.contents text))
  | file {s : String} : reference = .str s → (FilePath.ofString s).Below →
    TrustMoved base base' reference (some (.file (base.join (FilePath.ofString s)).text))
      (some (.file (base'.join (FilePath.ofString s)).text))

/-- The same profiles, but for the place of a file with authorities. -/
structure ProfileMoved (base base' : FilePath) (reference : Value) (p q : Profile) : Prop where
  others : q = { p with trust := q.trust }
  trust : TrustMoved base base' reference p.trust q.trust

variable {cluster : Entries} {reference userAgent : Value} {trust trust' : Option TrustSource}

theorem authorities_alike (portable : Portable (Value.field cluster "certificate-authority")) :
    EndAlike (TrustMoved base base' (Value.field cluster "certificate-authority"))
      (authorities w cluster base) (authorities w' cluster base') := by
  unfold authorities
  dsimp only
  split
  · split
    · rename_i s inline
      cases decoded : inlineAuthorities s with
      | error e => exact .error (.same e)
      | ok source =>
        obtain ⟨_, text, _, _, rfl⟩ := inlineAuthorities_ok.mp decoded
        exact .ok (.contents text)
    · exact .error (.same _)
  · split
    · rename_i given
      generalize Value.field cluster "certificate-authority" = v at portable given
      cases portable with
      | unset falsy => exact absurd (given.symm.trans falsy) (by decide)
      | path below =>
        rw [referencedPath_of_below below, referencedPath_of_below below]
        exact .ok (.file rfl below)
    · exact .ok .absent

theorem assemble_trust {endpoint userAgent : Check String} {creds : Check Credentials}
    {verify : Check Bool} {user : Check Value} {groups : Check (List Value)}
    (trust trust' : Option TrustSource) :
    Profile.assemble endpoint creds (.ok trust') userAgent verify user groups =
      (Profile.assemble endpoint creds (.ok trust) userAgent verify user groups).map
        fun p => { p with trust := trust' } := by
  cases endpoint <;> cases creds <;> cases userAgent <;> cases verify <;> cases user <;>
    cases groups <;> rfl

theorem profile_alike {server : Value} {creds : Credentials} {groups : List Value}
    (moved : TrustMoved base base' reference trust trust') :
    EndAlike (ProfileMoved base base' reference) (profile server creds trust userAgent user groups)
      (profile server creds trust' userAgent user groups) := by
  unfold profile
  rw [assemble_trust trust trust']
  cases assembled : Profile.assemble
      (Check.within (.field "api_server_endpoint") (Lax.text server)) (.ok creds) (.ok trust)
      (Check.within (.field "user_agent") (Lax.text userAgent)) (.ok true)
      (Check.within (.field "impersonate") (Profile.checkUser (Value.field user "as")))
      (Check.within (.field "impersonate_groups") (Profile.checkGroups (.list groups))) with
  | error issues => exact .error (.same _)
  | ok p =>
    obtain ⟨_, _, trusted, _⟩ := Profile.assemble_ok.mp assembled
    refine .ok ⟨rfl, ?_⟩
    rw [← Except.ok.inj trusted]
    exact moved

/-! ### From the credentials to the resolution -/

variable {d d' : Document} {context : Value} {p q : Profile}

/-- Profiles that were found the same way and have moved. -/
def RunsMoved (base base' : FilePath) (reference : Value) (x y : Profile × AuthMethod) : Prop :=
  ProfileMoved base base' reference x.1 y.1 ∧ x.2 = y.2

theorem assembled_alike (portable : Portable (Value.field cluster "certificate-authority"))
    (moved : UserMoved w w' d.path.parent d'.path.parent user) (groups : List Value) :
    EndAlike (RunsMoved d.path.parent d'.path.parent (Value.field cluster "certificate-authority"))
      (assembled w d cluster user name userAgent groups).result
      (assembled w' d' cluster user name userAgent groups).result := by
  unfold assembled
  refine .traced (authorities_alike portable) fun trust trust' trusted => ?_
  refine .traced (moved.credentials_alike name) ?_
  rintro ⟨creds, method⟩ _ rfl
  refine .traced (profile_alike trusted) fun p q profiles => ?_
  exact .ok ⟨profiles, rfl⟩

theorem invalidValues_akin (e e' : Failure) (akin : e.Akin e') :
    (invalidValues e).Akin (invalidValues e') := by
  cases akin with
  | same => exact .same _
  | fault ranks => exact .fault ranks
  | unencodable => exact .unencodable _ _ _ _ _ _

theorem applyVerification_alike (cluster : Entries) (moved : ProfileMoved base base' reference p q) :
    EndAlike (ProfileMoved base base' reference) (applyVerification cluster p).result
      (applyVerification cluster q).result := by
  rw [applyVerification_eq, applyVerification_eq]
  refine .ok ?_
  split
  · refine ⟨?_, moved.trust⟩
    rw [moved.others]
    rfl
  · exact moved

theorem resolveFound_alike (portable : Portable (Value.field cluster "certificate-authority"))
    (moved : UserMoved w w' d.path.parent d'.path.parent user) (clusterName userName : Value) :
    EndAlike (RunsMoved d.path.parent d'.path.parent (Value.field cluster "certificate-authority"))
      (resolveFound w d clusterName cluster userName user name userAgent).result
      (resolveFound w' d' clusterName cluster userName user name userAgent).result := by
  unfold resolveFound
  split
  · exact .same_first fun shown => .error (.same _)
  · apply EndAlike.same_first
    intro groups
    refine .traced ((assembled_alike portable moved groups).mapError invalidValues_akin) ?_
    rintro ⟨p, method⟩ ⟨q, _⟩ ⟨profiles, rfl⟩
    refine .traced (applyVerification_alike cluster profiles) fun p q verified => ?_
    exact .ok ⟨verified, rfl⟩

/-! ### Documents -/

/-- The same document at two places, with references that lead to the same. -/
structure Relocation (w w' : World) (d d' : Document) (context : Value) : Prop where
  entries : d'.entries = d.entries
  authorities : ∀ cluster, selected? d context "clusters" "cluster" = some cluster →
    Portable (Value.field cluster "certificate-authority")
  user : ∀ user, selected? d context "users" "user" = some user →
    UserMoved w w' d.path.parent d'.path.parent user

/-- Profiles of one cluster that have moved with their documents. -/
def ResolvedAlike (d d' : Document) (context : Value) (p q : Profile) : Prop :=
  ∃ cluster, selected? d context "clusters" "cluster" = some cluster ∧
    ProfileMoved d.path.parent d'.path.parent (Value.field cluster "certificate-authority") p q

theorem Relocation.resolveContext_alike (h : Relocation w w' d d' context) {selected : Entries}
    (found : find d.entries "contexts" "context" (contextName d context) = .ok (some selected)) :
    EndAlike (fun x y => ResolvedAlike d d' context x.1 y.1 ∧ x.2 = y.2)
      (resolveContext w d selected name userAgent).result
      (resolveContext w' d' selected name userAgent).result := by
  rw [resolveContext_eq, resolveContext_eq, h.entries]
  cases clusterFound : referenced d.entries selected "clusters" "cluster" "Cluster" with
  | error e => exact .error (.same e)
  | ok foundCluster =>
    obtain ⟨clusterName, cluster⟩ := foundCluster
    cases userFound : referenced d.entries selected "users" "user" "User" with
    | error e => exact .error (.same e)
    | ok foundUser =>
      obtain ⟨userName, user⟩ := foundUser
      rw [Traced.lift_ok_bind, Traced.lift_ok_bind]
      dsimp only
      rw [Traced.lift_ok_bind, Traced.lift_ok_bind]
      have selectedCluster := selected?_of_referenced found clusterFound
      have portable := h.authorities cluster selectedCluster
      have moved := h.user user (selected?_of_referenced found userFound)
      refine (resolveFound_alike portable moved clusterName userName).mono fun x y runs => ?_
      exact ⟨⟨cluster, selectedCluster, runs.1⟩, runs.2⟩

theorem withPath_akin (path path' : FilePath) (e e' : Failure) (akin : e.Akin e') :
    (withPath path e).Akin (withPath path' e') := by
  cases akin with
  | same =>
    cases e with
    | fault f => exact .fault rfl
    | _ => exact .same _
  | fault => exact .fault rfl
  | unencodable => exact .unencodable _ _ _ _ _ _

theorem situate_akin (path path' : FilePath) (name : Value) (e e' : Failure) (akin : e.Akin e') :
    (situate path name e).Akin (situate path' name e') := by
  have faults (f f' : Fault) :
      (situate path name (.fault f)).Akin (situate path' name (.fault f')) := by
    unfold situate
    cases Failure.textOf name with
    | ok shown => exact .fault rfl
    | error e => exact .same e
  cases akin with
  | same =>
    cases e with
    | fault f => exact faults f f
    | _ => exact .same _
  | fault => exact faults _ _
  | unencodable => exact .unencodable _ _ _ _ _ _

theorem Relocation.finish_alike (h : Relocation w w' d d' context) {selected : Entries}
    (found : find d.entries "contexts" "context" (contextName d context) = .ok (some selected)) :
    EndAlike (ResolvedAlike d d' context) (finish w d selected name userAgent).result
      (finish w' d' selected name userAgent).result := by
  unfold finish
  refine .traced ((h.resolveContext_alike found).mapError (situate_akin d.path d'.path name)) ?_
  rintro ⟨p, method⟩ ⟨q, _⟩ ⟨profiles, rfl⟩
  exact .same_first fun shown => .ok profiles

theorem unknownContext_alike (d d' : Document) (name : Value) :
    EndAlike (ResolvedAlike d d' context) (unknownContext d name).result
      (unknownContext d' name).result := by
  unfold unknownContext
  exact .same_first fun shown => .error (.fault rfl)

theorem Relocation.resolve_alike (h : Relocation w w' d d' context) (userAgent : Value) :
    EndAlike (ResolvedAlike d d' context) (resolve w d context userAgent).result
      (resolve w' d' context userAgent).result := by
  have names : contextName d' context = contextName d context := by
    unfold contextName
    rw [h.entries]
  rw [resolve_eq, resolve_eq, names, h.entries]
  split
  · exact .error (.fault rfl)
  · cases found : find d.entries "contexts" "context" (contextName d context) with
    | error e => exact .error (withPath_akin _ _ e e (.same e))
    | ok entries =>
      cases entries with
      | none => exact unknownContext_alike d d' _
      | some selected => exact h.finish_alike found

theorem resolve_relocated (h : Relocation w w' d d' context) (userAgent : Value) :
    (∃ p q, (resolve w d context userAgent).result = .ok p ∧
        (resolve w' d' context userAgent).result = .ok q ∧ ResolvedAlike d d' context p q) ∨
      ∃ e e', (resolve w d context userAgent).result = .error e ∧
        (resolve w' d' context userAgent).result = .error e' ∧ e.label = e'.label :=
  (h.resolve_alike userAgent).cases

def portableCluster : Entries :=
  [(.str "server", .str "https://h"), (.str "certificate-authority", .str "./ca")]

def portableUser : Entries :=
  [(.str "tokenFile", .str "./token")]

/-- A document with relative references in the given folder. -/
def portableDocument (folder : String) : Document :=
  { Document.single (.str "c") portableCluster portableUser with
    path := (FilePath.ofString folder).join (FilePath.ofString "config") }

/-- A token in the folder at a position, and a home directory. -/
def tokenWorld (folder : List String) (home : String) : World :=
  { directory := ["srv"]
    files := [(folder ++ ["token"], .bytes [116, 10])]
    environment := [("HOME", home)] }

def portableProfile (authorities : String) : Profile :=
  { endpoint := "https://h", credentials := .bearer "t", trust := some (.file authorities),
    userAgent := "ua", verify := true, impersonate := .null, groups := [] }

theorem portableDocument_result :
    (resolve (tokenWorld ["a"] "/x") (portableDocument "/a") .null (.str "ua")).result =
      .ok (portableProfile "/a/ca") := by
  cbv

theorem portableCluster_selected :
    selected? (portableDocument "/a") .null "clusters" "cluster" = some portableCluster := by
  cbv

theorem portableCluster_reference :
    Value.field portableCluster "certificate-authority" = .str "./ca" := by
  cbv

theorem portableUser_moved : UserMoved (tokenWorld ["a"] "/x") (tokenWorld ["srv", "b", "c"] "/y")
    (portableDocument "/a").path.parent (portableDocument "b/c").path.parent portableUser := by
  refine ⟨rfl, ⟨by cbv, by cbv⟩, ⟨by cbv, by cbv⟩, fun kind member => ?_⟩
  simp only [List.mem_cons, List.not_mem_nil, or_false] at member
  rcases member with rfl | rfl | rfl
  · have given : Value.field portableUser "tokenFile" = .str "./token" := by cbv
    rw [given]
    refine .file ⟨by cbv, by decide +kernel⟩ fun bytes => ?_
    have first : (tokenWorld ["a"] "/x").read ((portableDocument "/a").path.parent.join
        (FilePath.ofString "./token")) = .ok [116, 10] := by cbv
    have second : (tokenWorld ["srv", "b", "c"] "/y").read
        ((portableDocument "b/c").path.parent.join (FilePath.ofString "./token")) =
        .ok [116, 10] := by cbv
    rw [first, second]
  · exact .unset (by cbv)
  · exact .unset (by cbv)

theorem portableDocument_moved : Relocation (tokenWorld ["a"] "/x")
    (tokenWorld ["srv", "b", "c"] "/y") (portableDocument "/a") (portableDocument "b/c") .null := by
  have user : selected? (portableDocument "/a") .null "users" "user" = some portableUser := by cbv
  refine ⟨rfl, fun entries selected => ?_, fun entries selected => ?_⟩
  · obtain rfl := Option.some.inj (portableCluster_selected.symm.trans selected)
    rw [portableCluster_reference]
    exact .path ⟨by cbv, by decide +kernel⟩
  · obtain rfl := Option.some.inj (user.symm.trans selected)
    exact portableUser_moved

/-- The token and all else is the same at the other place, and the authorities are below it. -/
theorem portable_document_moves :
    Relocation (tokenWorld ["a"] "/x") (tokenWorld ["srv", "b", "c"] "/y") (portableDocument "/a")
      (portableDocument "b/c") .null ∧
    (resolve (tokenWorld ["srv", "b", "c"] "/y") (portableDocument "b/c") .null
      (.str "ua")).result = .ok (portableProfile "b/c/ca") := by
  refine ⟨portableDocument_moved, ?_⟩
  obtain ⟨p, q, found, found', entries, selected, others, trust⟩ | ⟨e, _, failed, _⟩ :=
    resolve_relocated portableDocument_moved (.str "ua")
  · obtain rfl := Except.ok.inj (portableDocument_result.symm.trans found)
    obtain rfl := Option.some.inj (portableCluster_selected.symm.trans selected)
    rw [portableCluster_reference] at trust
    rw [found', others]
    generalize given : (portableProfile "/a/ca").trust = old at trust
    generalize q.trust = new at trust ⊢
    cases trust with
    | absent => cases given
    | contents text => cases given
    | file named below =>
      obtain rfl := Value.str.inj named
      have place : ((portableDocument "b/c").path.parent.join (FilePath.ofString "./ca")).text =
          "b/c/ca" := by cbv
      rw [place]
      rfl
  · cases portableDocument_result.symm.trans failed

end Kubeconfig
end ClusterAccess
