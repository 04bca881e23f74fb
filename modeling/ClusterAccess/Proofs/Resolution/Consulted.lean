import ClusterAccess.Kubeconfig.Load
import ClusterAccess.Proofs.Resolution.Agreement

/-!
# The files that a resolution consults

The candidates for a configuration are asked for one after the other, up to the first that is a
file. The user that the configuration selects names files of its own. Whatever else stands in the
surroundings, a resolution comes to the same (`resolveFile_congr`).
-/

namespace ClusterAccess.Kubeconfig

variable {w w' : World} {d : Document} {user user' : Entries} {path context name userAgent : Value}
  {base : FilePath}

/-- The paths that a search for the first file asks about. -/
def tried (w : World) : List String → List FilePath
  | [] => []
  | s :: rest =>
    match w.namedPath (.str s) with
    | .error _ => []
    | .ok p =>
      p ::
        match isFile w p with
        | .ok false => tried w rest
        | _ => []

/-- The paths that are asked about to locate a configuration. -/
def candidates (w : World) (path : Value) : List FilePath :=
  let entries := listed ((w.environment? listVariable).getD "")
  if path.truthy then (w.namedPath path).toOption.toList
  else if entries.isEmpty then (w.namedPath (.str defaultPath)).toOption.toList
  else tried w entries

/-- The fields of a user that name files. -/
def fileFields : List String := ["tokenFile", "client-certificate", "client-key"]

/-- The paths that a user names. -/
def namedFiles (w : World) (base : FilePath) (user : Entries) : List FilePath :=
  fileFields.flatMap fun key =>
    if (Value.field user key).truthy then
      (referencedPath w base (Value.field user key)).toOption.toList
    else []

/-- The paths that the selected user of the configuration names. -/
def namedBy (w : World) (path context : Value) : List FilePath :=
  match load w path with
  | .error _ => []
  | .ok d =>
    match selected? d context "users" "user" with
    | none => []
    | some user => namedFiles w d.path.parent user

theorem mem_namedFiles {key : String} {p : FilePath} (member : key ∈ fileFields)
    (given : (Value.field user key).truthy = true)
    (named : referencedPath w base (Value.field user key) = .ok p) : p ∈ namedFiles w base user := by
  refine List.mem_flatMap.mpr ⟨key, member, ?_⟩
  rw [if_pos given, named]
  exact List.mem_cons_self

/-! ### Locating and loading -/

theorem isFile_congr {p : FilePath} (same : w'.isFile p = w.isFile p) :
    isFile w' p = isFile w p := by
  unfold isFile
  rw [same]

theorem only_congr {v : Value} (homes : SameHomes w w')
    (asks : ∀ p ∈ (w.namedPath v).toOption.toList, w'.isFile p = w.isFile p) :
    only w' v = only w v := by
  unfold only
  rw [homes.namedPath]
  refine result_bind_congr fun p named => ?_
  rw [isFile_congr (asks p (by simp [named, Except.toOption]))]

theorem firstFile_congr (homes : SameHomes w w') {entries : List String}
    (asks : ∀ p ∈ tried w entries, w'.isFile p = w.isFile p) :
    firstFile w' entries = firstFile w entries := by
  induction entries with
  | nil => rfl
  | cons s rest ih =>
    unfold tried at asks
    unfold firstFile
    rw [homes.namedPath]
    cases named : w.namedPath (.str s) with
    | error e => rfl
    | ok p =>
      rw [named] at asks
      dsimp only at asks
      change (isFile w' p >>= _) = (isFile w p >>= _)
      rw [isFile_congr (asks p List.mem_cons_self)]
      refine result_bind_congr fun isThere answer => ?_
      cases isThere with
      | true => rfl
      | false =>
        rw [answer] at asks
        exact ih fun q member => asks q (List.mem_cons_of_mem _ member)

theorem locate_congr (homes : SameHomes w w')
    (asks : ∀ p ∈ candidates w path, w'.isFile p = w.isFile p) : locate w' path = locate w path := by
  have environment : w'.environment? listVariable = w.environment? listVariable := by
    unfold World.environment?
    rw [homes.environment]
  unfold candidates at asks
  unfold locate
  rw [environment]
  dsimp only at asks ⊢
  split at asks
  · rename_i given
    rw [if_pos given, if_pos given]
    exact only_congr homes asks
  · rename_i unasked
    rw [if_neg unasked, if_neg unasked]
    split at asks
    · rename_i none
      rw [List.isEmpty_iff.mp none]
      exact only_congr homes asks
    · rename_i some
      rw [firstFile_congr homes asks]
      simp only [if_neg some]

theorem only_ok {v : Value} {p : FilePath} (h : only w v = .ok p) :
    p ∈ (w.namedPath v).toOption.toList ∧ isFile w p = .ok true := by
  unfold only at h
  obtain ⟨q, named, h⟩ := result_bind_ok.mp h
  obtain ⟨isThere, answer, h⟩ := result_bind_ok.mp h
  split at h
  · rename_i there
    obtain rfl := Except.ok.inj h
    exact ⟨by simp [named, Except.toOption], by rw [answer, there]⟩
  · cases h

theorem firstFile_some {entries : List String} {p : FilePath}
    (h : firstFile w entries = .ok (some p)) : p ∈ tried w entries ∧ isFile w p = .ok true := by
  induction entries with
  | nil => cases h
  | cons s rest ih =>
    unfold firstFile at h
    obtain ⟨q, named, h⟩ := result_bind_ok.mp h
    obtain ⟨isThere, answer, h⟩ := result_bind_ok.mp h
    unfold tried
    rw [named]
    dsimp only
    split at h
    · rename_i there
      obtain rfl := Option.some.inj (Except.ok.inj h)
      exact ⟨List.mem_cons_self, by rw [answer, there]⟩
    · rename_i absent
      rw [Bool.not_eq_true] at absent
      rw [answer, absent]
      obtain ⟨member, found⟩ := ih h
      exact ⟨List.mem_cons_of_mem _ member, found⟩

/-- What is located was asked about, and is a file. -/
theorem locate_ok {p : FilePath} (h : locate w path = .ok p) :
    p ∈ candidates w path ∧ isFile w p = .ok true := by
  unfold locate at h
  unfold candidates
  dsimp only
  split at h
  · rename_i given
    rw [if_pos given]
    exact only_ok h
  · rename_i unasked
    rw [if_neg unasked]
    obtain ⟨found, searched, h⟩ := result_bind_ok.mp h
    cases found with
    | some q =>
      obtain rfl := Except.ok.inj h
      have given : ¬ (listed ((w.environment? listVariable).getD "")).isEmpty = true := by
        intro empty
        rw [List.isEmpty_iff.mp empty] at searched
        cases searched
      rw [if_neg given]
      exact firstFile_some searched
    | none =>
      dsimp only at h
      split at h
      · rename_i empty
        rw [if_pos empty]
        exact only_ok h
      · cases h

theorem load_congr (homes : SameHomes w w')
    (asks : ∀ p ∈ candidates w path, w'.isFile p = w.isFile p)
    (reads : ∀ p, locate w path = .ok p → w'.read p = w.read p) : load w' path = load w path := by
  unfold load
  rw [locate_congr homes asks]
  refine result_bind_congr fun p located => ?_
  unfold loadFrom
  rw [reads p located]

/-! ### Files of the user -/

theorem readsFile_congr {α : Type} {v : Value} {f : FilePath → List UInt8 → Except Failure α}
    (homes : SameHomes w w')
    (reads : ∀ p, referencedPath w base v = .ok p → w'.read p = w.read p) :
    readsFile w' base v f = readsFile w base v f := by
  unfold readsFile
  rw [homes.referencedPath]
  refine result_bind_congr fun p named => ?_
  unfold readReferenced
  rw [reads p named]

/-- Material depends on its data, and only without that on its file. -/
theorem material_congr_reads {kind : String} (homes : SameHomes w w')
    (data : Value.field user' (kind ++ "-data") = Value.field user (kind ++ "-data"))
    (file : ¬ (Value.field user (kind ++ "-data")).truthy = true →
      Value.field user' kind = Value.field user kind ∧
      ((Value.field user kind).truthy = true →
        ∀ p, referencedPath w base (Value.field user kind) = .ok p → w'.read p = w.read p)) :
    material w' user' kind base = material w user kind base := by
  rw [material_eq, material_eq, data]
  split
  · rfl
  · rename_i unset
    obtain ⟨path, reads⟩ := file unset
    rw [path]
    split
    · rename_i given
      exact readsFile_congr homes (reads given)
    · rfl

/-- Credentials see no file but those that the user names. -/
theorem credentials_congr (homes : SameHomes w w') (plugin : w'.plugin = w.plugin)
    (reads : ∀ p ∈ namedFiles w base user, w'.read p = w.read p) :
    credentials w' user name base = credentials w user name base := by
  have materials (kind : String) (member : kind ∈ fileFields) :
      material w' user kind base = material w user kind base := by
    refine material_congr_reads homes rfl fun _ => ⟨rfl, fun given p named => ?_⟩
    exact reads p (mem_namedFiles member given named)
  rw [credentials_eq, credentials_eq, materials _ (by decide), materials _ (by decide)]
  simp only [certifiedOr_congr plugin]
  split
  · rfl
  · split
    · rename_i given
      rw [tokenFromFile_eq, tokenFromFile_eq,
        readsFile_congr homes fun p named => reads p (mem_namedFiles (by decide) given named)]
    · rfl

theorem resolveFound_congr {clusterName userName : Value} {cluster : Entries}
    (homes : SameHomes w w')
    (same : credentials w' user name d.path.parent = credentials w user name d.path.parent) :
    resolveFound w' d clusterName cluster userName user name userAgent =
      resolveFound w d clusterName cluster userName user name userAgent := by
  unfold resolveFound assembled
  rw [homes.authorities, same]

theorem resolveContext_congr {selected : Entries} (homes : SameHomes w w')
    (same : ∀ user, find d.entries "users" "user" (referredName selected "user") = .ok (some user) →
      credentials w' user name d.path.parent = credentials w user name d.path.parent) :
    resolveContext w' d selected name userAgent = resolveContext w d selected name userAgent := by
  rw [resolveContext_eq, resolveContext_eq]
  refine Traced.bind_congr fun ⟨clusterName, cluster⟩ _ => ?_
  refine Traced.bind_congr fun ⟨userName, user⟩ found => ?_
  obtain ⟨rfl, referred⟩ := referenced_ok found
  exact resolveFound_congr homes (same user referred)

theorem resolve_congr (homes : SameHomes w w') (plugin : w'.plugin = w.plugin)
    (reads : ∀ user, selected? d context "users" "user" = some user →
      ∀ p ∈ namedFiles w d.path.parent user, w'.read p = w.read p) :
    resolve w' d context userAgent = resolve w d context userAgent := by
  rw [resolve_eq, resolve_eq]
  split
  · rfl
  · refine Traced.bind_congr fun entries found => ?_
    cases entries with
    | none => rfl
    | some selected =>
      have read : find d.entries "contexts" "context" (contextName d context) = .ok (some selected) :=
        mapError_ok.mp found
      have same : resolveContext w' d selected (contextName d context) userAgent =
          resolveContext w d selected (contextName d context) userAgent := by
        refine resolveContext_congr homes fun user referred => ?_
        refine credentials_congr homes plugin (reads user ?_)
        unfold selected?
        rw [read]
        dsimp only
        rw [referred]
      dsimp only
      unfold finish
      rw [same]

theorem resolveFile_congr (homes : SameHomes w w') (plugin : w'.plugin = w.plugin)
    (asks : ∀ p ∈ candidates w path, w'.isFile p = w.isFile p)
    (opened : ∀ p, locate w path = .ok p → w'.read p = w.read p)
    (reads : ∀ p ∈ namedBy w path context, w'.read p = w.read p) :
    resolveFile w' path context userAgent = resolveFile w path context userAgent := by
  unfold resolveFile
  rw [load_congr homes asks opened]
  refine Traced.bind_congr fun d loaded => ?_
  refine resolve_congr homes plugin fun user chosen p member => reads p ?_
  unfold namedBy
  rw [Traced.result_lift] at loaded
  rw [loaded]
  dsimp only
  rw [chosen]
  exact member

end ClusterAccess.Kubeconfig
