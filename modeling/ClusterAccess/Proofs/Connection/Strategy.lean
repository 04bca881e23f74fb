import ClusterAccess.Connection.Strategy
import ClusterAccess.Proofs.Changes
import ClusterAccess.Proofs.Resolution.Consulted
import ClusterAccess.Proofs.ServiceAccount

/-!
# One strategy and no other

The settings and one variable choose a strategy, and the outcome is the one of that strategy, its
failures included. What the other strategy would look at has no part in it (`one_strategy`).
-/

namespace ClusterAccess

variable {w w' : World} {s s' : Settings} {path userAgent token authorities : Value}
  {changed : List String → Prop}

/-! ### What the strategies see -/

namespace Connection

/-- A change of files that neither the token nor the authorities of a service account notice. -/
structure AccountSpared (files : AccountFiles) (changed : List String → Prop) (w w' : World) :
    Prop where
  outside : World.SameOutside changed w w'
  token : ∀ p, FilePath.ofValue files.token = .ok p → World.Spared id changed w w' p
  authorities : ∀ p, FilePath.ofValue files.authorities = .ok p →
    World.Spared FileCause.asked changed w w' p

/-- A change of files of which none is the configuration, or named by its selected user. -/
structure KubeconfigSpared (s : Settings) (changed : List String → Prop) (w w' : World) : Prop where
  outside : World.SameOutside changed w w'
  candidates : ∀ p ∈ Kubeconfig.candidates w (given s.kubeconfigPath),
    World.Spared FileCause.asked changed w w' p
  named : ∀ p ∈ Kubeconfig.namedBy w (given s.kubeconfigPath) (given s.kubeContext),
    World.Spared id changed w w' p

theorem account_of_spared {files : AccountFiles} (h : AccountSpared files changed w w') :
    ServiceAccount.profile w' userAgent files.token files.authorities =
      ServiceAccount.profile w userAgent files.token files.authorities := by
  refine ServiceAccount.profile_congr (fun p named => ?_) fun p named => ?_
  · exact World.read_of_spared h.outside (h.token p named)
  · exact World.ask_of_spared h.outside (h.authorities p named) _

theorem kubeconfig_of_spared (homes : Kubeconfig.SameHomes w w') (plugin : w'.plugin = w.plugin)
    (h : KubeconfigSpared s changed w w') :
    Kubeconfig.resolveFile w' (given s.kubeconfigPath) (given s.kubeContext) userAgent =
      Kubeconfig.resolveFile w (given s.kubeconfigPath) (given s.kubeContext) userAgent := by
  refine Kubeconfig.resolveFile_congr homes plugin (fun p member => ?_) (fun p located => ?_)
    fun p member => ?_
  · exact World.ask_of_spared h.outside (h.candidates p member) _
  · -- The located path leads to a file, so its walk meets no obstacle that a change could replace.
    obtain ⟨member, found⟩ := Kubeconfig.locate_ok located
    obtain ⟨n, there⟩ := World.stat_of_isFile (mapError_ok.mp found)
    exact World.read_of_spared_ok h.outside (h.candidates p member) there
  · exact World.read_of_spared h.outside (h.named p member)

/-! ### The choice -/

/-- The mode asks for the service account, or leaves it to a variable that is set and not empty. -/
def UsesAccount (w : World) (s : Settings) : Prop :=
  s.connectionMode = .inCluster ∨
    s.connectionMode = .auto ∧
      ∃ host, w.environment? "KUBERNETES_SERVICE_HOST" = some host ∧ host ≠ ""

theorem detect_serviceAccount : detect w = .serviceAccount ↔
    ∃ host, w.environment? "KUBERNETES_SERVICE_HOST" = some host ∧ host ≠ "" := by
  unfold detect inClusterVariable
  cases w.environment? "KUBERNETES_SERVICE_HOST" with
  | none => simp
  | some host => simp

theorem strategy_serviceAccount : strategy w s = .serviceAccount ↔ UsesAccount w s := by
  unfold strategy UsesAccount
  cases s.connectionMode <;> simp [detect_serviceAccount]

theorem strategy_kubeconfig : strategy w s = .kubeconfig ↔ ¬ UsesAccount w s := by
  rw [← strategy_serviceAccount]
  cases strategy w s <;> simp

/-- The outcome of a strategy, after one record for debugging that tells the word for the strategy
if the choice was automatic. -/
structure Follows (s : Settings) (word : String) (outcome chosen : Traced Profile) : Prop where
  result : outcome.result = chosen.result
  automatic : s.connectionMode = .auto → outcome.records =
    { level := Logging.debug
      logger := "kube_operator.utils.kubernetes"
      message := "Connection mode auto-detected as " ++ word
      fields := [] } :: chosen.records
  direct : s.connectionMode ≠ .auto → outcome.records = chosen.records
  calls : outcome.calls = chosen.calls

theorem resolve_follows (w : World) (s : Settings) (files : AccountFiles) :
    Follows s (strategy w s).mode.word (resolve w s files)
      (profileBy w s files (strategy w s)) := by
  unfold resolve
  dsimp only
  by_cases auto : s.connectionMode = .auto
  · rw [if_pos auto, Traced.bind_of_ok rfl]
    exact ⟨rfl, fun _ => rfl, fun given => absurd auto given, rfl⟩
  · rw [if_neg auto]
    exact ⟨rfl, fun automatic => absurd automatic auto, fun _ => rfl, rfl⟩

theorem Follows.unique {word : String} {outcome outcome' chosen : Traced Profile}
    (h : Follows s word outcome chosen) (h' : Follows s' word outcome' chosen)
    (mode : s'.connectionMode = s.connectionMode) : outcome' = outcome := by
  have records : outcome'.records = outcome.records := by
    by_cases auto : s.connectionMode = .auto
    · rw [h.automatic auto, h'.automatic (mode.trans auto)]
    · rw [h.direct auto, h'.direct fun automatic => auto (mode.symm.trans automatic)]
  have result : outcome'.result = outcome.result := h'.result.trans h.result.symm
  have calls : outcome'.calls = outcome.calls := h'.calls.trans h.calls.symm
  cases outcome
  cases outcome'
  simp_all

/-- The outcome is that of the strategy chosen, and changes with nothing that only the other
strategy looks at. -/
theorem one_strategy (w : World) (s : Settings) (files : AccountFiles) :
    (UsesAccount w s →
      Follows s "in-cluster" (resolve w s files)
        (ServiceAccount.profile w (.str s.userAgent) files.token files.authorities) ∧
      ∀ w' s' changed, UsesAccount w' s' → s'.connectionMode = s.connectionMode →
        s'.userAgent = s.userAgent → AccountSpared files changed w w' →
        resolve w' s' files = resolve w s files) ∧
    (¬ UsesAccount w s →
      Follows s "kubeconfig" (resolve w s files)
        (Kubeconfig.resolveFile w (given s.kubeconfigPath) (given s.kubeContext)
          (.str s.userAgent)) ∧
      ∀ w' files' changed, Kubeconfig.SameHomes w w' → w'.plugin = w.plugin →
        KubeconfigSpared s changed w w' → resolve w' s files' = resolve w s files) := by
  constructor
  · intro account
    have chosen := strategy_serviceAccount.mpr account
    have follows := resolve_follows w s files
    rw [chosen] at follows
    refine ⟨follows, fun w' s' changed account' mode agent spared => ?_⟩
    have chosen' := strategy_serviceAccount.mpr account'
    have follows' := resolve_follows w' s' files
    rw [chosen'] at follows'
    unfold profileBy at follows follows'
    dsimp only at follows follows'
    rw [agent, account_of_spared spared] at follows'
    exact follows.unique follows' mode
  · intro other
    have chosen := strategy_kubeconfig.mpr other
    have follows := resolve_follows w s files
    rw [chosen] at follows
    refine ⟨follows, fun w' files' changed homes plugin spared => ?_⟩
    have chosen' : strategy w' s = .kubeconfig := by
      refine strategy_kubeconfig.mpr fun account => other ?_
      unfold UsesAccount World.environment? at account ⊢
      rw [homes.environment] at account
      exact account
    have follows' := resolve_follows w' s files'
    rw [chosen'] at follows'
    unfold profileBy at follows follows'
    dsimp only at follows follows'
    rw [kubeconfig_of_spared homes plugin spared] at follows'
    exact follows.unique follows' rfl

/-- A configuration whose user names a token file. -/
def configuration : String :=
  "\x7bcontexts: [\x7bname: c\x7d], clusters: [\x7bname: '', cluster: \x7bserver: h\x7d\x7d], " ++
    "users: [\x7bname: '', user: \x7btokenFile: /etc/secret\x7d\x7d]\x7d"

def configurationPlace : List String := ["home", "op", ".kube", "config"]

def tokenPlace : List String :=
  ["var", "run", "secrets", "kubernetes.io", "serviceaccount", "token"]

/-- Surroundings with both a configuration in a home directory and the token of a service account.
-/
def furnished (environment : List (String × String)) : World :=
  { directory := ["srv"]
    files := [(configurationPlace, .bytes configuration.toUTF8.toList),
      (["etc", "secret"], .bytes [97]), (tokenPlace, .bytes [98])]
    environment := environment }

/-- The variables of a process outside a cluster. -/
def outside : List (String × String) := [("HOME", "/home/op")]

def configured : Settings :=
  { Settings.initial with kubeContext := "c" }

theorem configuration_spared : AccountSpared {} (· = configurationPlace)
    (furnished [("KUBERNETES_SERVICE_HOST", "h")])
    ((furnished [("KUBERNETES_SERVICE_HOST", "k"), ("HOME", "/")]).withContents
      configurationPlace []) := by
  constructor
  · exact ⟨rfl, fun parts other => World.node?_withContents_other other⟩
  · intro p named
    obtain rfl := Except.ok.inj named
    refine World.spared_of_apart ?_
    rintro _ rfl
    decide +kernel
  · intro p named
    obtain rfl := Except.ok.inj named
    refine World.spared_of_apart ?_
    rintro _ rfl
    decide +kernel

theorem token_spared : KubeconfigSpared configured (· = tokenPlace) (furnished outside)
    ((furnished outside).withContents tokenPlace []) := by
  constructor
  · exact ⟨rfl, fun parts other => World.node?_withContents_other other⟩
  · have asked : Kubeconfig.candidates (furnished outside) .null =
        [FilePath.ofString "/home/op/.kube/config"] := by decide +kernel
    intro p member
    obtain rfl := List.mem_singleton.mp (asked ▸ member)
    refine World.spared_of_apart ?_
    rintro _ rfl
    decide +kernel
  · have named : Kubeconfig.namedBy (furnished outside) .null (.str "c") =
        [FilePath.ofString "/etc/secret"] := by decide +kernel
    intro p member
    obtain rfl := List.mem_singleton.mp (named ▸ member)
    refine World.spared_of_apart ?_
    rintro _ rfl
    decide +kernel

/-- With the variable the token is taken whatever the configuration holds, and without it the
configuration, whatever the token is. -/
theorem furnished_resolves :
    (resolve (furnished [("KUBERNETES_SERVICE_HOST", "h")]) Settings.initial {}).result.isOk = true ∧
    resolve ((furnished [("KUBERNETES_SERVICE_HOST", "k"), ("HOME", "/")]).withContents
        configurationPlace []) configured {} =
      resolve (furnished [("KUBERNETES_SERVICE_HOST", "h")]) Settings.initial {} ∧
    (resolve (furnished outside) configured {}).result.isOk = true ∧
    resolve ((furnished outside).withContents tokenPlace []) configured {} =
      resolve (furnished outside) configured {} := by
  have account (host : String) (rest : List (String × String)) (given : host ≠ "") :
      UsesAccount (furnished (("KUBERNETES_SERVICE_HOST", host) :: rest)) Settings.initial :=
    .inr ⟨rfl, host, by simp [World.environment?, furnished], given⟩
  have first := account "h" [] (by decide)
  have second := account "k" [("HOME", "/")] (by decide)
  refine ⟨by decide +kernel, ?_, by decide +kernel, ?_⟩
  · exact ((one_strategy _ Settings.initial {}).1 first).2 _ configured (· = configurationPlace)
      second rfl rfl configuration_spared
  · have other : ¬ UsesAccount (furnished outside) configured := by
      rintro (mode | ⟨_, host, set, _⟩)
      · cases mode
      · cases set
    exact ((one_strategy (furnished outside) configured {}).2 other).2 _ {} (· = tokenPlace)
      ⟨rfl, rfl, rfl⟩ rfl token_spared

end Connection
end ClusterAccess
