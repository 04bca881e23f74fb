import ClusterAccess.Kubeconfig.Material
import ClusterAccess.Proofs.Trace

/-!
# The ranks of credential methods

A token outranks a token file, which outranks a certificate with its key, which outrank a user name
with a password, which outrank a plugin. `credentials_eq` takes the search apart by these ranks.
-/

namespace ClusterAccess.Kubeconfig

/-! ### Files that a user names -/

def readsFile {α : Type} (w : World) (base : FilePath) (v : Value)
    (f : FilePath → List UInt8 → Except Failure α) : Except Failure α := do
  let p ← referencedPath w base v
  let bytes ← readReferenced w p
  f p bytes

theorem readsFile_of_path {α : Type} {w : World} {base p : FilePath} {v : Value}
    {f : FilePath → List UInt8 → Except Failure α} (named : referencedPath w base v = .ok p) :
    readsFile w base v f = (readReferenced w p >>= f p) := by
  unfold readsFile
  rw [named]
  rfl

theorem tokenFromFile_eq (w : World) (base : FilePath) (v : Value) :
    tokenFromFile w base v = readsFile w base v fun p bytes =>
      match Text.Utf8.toString? bytes with
      | some text => pure (Credentials.bearer (Text.trim text))
      | none =>
        .error (Failure.kubeconfig ("tokenFile " ++ p.text ++ " is not valid UTF-8")
          (some .undecodable)) := rfl

theorem material_eq (w : World) (user : Entries) (kind : String) (base : FilePath) :
    material w user kind base =
      if (Value.field user (kind ++ "-data")).truthy then
        .ok (Value.field user (kind ++ "-data"))
      else if (Value.field user kind).truthy then
        readsFile w base (Value.field user kind) fun _ bytes =>
          .ok (.str (Text.Base64.ofBytes bytes))
      else .ok .null := rfl

/-! ### The ranks -/

variable (w : World) (user : Entries) (name : Value) (base : FilePath)

/-- The lowest ranks: a user name with a password, and a plugin. -/
def basicOrPlugin : Traced (Credentials × AuthMethod) :=
  let userName := Value.field user "username"
  let password := Value.field user "password"
  if userName.truthy && password.truthy then do
    pure (← Traced.lift (basicHeader userName password), .basic)
  else if (Value.field? user "exec").isSome || (Value.field? user "auth-provider").isSome then do
    pure (← pluginCredentials w name base, .plugin)
  else Traced.fail (Failure.kubeconfig "User has no supported credentials")

/-- The ranks from the certificate on, once its material and that of its key are read. -/
def certifiedOr (certificate key : Value) : Traced (Credentials × AuthMethod) :=
  if certificate.truthy && key.truthy then do
    pure (← Traced.lift (checkMaterial certificate key), .clientCertificate)
  else if certificate.truthy || key.truthy then
    Traced.fail
      (Failure.kubeconfig "client-certificate and client-key must be configured together")
  else basicOrPlugin w user name base

theorem credentials_eq : credentials w user name base =
    if (Value.field user "token").truthy then do
      pure (Credentials.bearer (← Traced.lift (Failure.textOf (Value.field user "token"))), .token)
    else if (Value.field user "tokenFile").truthy then do
      pure (← Traced.lift (tokenFromFile w base (Value.field user "tokenFile")), .tokenFile)
    else (do
      let certificate ← Traced.lift (material w user "client-certificate" base)
      let key ← Traced.lift (material w user "client-key" base)
      certifiedOr w user name base certificate key) := rfl

section Plugin

variable {w w' : World} {user : Entries} {name : Value} {base : FilePath}

/-- The lowest ranks see nothing of the surroundings but the plugin. -/
theorem basicOrPlugin_congr (plugin : w'.plugin = w.plugin) :
    basicOrPlugin w' user name base = basicOrPlugin w user name base := by
  unfold basicOrPlugin pluginCredentials
  rw [plugin]

theorem certifiedOr_congr (plugin : w'.plugin = w.plugin) (certificate key : Value) :
    certifiedOr w' user name base certificate key =
      certifiedOr w user name base certificate key := by
  unfold certifiedOr
  rw [basicOrPlugin_congr plugin]

end Plugin

/-- The plugin is called once, whatever it answers. -/
theorem pluginCredentials_calls :
    (pluginCredentials w name base).calls = [{ context := name, folder := base.text }] := by
  refine Traced.calls_bind_silent fun _ => ?_
  split
  · rfl
  · rfl
  · split <;> rfl

/-! ### No method logs anything -/

theorem pluginCredentials_records : (pluginCredentials w name base).records = [] := by
  refine Traced.records_bind_nil rfl fun _ _ => ?_
  split
  · rfl
  · rfl
  · split <;> rfl

theorem basicOrPlugin_records : (basicOrPlugin w user name base).records = [] := by
  unfold basicOrPlugin
  dsimp only
  split
  · exact Traced.records_bind_nil rfl fun _ _ => rfl
  · split
    · exact Traced.records_bind_nil (pluginCredentials_records w name base) fun _ _ => rfl
    · rfl

theorem certifiedOr_records (certificate key : Value) :
    (certifiedOr w user name base certificate key).records = [] := by
  unfold certifiedOr
  split
  · exact Traced.records_bind_nil rfl fun _ _ => rfl
  · split
    · rfl
    · exact basicOrPlugin_records w user name base

theorem credentials_records : (credentials w user name base).records = [] := by
  rw [credentials_eq]
  split
  · exact Traced.records_bind_nil rfl fun _ _ => rfl
  · split
    · exact Traced.records_bind_nil rfl fun _ _ => rfl
    · refine Traced.records_bind_nil rfl fun certificate _ => ?_
      refine Traced.records_bind_nil rfl fun key _ => ?_
      exact certifiedOr_records w user name base certificate key

end ClusterAccess.Kubeconfig
