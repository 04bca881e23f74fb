import ClusterAccess.Profile.Basic
import ClusterAccess.Validation.Lax

/-!
# Validation of profiles

Credentials and trust sources are told apart by the value under `type`. `Profile.check` builds a
profile from named values and reports every field that does not fit, in the order of the fields.
-/

namespace ClusterAccess

/-- The entries of a map whose `type` is one of the given words, with that word. -/
def Lax.tagged (words : List String) : Value → Check (String × List (Value × Value))
  | .map entries =>
    match Value.field? entries "type" with
    | none => Check.refuse .unionTagNotFound
    | some (.str tag) =>
      if words.contains tag then .ok (tag, entries) else Check.refuse .unionTagInvalid
    | some _ => Check.refuse .unionTagInvalid
  | _ => Check.refuse .modelAttributesType

def Credentials.checkPem (entries : List (Value × Value)) : Check Credentials :=
  Check.also
    ((Lax.required entries "certificate_base64" Lax.text).map Credentials.pem)
    (Lax.required entries "private_key_base64" Lax.text)

def Credentials.check (v : Value) : Check Credentials := do
  let (tag, entries) ← Lax.tagged ["header", "pem"] v
  Check.within (.field tag)
    (if tag = "header" then (Lax.required entries "value" Lax.text).map Credentials.header
     else Credentials.checkPem entries)

def TrustSource.check (v : Value) : Check TrustSource := do
  let (tag, entries) ← Lax.tagged ["file", "contents"] v
  Check.within (.field tag)
    (if tag = "file" then (Lax.required entries "path" Lax.text).map TrustSource.file
     else (Lax.required entries "contents" Lax.text).map TrustSource.contents)

namespace Profile

def checkTrust : Value → Check (Option TrustSource)
  | .null => .ok none
  | v => (TrustSource.check v).map some

def checkUser (v : Value) : Check Value :=
  (Lax.optionalText v).map fun
    | none => .null
    | some s => .str s

def checkGroups : Value → Check (List Value)
  | .list xs => Check.members (fun v => (Lax.text v).map Value.str) 0 xs
  | .tuple xs => Check.members (fun v => (Lax.text v).map Value.str) 0 xs
  | .set xs => Check.members (fun v => (Lax.text v).map Value.str) 0 xs
  | _ => Check.refuse .sequenceType

/-- A profile from a field reader for credentials and trust and the entries of all other fields. -/
def assemble (endpoint : Check String) (credentials : Check Credentials)
    (trust : Check (Option TrustSource)) (userAgent : Check String) (verify : Check Bool)
    (user : Check Value) (groups : Check (List Value)) : Check Profile :=
  Check.also (Check.also (Check.also (Check.also (Check.also (Check.also
    (endpoint.map Profile.mk) credentials) trust) userAgent) verify) user) groups

/-- A profile from a map of named values; names of no field are ignored. -/
def check (entries : List (Value × Value)) : Check Profile :=
  assemble
    (Lax.required entries "api_server_endpoint" Lax.text)
    (Lax.required entries "credentials" Credentials.check)
    (Lax.optional entries "ca_data" none checkTrust)
    (Lax.required entries "user_agent" Lax.text)
    (Lax.required entries "verify_ssl_certs" Lax.boolean)
    (Lax.optional entries "impersonate" .null checkUser)
    (Lax.optional entries "impersonate_groups" [] checkGroups)

end Profile
end ClusterAccess
