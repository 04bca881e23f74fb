import ClusterAccess.Validation.Lax

/-!
# Validation of kinds

Kinds and references are built from named values, which must be texts.
-/

namespace ClusterAccess

def KindReference.check (entries : List (Value × Value)) : Check KindReference :=
  Check.also
    ((Lax.required entries "api_version" Lax.text).map KindReference.mk)
    (Lax.required entries "kind" Lax.text)

/-- A kind from named values; the group may be left out and is then the core group. -/
def ResourceKind.check (entries : List (Value × Value)) : Check ResourceKind :=
  Check.also (Check.also (Check.also
    ((Lax.optional entries "group" "" Lax.text).map ResourceKind.mk)
    (Lax.required entries "version" Lax.text))
    (Lax.required entries "kind" Lax.text))
    (Lax.required entries "plural_kind" Lax.text)

def ResourceKind.checkValue : Value → Check ResourceKind
  | .kind k => .ok k
  | .map entries => ResourceKind.check entries
  | _ => Check.refuse .modelType

def ResourceKind.ofParts (group version kind plural : Value) : Check ResourceKind :=
  ResourceKind.check
    [(.str "group", group), (.str "version", version), (.str "kind", kind),
      (.str "plural_kind", plural)]

/-- Whether an object is of the referenced kind: it carries the same API version and kind. -/
def KindReference.matchesObject (r : KindReference) (object : List (Value × Value)) : Bool :=
  (Value.field object "apiVersion").same (.str r.apiVersion) &&
    (Value.field object "kind").same (.str r.kind)

end ClusterAccess
