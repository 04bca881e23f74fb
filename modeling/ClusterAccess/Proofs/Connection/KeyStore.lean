import ClusterAccess.Connection.Session
import ClusterAccess.Proofs.Connection.Building
import ClusterAccess.Proofs.Text.Hex

/-!
# Files named by their contents

A name tells the kind of a file and the digest of its contents. As long as no two contents have the
same digest, a store whose files are all named so holds every piece that was put into it
(`putAll_contains`), and putting the same pieces again changes nothing (`putAll_of_contains`).
-/

namespace ClusterAccess

/-! ### Names -/

namespace Connection.KeyStore

theorem suffix_inj {kind kind' : Material} (h : kind.suffix = kind'.suffix) : kind = kind' := by
  cases kind <;> cases kind' <;> first | rfl | exact absurd h (by decide)

theorem length_suffix (kind : Material) : kind.suffix.toList.length = 4 := by
  cases kind <;> simp [Material.suffix]

/-- Files of the same name are of the same kind, and their contents have the same digest. -/
theorem nameFor_inj {kind kind' : Material} {contents contents' : List UInt8}
    (h : nameFor kind contents = nameFor kind' contents') :
    kind = kind' ∧ Digest.sha256 contents = Digest.sha256 contents' := by
  have lists := congrArg String.toList h
  unfold nameFor Digest.sha256Hex at lists
  rw [String.toList_append, String.toList_append, String.toList_ofList, String.toList_ofList] at lists
  have lengths : kind.suffix.toList.length = kind'.suffix.toList.length := by
    rw [length_suffix, length_suffix]
  obtain ⟨digits, ends⟩ := List.append_inj' lists lengths
  exact ⟨suffix_inj (String.toList_inj.mp ends), Text.Hex.ofBytes_inj digits⟩

/-! ### Stores of named files -/

def fileFor (piece : Piece) : StoredFile :=
  { name := nameFor piece.1 piece.2, mode := ownerOnly, contents := piece.2 }

/-- The file for a piece is found under its name. -/
def Contains (s : KeyStore) (piece : Piece) : Prop :=
  s.find? (nameFor piece.1 piece.2) = some (fileFor piece)

/-- Every file is the one for a piece out of a list. -/
def Holds (s : KeyStore) (pieces : List Piece) : Prop :=
  ∀ f ∈ s.files, ∃ piece ∈ pieces, f = fileFor piece

/-- No two different contents have the same digest. -/
def CollisionFree (pieces : List Piece) : Prop :=
  ∀ x ∈ pieces, ∀ y ∈ pieces, Digest.sha256 x.2 = Digest.sha256 y.2 → x.2 = y.2

variable {s : KeyStore} {asked : List Piece} {piece : Piece}

theorem fileFor_eq (free : CollisionFree asked) {other : Piece} (member : piece ∈ asked)
    (otherMember : other ∈ asked)
    (named : nameFor other.1 other.2 = nameFor piece.1 piece.2) : other = piece := by
  obtain ⟨kind, digest⟩ := nameFor_inj named
  exact Prod.ext kind (free other otherMember piece member digest)

theorem put_of_found {kind : Material} {contents : List UInt8} {f : StoredFile}
    (found : s.find? (nameFor kind contents) = some f) : s.put kind contents = s := by
  unfold put
  dsimp only
  rw [found, Option.isSome_some, if_pos rfl]

theorem put_of_missing {kind : Material} {contents : List UInt8}
    (missing : s.find? (nameFor kind contents) = none) :
    (s.put kind contents).files = s.files ++ [fileFor (kind, contents)] := by
  unfold put
  dsimp only
  rw [missing, Option.isSome_none, if_neg Bool.false_ne_true]
  rfl

theorem put_files (s : KeyStore) (kind : Material) (contents : List UInt8) :
    (s.put kind contents).files = s.files ∨
      (s.put kind contents).files = s.files ++ [fileFor (kind, contents)] := by
  cases found : s.find? (nameFor kind contents) with
  | none => exact .inr (put_of_missing found)
  | some f =>
    rw [put_of_found found]
    exact .inl rfl

theorem put_holds (holds : s.Holds asked) (member : piece ∈ asked) :
    (s.put piece.1 piece.2).Holds asked := by
  intro f stored
  rcases put_files s piece.1 piece.2 with same | more
  · rw [same] at stored
    exact holds f stored
  · rw [more] at stored
    rcases List.mem_append.mp stored with old | new
    · exact holds f old
    · exact ⟨piece, member, List.mem_singleton.mp new⟩

/-- A file that is found is still found after another one was put. -/
theorem find?_put {name : String} {f : StoredFile} (found : s.find? name = some f)
    (kind : Material) (contents : List UInt8) : (s.put kind contents).find? name = some f := by
  unfold find? at found ⊢
  rcases put_files s kind contents with same | more
  · rw [same]
    exact found
  · rw [more, List.find?_append, found]
    rfl

theorem put_contains (free : CollisionFree asked) (holds : s.Holds asked)
    (member : piece ∈ asked) : (s.put piece.1 piece.2).Contains piece := by
  cases found : s.find? (nameFor piece.1 piece.2) with
  | some f =>
    -- The file was made for a piece of the same name, and that is the same piece.
    rw [put_of_found found]
    obtain ⟨other, otherMember, rfl⟩ := holds f (List.mem_of_find?_eq_some found)
    have named : ((fileFor other).name == nameFor piece.1 piece.2) = true := by
      unfold find? at found
      have same := List.find?_some found
      exact same
    obtain rfl := fileFor_eq free member otherMember (beq_iff_eq.mp named)
    exact found
  | none =>
    unfold Contains find?
    rw [put_of_missing found, List.find?_append]
    unfold find? at found
    rw [found]
    simp [fileFor]

/-! ### Several pieces -/

theorem putAll_cons (s : KeyStore) (piece : Piece) (rest : List Piece) :
    s.putAll (piece :: rest) = (s.put piece.1 piece.2).putAll rest := rfl

theorem putAll_holds {pieces : List Piece} (holds : s.Holds asked) (among : pieces ⊆ asked) :
    (s.putAll pieces).Holds asked := by
  induction pieces generalizing s with
  | nil => exact holds
  | cons piece rest ih =>
    rw [putAll_cons]
    obtain ⟨first, others⟩ := List.cons_subset.mp among
    exact ih (put_holds holds first) others

theorem Contains.putAll (contains : s.Contains piece) (pieces : List Piece) :
    (s.putAll pieces).Contains piece := by
  induction pieces generalizing s with
  | nil => exact contains
  | cons first rest ih =>
    rw [putAll_cons]
    exact ih (find?_put contains first.1 first.2)

theorem putAll_contains {pieces : List Piece} (free : CollisionFree asked)
    (holds : s.Holds asked) (among : pieces ⊆ asked) (member : piece ∈ pieces) :
    (s.putAll pieces).Contains piece := by
  induction pieces generalizing s with
  | nil => cases member
  | cons first rest ih =>
    rw [putAll_cons]
    obtain ⟨firstAsked, others⟩ := List.cons_subset.mp among
    rcases List.mem_cons.mp member with rfl | later
    · exact (put_contains free holds firstAsked).putAll rest
    · exact ih (put_holds holds firstAsked) others later

theorem putAll_of_contains {pieces : List Piece} (contains : ∀ piece ∈ pieces, s.Contains piece) :
    s.putAll pieces = s := by
  induction pieces with
  | nil => rfl
  | cons first rest ih =>
    rw [putAll_cons, put_of_found (contains first List.mem_cons_self)]
    exact ih fun piece member => contains piece (List.mem_cons_of_mem first member)

end Connection.KeyStore
end ClusterAccess
