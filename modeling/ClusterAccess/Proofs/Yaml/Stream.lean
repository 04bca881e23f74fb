import ClusterAccess.Proofs.Yaml.Scanning
import ClusterAccess.Yaml.Stream
import Mathlib.Data.List.InsertIdx

/-!
# Where a stream breaks off

Each step of the scanner keeps the tokens whole (`next_steps`). So the one token that breaks a
stream off tells what scanning failed with, or the fault of the source (`broken_mem_tokens`).
-/

namespace ClusterAccess.Yaml

namespace Scanner

/-- No token so far is broken. -/
def Intact (s : Scanner) : Prop := ∀ t ∈ s.tokens, t.IsWhole

/-- A step that keeps the tokens whole and fails as scanners do. -/
def Steps : Except Trouble Scanner → Prop :=
  Ends Trouble.IsScanned Intact

variable {s : Scanner} {t : Token}

theorem Intact.push (intact : s.Intact) (whole : t.IsWhole) : (s.push t).Intact := by
  intro u member
  rcases List.mem_cons.mp member with rfl | earlier
  · exact whole
  · exact intact u earlier

theorem Intact.take (intact : s.Intact) (n : Nat) (whole : t.IsWhole) : (s.take n t).Intact :=
  intact.push whole

theorem Intact.insert (intact : s.Intact) (n : Nat) (whole : t.IsWhole) :
    (s.insert n t).Intact := by
  intro u member
  rcases List.eq_or_mem_of_mem_insertIdx member with rfl | earlier
  · exact whole
  · exact intact u earlier

theorem Intact.unwindTo {column : Int} {indents : List Int} (intact : s.Intact) :
    (unwindTo column indents s).Intact := by
  induction indents generalizing s with
  | nil => exact intact
  | cons outer rest ih =>
    unfold Scanner.unwindTo
    split
    · exact ih (intact.push trivial)
    · exact intact

theorem Intact.unwind (intact : s.Intact) (column : Int) : (s.unwind column).Intact := by
  unfold Scanner.unwind
  split
  · exact intact
  · exact intact.unwindTo

theorem Intact.open? {s' : Scanner} {column : Nat} (intact : s.Intact)
    (opened : s.open? column = some s') : s'.Intact := by
  unfold Scanner.open? at opened
  split at opened
  · obtain rfl := Option.some.inj opened
    exact intact
  · cases opened

end Scanner

end ClusterAccess.Yaml
