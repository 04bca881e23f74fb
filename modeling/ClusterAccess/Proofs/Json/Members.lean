import ClusterAccess.Json.Obstacle
import ClusterAccess.Proofs.Document.Entries
import ClusterAccess.Proofs.Json.RoundTrip
import ClusterAccess.Proofs.Text.Surrogates

/-!
# Members of objects

An object may list several members under one name. A reader that settles them is left with the last
one (`field?_settleEntries`). A value can be dumped if all its texts have bytes.
-/

namespace ClusterAccess.Json

open Text

/-- All values that an object lists under a name, in their order. -/
def listed (members : List (Value × Value)) (name : String) : List Value :=
  (members.filter fun m => m.1.same (.str name)).map Prod.snd

variable {members : List (Value × Value)} {name key : String} {v : Value}

theorem listed_cons (key name : String) (v : Value) (rest : List (Value × Value)) :
    listed ((.str key, v) :: rest) name =
      if key = name then v :: listed rest name else listed rest name := by
  unfold listed
  rw [List.filter_cons]
  by_cases asked : key = name
  · rw [if_pos asked, if_pos (Value.same_texts_iff.mpr asked), List.map_cons]
  · rw [if_neg asked, if_neg fun same => asked (Value.same_texts_iff.mp same)]

/-- A settled object gives the last value that is listed, and otherwise what was there before. -/
theorem field?_settleEntries (names : ∀ m ∈ members, ∃ s, m.1 = .str s)
    (before : List (Value × Value)) (name : String) :
    Value.field? (settleEntries before members) name =
      ((listed members name).getLast?.map settle).or (Value.field? before name) := by
  induction members generalizing before with
  | nil => rfl
  | cons m rest ih =>
    obtain ⟨_, v⟩ := m
    obtain ⟨key, rfl⟩ := names _ List.mem_cons_self
    rw [settleEntries, ih fun m later => names m (List.mem_cons_of_mem _ later),
      Value.field?_put, listed_cons]
    by_cases asked : key = name
    · rw [if_pos asked, if_pos asked, List.getLast?_cons]
      cases (listed rest name).getLast? <;> rfl
    · rw [if_neg asked, if_neg asked]

/-! ### What can be dumped -/

/-- Made of null, truth values, integers and texts, by objects that are at most so many levels
deep. -/
inductive Shallow : Nat → Value → Prop
  | null {n : Nat} : Shallow (n + 1) .null
  | bool {n : Nat} (b : Bool) : Shallow (n + 1) (.bool b)
  | int {n : Nat} (i : Int) : Shallow (n + 1) (.int i)
  | str {n : Nat} (s : String) : Shallow (n + 1) (.str s)
  | fields {n : Nat} {fs : List (String × Value)} (parts : ∀ m ∈ fs, Shallow n m.2) :
    Shallow (n + 1) (Value.ofFields fs)

variable {levels : Nat}

theorem obstacle?_str {s : String} : obstacle? (levels + 1) (.str s) = none ↔ Utf8.Encodable s := by
  rw [obstacle?, obstacleOfText?, Option.map_eq_none_iff, Utf8.surrogates?_eq_none]

theorem obstacle?_ofFields {fields : List (String × Value)} :
    obstacle? (levels + 1) (Value.ofFields fields) = none ↔
      ∀ m ∈ fields, Utf8.Encodable m.1 ∧ obstacle? levels m.2 = none := by
  unfold Value.ofFields
  rw [obstacle?]
  induction fields with
  | nil => exact ⟨fun _ m member => absurd member List.not_mem_nil, fun _ => rfl⟩
  | cons m rest ih =>
    rw [List.map_cons, obstacleOfEntries?, Option.or_eq_none_iff, Option.or_eq_none_iff,
      obstacle?_str, ih, List.forall_mem_cons]

/-- Nothing is in the way of a value that is not too deep if all its texts have bytes. -/
theorem Shallow.obstacle?_eq_none (shallow : Shallow levels v) :
    obstacle? levels v = none ↔ v.Plain Utf8.Encodable := by
  induction shallow with
  | null => exact ⟨fun _ => .null, fun _ => rfl⟩
  | bool b => exact ⟨fun _ => .bool b, fun _ => rfl⟩
  | int i => exact ⟨fun _ => .int i, fun _ => rfl⟩
  | str s => rw [obstacle?_str, Value.plain_str_iff]
  | fields _ ih =>
    rw [obstacle?_ofFields, Value.plain_ofFields_iff]
    exact forall₂_congr fun m member => and_congr Iff.rfl (ih m member)

theorem Shallow.plain (shallow : Shallow levels v) : v.Plain fun _ => True := by
  induction shallow with
  | null => exact .null
  | bool b => exact .bool b
  | int i => exact .int i
  | str s => exact .str trivial
  | fields _ ih => exact .ofFields (fun _ _ => trivial) ih

/-- A value without kinds and references is shown as it is. -/
theorem Shallow.shown_eq (shallow : Shallow levels v) : v.shown = v := by
  induction shallow with
  | @fields n fs _ ih =>
    have same : (fs.map fun m => (m.1, m.2.withTexts id)) = fs.map id :=
      List.map_congr_left fun m member => congrArg (m.1, ·) (ih m member)
    unfold Value.shown
    rw [Value.withTexts_ofFields fun _ _ => rfl, same, List.map_id]
  | _ => rfl

end ClusterAccess.Json
