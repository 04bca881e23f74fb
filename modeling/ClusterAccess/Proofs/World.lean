import ClusterAccess.Proofs.Trace
import ClusterAccess.World.Basic

/-!
# Surroundings that differ in one thing

What a path leads to depends on the obstacles on its way, and so on the names and kinds of the
files, not on what they hold (`walk_congr`). A file with other contents is read differently at the
paths that lead to it, and nothing else changes (`read_withContents`). The plugin changes nothing
about files (`read_withPlugin`).
-/

namespace ClusterAccess.World

variable {w w' : World} {parts : List String} {old new : List UInt8}

/-- A path leads to a position. -/
def Reaches (w : World) (p : FilePath) (parts : List String) : Prop :=
  w.walk (w.start p) p.parts = .ok parts

/-! ### Obstacles on the way -/

/-- The positions that a walk goes on from, or wants to. -/
def passed (w : World) (position : List String) : List String → List (List String)
  | [] => []
  | name :: rest =>
    position ::
      match w.obstacle position with
      | some _ => []
      | none =>
        if name = ".." then passed w position.dropLast rest
        else if nameLimit < byteSize name then []
        else passed w (position ++ [name]) rest

/-- A walk that meets the same obstacles ends the same way, up to what `f` makes of causes. -/
theorem walk_congr {f : FileCause → FileCause} (position names : List String)
    (same : ∀ q ∈ w.passed position names, (w'.obstacle q).map f = (w.obstacle q).map f) :
    (w'.walk position names).mapError f = (w.walk position names).mapError f := by
  induction names generalizing position with
  | nil => rfl
  | cons name rest ih =>
    have first := same position List.mem_cons_self
    unfold passed at same
    unfold walk
    cases before : w.obstacle position with
    | some cause =>
      rw [before] at first
      obtain ⟨cause', after, alike⟩ := Option.map_eq_some_iff.mp first
      rw [after]
      exact congrArg Except.error alike
    | none =>
      rw [before] at first same
      rw [Option.map_eq_none_iff.mp first]
      dsimp only at same ⊢
      by_cases up : name = ".."
      · rw [if_pos up] at same
        rw [if_pos up, if_pos up]
        exact ih _ fun q member => same q (List.mem_cons_of_mem _ member)
      · rw [if_neg up] at same
        rw [if_neg up, if_neg up]
        by_cases long : nameLimit < byteSize name
        · rw [if_pos long, if_pos long]
        · rw [if_neg long] at same
          rw [if_neg long, if_neg long]
          exact ih _ fun q member => same q (List.mem_cons_of_mem _ member)

theorem walk_of_obstacles (same : ∀ q, w'.obstacle q = w.obstacle q)
    (position names : List String) : w'.walk position names = w.walk position names := by
  have walks : (w'.walk position names).mapError id = (w.walk position names).mapError id :=
    walk_congr position names fun q _ => by rw [same q]
  rwa [mapError_id, mapError_id] at walks

/-- What reading makes of what a path leads to. -/
def contentsOf (p : FilePath) : Except FileCause Node → Except FileError (List UInt8)
  | .ok (.file (.bytes bs)) => .ok bs
  | .ok (.file .denied) => .error ⟨.denied, p.text⟩
  | .ok (.folder _) => .error ⟨.isDirectory, p.text⟩
  | .error c => .error ⟨c, p.text⟩

theorem read_eq (w : World) (p : FilePath) :
    w.read p = contentsOf p (if pathLimit < byteSize p.text then .error .nameTooLong
      else (w.walk (w.start p) p.parts).bind w.lookAt) := rfl

/-! ### Questions about a path -/

section Questions

variable {p : FilePath} {test : Node → Bool} {e : FileError}

/-- Something stands where a path leads to. -/
def Stands (w : World) (p : FilePath) : Prop :=
  unnameable p = false ∧ ∃ n, w.stat p = .ok n

/-- A path that cannot be looked up: it or a name in it is too long, or it leads through a closed
folder. -/
inductive Refuses (w : World) (p : FilePath) : FileCause → Prop
  | long : unnameable p = false → w.stat p = .error .nameTooLong → Refuses w p .nameTooLong
  | closed : unnameable p = false → w.stat p = .error .denied → Refuses w p .denied

theorem obstacle_cause {position : List String} {c : FileCause}
    (h : w.obstacle position = some c) : c = .notFound ∨ c = .notDirectory ∨ c = .denied := by
  unfold obstacle at h
  split at h
  · exact .inl (Option.some.inj h).symm
  · exact .inr (.inl (Option.some.inj h).symm)
  · exact .inr (.inr (Option.some.inj h).symm)
  · cases h

theorem walk_error {position names : List String} {c : FileCause}
    (h : w.walk position names = .error c) : c ≠ .isDirectory := by
  induction names generalizing position with
  | nil => cases h
  | cons name rest ih =>
    unfold walk at h
    split at h
    · rename_i cause blocked
      rw [← Except.error.inj h]
      rcases obstacle_cause blocked with rfl | rfl | rfl <;> decide
    · split at h
      · exact ih h
      · split at h
        · rw [← Except.error.inj h]
          decide
        · exact ih h

/-- Looking for what stands somewhere never fails over its being a folder. -/
theorem stat_error {c : FileCause} (h : w.stat p = .error c) : c ≠ .isDirectory := by
  unfold stat at h
  split at h
  · rw [← Except.error.inj h]
    decide
  · cases walked : w.walk (w.start p) p.parts with
    | error cause =>
      rw [walked] at h
      exact Except.error.inj h ▸ walk_error walked
    | ok position =>
      rw [walked] at h
      dsimp only [Except.bind, lookAt] at h
      split at h
      · cases h
      · rw [← Except.error.inj h]
        decide

/-- A question fails only over a path that cannot be looked up. -/
theorem ask_error_iff : w.ask p test = .error e ↔ ∃ c, w.Refuses p c ∧ e = ⟨c, p.text⟩ := by
  unfold ask
  constructor
  · intro h
    split at h
    · cases h
    · rename_i nameable
      rw [Bool.not_eq_true] at nameable
      split at h
      · cases h
      · cases h
      · cases h
      · rename_i c present absent there
        refine ⟨c, ?_, (Except.error.inj h).symm⟩
        have other := stat_error there
        cases c with
        | nameTooLong => exact .long nameable there
        | denied => exact .closed nameable there
        | notFound => exact absurd rfl present
        | notDirectory => exact absurd rfl absent
        | isDirectory => exact absurd rfl other
  · rintro ⟨c, refused, rfl⟩
    cases refused with
    | long nameable there => rw [nameable, there]; rfl
    | closed nameable there => rw [nameable, there]; rfl

theorem ask_true_iff :
    w.ask p test = .ok true ↔ unnameable p = false ∧ ∃ n, w.stat p = .ok n ∧ test n = true := by
  unfold ask
  cases unnameable p with
  | true => simp
  | false =>
    rw [if_neg Bool.false_ne_true]
    cases w.stat p with
    | error c => cases c <;> simp
    | ok n => simp

theorem present_true_iff : w.present p = .ok true ↔ w.Stands p := by
  unfold present Stands
  rw [ask_true_iff]
  simp

theorem Stands.not_refused (h : w.Stands p) (c : FileCause) : ¬ w.Refuses p c := by
  obtain ⟨_, _, there⟩ := h
  intro refused
  cases refused with
  | long _ failed => cases there.symm.trans failed
  | closed _ failed => cases there.symm.trans failed

end Questions

/-! ### Other contents -/

/-- The surroundings with other contents in a file. -/
def withContents (w : World) (parts : List String) (bs : List UInt8) : World :=
  { w with files := w.files.map fun f => if f.1 == parts then (f.1, .bytes bs) else f }

theorem name_kept (f : List String × Contents) (bs : List UInt8) :
    (if f.1 == parts then (f.1, Contents.bytes bs) else f).1 = f.1 := by
  split <;> rfl

theorem find?_withContents (w : World) (parts place : List String) (bs : List UInt8) :
    (w.withContents parts bs).files.find? (fun f => f.1 == place) =
      (w.files.find? fun f => f.1 == place).map fun f =>
        if f.1 == parts then (f.1, .bytes bs) else f := by
  unfold withContents
  rw [List.find?_map]
  congr 2
  funext f
  rw [Function.comp_apply, name_kept]

theorem hasFolder_withContents (w : World) (parts position : List String) (bs : List UInt8) :
    (w.withContents parts bs).hasFolder position = w.hasFolder position := by
  have files : ((w.withContents parts bs).files.any fun f => position.isPrefixOf f.1) =
      w.files.any fun f => position.isPrefixOf f.1 := by
    unfold withContents
    rw [List.any_map]
    congr 1
    funext f
    rw [Function.comp_apply, name_kept]
  unfold hasFolder
  rw [files]
  rfl

theorem node?_withContents_same (there : w.node? parts = some (.file (.bytes old))) :
    (w.withContents parts new).node? parts = some (.file (.bytes new)) := by
  unfold node? at there ⊢
  rw [find?_withContents]
  cases found : w.files.find? fun f => f.1 == parts with
  | none =>
    rw [found] at there
    dsimp only at there
    split at there
    · cases there
    · cases there
  | some f =>
    have same : (f.1 == parts) = true := by
      have named := List.find?_some found
      exact named
    rw [Option.map_some, if_pos same]

theorem node?_withContents_other {place : List String} (other : place ≠ parts) :
    (w.withContents parts new).node? place = w.node? place := by
  unfold node?
  rw [find?_withContents, hasFolder_withContents]
  cases found : w.files.find? fun f => f.1 == place with
  | none => rfl
  | some f =>
    have same : (f.1 == place) = true := by
      have named := List.find?_some found
      exact named
    have different : ¬ (f.1 == parts) = true := fun equal =>
      other ((beq_iff_eq.mp same).symm.trans (beq_iff_eq.mp equal))
    rw [Option.map_some, if_neg different]

theorem walk_withContents (there : w.node? parts = some (.file (.bytes old)))
    (position names : List String) :
    (w.withContents parts new).walk position names = w.walk position names := by
  refine walk_of_obstacles (fun q => ?_) position names
  unfold obstacle
  -- A file stays a file, whatever it holds.
  by_cases same : q = parts
  · subst same
    rw [there, node?_withContents_same there]
  · rw [node?_withContents_other same]

theorem lookAt_of_node {position : List String} {n : Node} (there : w.node? position = some n) :
    w.lookAt position = .ok n := by
  unfold lookAt
  rw [there]

theorem lookAt_withContents_other {position : List String} (other : position ≠ parts) :
    (w.withContents parts new).lookAt position = w.lookAt position := by
  unfold lookAt
  rw [node?_withContents_other other]

/-- Only a path that leads to the file reads anything else. -/
theorem read_withContents (there : w.node? parts = some (.file (.bytes old))) (new : List UInt8)
    (p : FilePath) :
    (w.withContents parts new).read p = w.read p ∨
      (w.Reaches p parts ∧ w.read p = .ok old ∧ (w.withContents parts new).read p = .ok new) := by
  have starts : (w.withContents parts new).start p = w.start p := rfl
  rw [read_eq, read_eq, starts, walk_withContents there]
  split
  · exact .inl rfl
  · cases walked : w.walk (w.start p) p.parts with
    | error e => exact .inl rfl
    | ok position =>
      dsimp only [Except.bind]
      -- Both walks end at the same position; only the file itself looks different.
      by_cases same : position = parts
      · subst same
        rw [lookAt_of_node there, lookAt_of_node (node?_withContents_same there)]
        exact .inr ⟨walked, rfl, rfl⟩
      · rw [lookAt_withContents_other same]
        exact .inl rfl

/-- What a question about a kind can see: files without what they hold. -/
def kind : Node → Node
  | .file _ => .file (.bytes [])
  | .folder closed => .folder closed

/-- The same files and folders, whatever the files hold, and the same working directory. -/
structure SameKinds (w w' : World) : Prop where
  directory : w'.directory = w.directory
  kinds : ∀ parts, (w'.node? parts).map kind = (w.node? parts).map kind

/-- Where nothing stands nothing stands, and what stands somewhere is of the same kind. -/
theorem SameKinds.cases (same : SameKinds w w') (position : List String) :
    (w.node? position = none ∧ w'.node? position = none) ∨
      ∃ n n', w.node? position = some n ∧ w'.node? position = some n' ∧ kind n' = kind n := by
  have kinds := same.kinds position
  cases before : w.node? position with
  | none =>
    rw [before] at kinds
    exact .inl ⟨rfl, Option.map_eq_none_iff.mp kinds⟩
  | some n =>
    rw [before] at kinds
    obtain ⟨n', after, alike⟩ := Option.map_eq_some_iff.mp kinds
    exact .inr ⟨n, n', rfl, after, alike⟩

theorem obstacle_of_sameKinds (same : SameKinds w w') (position : List String) :
    w'.obstacle position = w.obstacle position := by
  unfold obstacle
  rcases same.cases position with ⟨before, after⟩ | ⟨n, n', before, after, alike⟩
  · rw [before, after]
  · rw [before, after]
    cases n <;> cases n' <;> cases alike <;> rfl

theorem lookAt_of_sameKinds (same : SameKinds w w') (position : List String) :
    (w'.lookAt position).map kind = (w.lookAt position).map kind := by
  unfold lookAt
  rcases same.cases position with ⟨before, after⟩ | ⟨n, n', before, after, alike⟩
  · rw [before, after]
  · rw [before, after]
    exact congrArg Except.ok alike

theorem stat_of_sameKinds (same : SameKinds w w') (p : FilePath) :
    (w'.stat p).map kind = (w.stat p).map kind := by
  have starts : w'.start p = w.start p := by
    unfold start
    rw [same.directory]
  unfold stat
  rw [starts, walk_of_obstacles (obstacle_of_sameKinds same)]
  split
  · rfl
  · cases w.walk (w.start p) p.parts with
    | error cause => rfl
    | ok position => exact lookAt_of_sameKinds same position

/-- Whether something stands somewhere does not depend on what files hold. -/
theorem present_of_sameKinds (same : SameKinds w w') (p : FilePath) :
    w'.present p = w.present p := by
  have kinds := stat_of_sameKinds same p
  unfold present ask
  generalize w'.stat p = found' at kinds
  generalize w.stat p = found at kinds
  cases found' with
  | ok n' =>
    cases found with
    | ok n => rfl
    | error c => cases kinds
  | error c' =>
    cases found with
    | ok n => cases kinds
    | error c => rw [Except.error.inj kinds]

/-! ### Another plugin -/

def withPlugin (w : World) (plugin : PluginBehaviour) : World :=
  { w with plugin := plugin }

theorem read_withPlugin (w : World) (plugin : PluginBehaviour) (p : FilePath) :
    (w.withPlugin plugin).read p = w.read p := by
  have obstacles (position : List String) :
      (w.withPlugin plugin).obstacle position = w.obstacle position := rfl
  have walks (position names : List String) :
      (w.withPlugin plugin).walk position names = w.walk position names :=
    walk_of_obstacles obstacles position names
  have starts : (w.withPlugin plugin).start p = w.start p := rfl
  have looked : (w.withPlugin plugin).lookAt = w.lookAt := rfl
  rw [read_eq, read_eq, starts, walks, looked]

end ClusterAccess.World
