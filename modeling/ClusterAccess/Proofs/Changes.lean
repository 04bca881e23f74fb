import ClusterAccess.Proofs.Trace
import ClusterAccess.Proofs.World

/-!
# Changes of files that a path does not notice

Files may get other contents, come and go. A path notices a change where it leads to, and on its way
a change of what keeps it from going on. `stat_of_spared` says that nothing else is noticed; for a
question about a path, a missing file and a file in place of a folder are alike.
-/

namespace ClusterAccess

/-- A cause as a question about a path sees it. -/
def FileCause.asked : FileCause → FileCause
  | .notDirectory => .notFound
  | c => c

namespace World

variable {w w' : World} {p : FilePath} {changed : List String → Prop} {f : FileCause → FileCause}

/-- The same working directory, and the same files and folders outside the changed positions. -/
structure SameOutside (changed : List String → Prop) (w w' : World) : Prop where
  directory : w'.directory = w.directory
  nodes : ∀ parts, ¬ changed parts → w'.node? parts = w.node? parts

/-- A path leads to no changed position, and where it passes one it meets an obstacle that looks the
same. -/
structure Spared (f : FileCause → FileCause) (changed : List String → Prop) (w w' : World)
    (p : FilePath) : Prop where
  reached : ∀ parts, changed parts → ¬ w.Reaches p parts
  passed : ∀ parts, changed parts → parts ∈ w.passed (w.start p) p.parts →
    (w'.obstacle parts).map f = (w.obstacle parts).map f

instance (w : World) (p : FilePath) (parts : List String) : Decidable (w.Reaches p parts) :=
  decidable_of_iff ((w.walk (w.start p) p.parts).toOption = some parts) (by
    unfold Reaches
    cases w.walk (w.start p) p.parts <;> simp [Except.toOption])

/-- A path that comes to no changed position at all is spared. -/
theorem spared_of_apart (apart : ∀ parts, changed parts →
      ¬ w.Reaches p parts ∧ parts ∉ w.passed (w.start p) p.parts) :
    Spared f changed w w' p :=
  ⟨fun parts change => (apart parts change).1,
    fun parts change member => absurd member (apart parts change).2⟩

/-! ### Paths that notice nothing -/

theorem SameOutside.start (outside : SameOutside changed w w') : w'.start p = w.start p := by
  unfold World.start
  rw [outside.directory]

theorem obstacle_of_spared (outside : SameOutside changed w w') (h : Spared f changed w w' p)
    {position : List String} (member : position ∈ w.passed (w.start p) p.parts) :
    (w'.obstacle position).map f = (w.obstacle position).map f := by
  by_cases touched : changed position
  · exact h.passed position touched member
  · unfold obstacle
    rw [outside.nodes position touched]

theorem lookAt_of_spared (outside : SameOutside changed w w') (h : Spared f changed w w' p)
    {position : List String} (walked : w.walk (w.start p) p.parts = .ok position) :
    w'.lookAt position = w.lookAt position := by
  have untouched : ¬ changed position := fun touched => h.reached position touched walked
  unfold lookAt
  rw [outside.nodes position untouched]

theorem stat_of_spared (outside : SameOutside changed w w') (h : Spared f changed w w' p) :
    (w'.stat p).mapError f = (w.stat p).mapError f := by
  have walks := walk_congr (w.start p) p.parts fun _ member => obstacle_of_spared outside h member
  unfold stat
  rw [outside.start]
  split
  · rfl
  · cases before : w.walk (w.start p) p.parts with
    | error cause =>
      rw [before] at walks
      obtain ⟨cause', after, alike⟩ := mapError_error.mp walks
      rw [after]
      exact congrArg Except.error alike
    | ok position =>
      rw [before] at walks
      rw [mapError_ok.mp walks]
      exact congrArg (Except.mapError f) (lookAt_of_spared outside h before)

theorem stat_of_spared_ok {n : Node} (outside : SameOutside changed w w')
    (h : Spared f changed w w' p) (there : w.stat p = .ok n) : w'.stat p = .ok n := by
  have same := stat_of_spared outside h
  rw [there] at same
  exact mapError_ok.mp same

/-- A path that is spared with all causes told apart reads the same. -/
theorem read_of_spared (outside : SameOutside changed w w') (h : Spared id changed w w' p) :
    w'.read p = w.read p := by
  have same := stat_of_spared outside h
  rw [mapError_id, mapError_id] at same
  unfold read
  rw [same]

theorem read_of_spared_ok {n : Node} (outside : SameOutside changed w w')
    (h : Spared f changed w w' p) (there : w.stat p = .ok n) : w'.read p = w.read p := by
  unfold read
  rw [stat_of_spared_ok outside h there, there]

/-- A question about a path depends on causes as it sees them. -/
theorem ask_eq (w : World) (p : FilePath) (test : Node → Bool) :
    w.ask p test = if unnameable p then .ok false
      else
        match (w.stat p).mapError FileCause.asked with
        | .ok n => .ok (test n)
        | .error .notFound => .ok false
        | .error c => .error ⟨c, p.text⟩ := by
  unfold ask
  cases w.stat p with
  | ok n => rfl
  | error cause => cases cause <;> rfl

theorem ask_of_spared (outside : SameOutside changed w w')
    (h : Spared FileCause.asked changed w w' p) (test : Node → Bool) :
    w'.ask p test = w.ask p test := by
  rw [ask_eq, ask_eq, stat_of_spared outside h]

theorem stat_of_isFile (h : w.isFile p = .ok true) : ∃ n, w.stat p = .ok n := by
  unfold isFile ask at h
  split at h
  · cases h
  · split at h
    · rename_i n there
      exact ⟨n, there⟩
    all_goals cases h

end World
end ClusterAccess
