import ClusterAccess.Logging.State

/-!
# Setting up logging

A setup leaves one handler and one level, whatever came before it (`setup_forgets`). The exception
are two names that stand for something else than a level: the handlers are replaced, and then the
setup stops.
-/

namespace ClusterAccess.Logging

/-- A text that is, in upper case, one of the two names that stand for something else, and why it is
refused. -/
inductive Refused (text : String) : LevelError → Prop
  | layout : Text.upperAscii? text = some "BASIC_FORMAT" → Refused text (.unknownName basicLayout)
  | styles : Text.upperAscii? text = some "_STYLES" → Refused text (.notALevel shownStyles)

/-- The level that a text asks for: the one of that name in upper case, or else `info`. -/
inductive Asks (text : String) : Int → Prop
  | named {word : String} {level : Int} : Text.upperAscii? text = some word →
    (word, level) ∈ [("CRITICAL", 50), ("FATAL", 50), ("ERROR", 40), ("WARNING", 30), ("WARN", 30),
      ("INFO", 20), ("DEBUG", 10), ("NOTSET", 0)] → Asks text level
  | unnamed : (∀ word, Text.upperAscii? text = some word →
      word ∉ ["CRITICAL", "FATAL", "ERROR", "WARNING", "WARN", "INFO", "DEBUG", "NOTSET"]) →
    Asks text 20

/-! ### The level of a name -/

section Levels

variable {text word : String} {level : Int}

theorem levelNamed_of_mem (listed : (word, level) ∈ levelsByName) :
    levelNamed word = .ok level := by
  simp only [levelsByName, List.mem_cons, List.not_mem_nil, or_false, Prod.mk.injEq] at listed
  rcases listed with ⟨rfl, rfl⟩ | ⟨rfl, rfl⟩ | ⟨rfl, rfl⟩ | ⟨rfl, rfl⟩ | ⟨rfl, rfl⟩ | ⟨rfl, rfl⟩ |
    ⟨rfl, rfl⟩ | ⟨rfl, rfl⟩ <;> rfl

theorem levelNamed_unlisted (unlisted : word ∉ levelsByName.map Prod.fst)
    (layout : word ≠ "BASIC_FORMAT") (styles : word ≠ "_STYLES") :
    levelNamed word = .ok info := by
  have missing : levelsByName.lookup word = none := by
    refine List.lookup_eq_none_iff.mpr fun entry member => ?_
    simpa using fun same : word = entry.1 => unlisted (same ▸ List.mem_map_of_mem member)
  unfold levelNamed
  rw [if_neg layout, if_neg styles, missing]
  rfl

theorem levelOf_asked (proper : ∀ e, ¬ Refused text e) :
    ∃ level, Asks text level ∧ levelOf (.str text) = .ok level := by
  unfold levelOf
  dsimp only
  cases upper : Text.upperAscii? text with
  | none =>
    refine ⟨info, .unnamed fun word h => ?_, rfl⟩
    cases upper.symm.trans h
  | some word =>
    dsimp only
    by_cases listed : word ∈ levelsByName.map Prod.fst
    · obtain ⟨⟨word, level⟩, member, rfl⟩ := List.mem_map.mp listed
      exact ⟨level, .named upper member, levelNamed_of_mem member⟩
    · refine ⟨info, .unnamed fun word' h => ?_, levelNamed_unlisted listed ?_ ?_⟩
      · obtain rfl := Option.some.inj (upper.symm.trans h)
        exact listed
      · rintro rfl
        exact proper _ (.layout upper)
      · rintro rfl
        exact proper _ (.styles upper)

theorem levelOf_refused {e : LevelError} (refused : Refused text e) :
    levelOf (.str text) = .error e := by
  unfold levelOf
  dsimp only
  cases refused with
  | layout upper =>
    rw [upper]
    rfl
  | styles upper =>
    rw [upper]
    rfl

end Levels

/-! ### Setups -/

namespace State

variable {s : State} {a : Action} {actions : List Action} {text : String} {structured : Bool}

/-- The libraries whose loggers have levels of their own. -/
def libraryNames : List String := ["kopf", "kubernetes", "urllib3"]

/-- Any level and handlers, and any levels of the libraries. -/
def Known (s : State) : Prop := s.libraries.map Prod.fst = libraryNames

def formatFor (structured : Bool) : LineFormat :=
  if structured then .structured else .plain

/-- One handler with a format, a level, and the libraries at `warning`. -/
def settled (structured : Bool) (level : Int) : State :=
  { level := level, handlers := [some (formatFor structured)]
    libraries := [("kopf", 30), ("kubernetes", 30), ("urllib3", 30)] }

theorem setup_ok {level : Int} (known : s.Known) (found : levelOf (.str text) = .ok level) :
    s.setup (.str text) (.bool structured) = (settled structured level, .ok ()) := by
  have quiet : s.libraries.map (fun l => (l.1, warning)) =
      libraryNames.map fun name => (name, warning) := by
    rw [← known, List.map_map]
    rfl
  unfold setup
  dsimp only
  rw [found]
  dsimp only
  rw [quiet]
  rfl

theorem setup_error {e : LevelError} (failed : levelOf (.str text) = .error e) :
    s.setup (.str text) (.bool structured) =
      ({ s with handlers := [some (formatFor structured)] }, .error (.level e)) := by
  unfold setup
  dsimp only
  rw [failed]
  rfl

theorem setup_known (levelName structured : Value) (known : s.Known) :
    (s.setup levelName structured).1.Known := by
  unfold setup Known
  cases levelOf levelName with
  | error e => exact known
  | ok level =>
    dsimp only
    rw [List.map_map]
    exact known

theorem setupWith_known (positional : List Value) (named : List (String × Value))
    (known : s.Known) : (s.setupWith positional named).1.Known := by
  unfold setupWith
  cases setupSignature.bind positional named with
  | error e => exact known
  | ok bound => exact setup_known _ _ known

theorem step_known (known : s.Known) : (s.step a).1.Known := by
  cases a with
  | setup positional named => exact setupWith_known positional named known
  | addSilentHandler => exact known
  | log e time => exact known

theorem run_known (known : s.Known) : (s.run actions).Known := by
  induction actions generalizing s with
  | nil => exact known
  | cons a rest ih => exact ih (step_known known)

theorem settled_known (structured : Bool) (level : Int) : (settled structured level).Known := rfl

/-- After a setup nothing is left of what was before, and a second one changes nothing, unless the
name of the level is refused: then only the handlers are replaced. -/
theorem setup_forgets (text : String) (structured : Bool) :
    ((∀ e, ¬ Refused text e) → ∃ level, Asks text level ∧
      ∀ s : State, s.Known → ∀ actions,
        (s.run actions).setup (.str text) (.bool structured) = (settled structured level, .ok ()) ∧
        (settled structured level).setup (.str text) (.bool structured) =
          (settled structured level, .ok ())) ∧
    ∀ e, Refused text e → ∀ s : State,
      s.setup (.str text) (.bool structured) =
        ({ s with handlers := [some (formatFor structured)] }, .error (.level e)) := by
  constructor
  · intro proper
    obtain ⟨level, asked, found⟩ := levelOf_asked proper
    exact ⟨level, asked, fun s known actions =>
      ⟨setup_ok (run_known known) found, setup_ok (settled_known structured level) found⟩⟩
  · intro e refused s
    exact setup_error (levelOf_refused refused)

/-- A session in which a setup was refused and a handler came behind its own. -/
def disturbed : List Action :=
  [.setup [.str "_styles"] [], .addSilentHandler,
    .log { logger := "kopf", level := .int 40, message := .str "m" } "t"]

/-- A long s is an S in upper case. -/
theorem disturbed_setup_forgets :
    ({} : State).Known ∧ (({} : State).run disturbed).handlers = [some .structured, none] ∧
    ((({} : State).run disturbed).setup (.str "ba\u017fic_format") (.bool false)).2 =
      .error (.level (.unknownName basicLayout)) ∧
    ∃ level, Asks "warn" level ∧
      (({} : State).run disturbed).setup (.str "warn") (.bool false) =
        (settled false level, .ok ()) := by
  have proper : ∀ e, ¬ Refused "warn" e := by
    rintro e (upper | upper)
    · revert upper
      decide +kernel
    · revert upper
      decide +kernel
  obtain ⟨level, asked, forgets⟩ := (setup_forgets "warn" false).1 proper
  refine ⟨rfl, by decide +kernel, ?_, level, asked, (forgets {} rfl disturbed).1⟩
  rw [(setup_forgets "ba\u017fic_format" false).2 _ (.layout (by decide +kernel))]

/-- The handler is there, and the levels are what they were. -/
theorem refused_setup_half_applied :
    ({} : State).setup (.str "basic_format") (.bool true) =
      ({ handlers := [some .structured] }, .error (.level (.unknownName basicLayout))) := by
  rfl

end State
end ClusterAccess.Logging
