import ClusterAccess.Logging.Event
import ClusterAccess.Proofs.Json.RoundTrip
import ClusterAccess.Proofs.Trace

/-!
# Structured lines read back

The structured line of an event is one line of printable ASCII and one JSON object. What is read of
it are the members that the event shows, each once and in their order, with the values that the
event has (`structuredLine_read_back`). So no text in an event can end its line or add a member.
-/

namespace ClusterAccess.Logging.Event

open Text.Utf16

variable {e : Event} {time : String}

/-- The names of the attributes that a line shows. -/
def shownNames : List String := "levelname" :: "name" :: structuredFields

/-- The attributes that a line shows are plain values. -/
def Plain (e : Event) : Prop :=
  ∀ name ∈ shownNames, ∀ v, e.attribute? name = some v → v.Plain fun _ => True

/-- An event that lost its own parts has an attribute in the place of this one. -/
def Keeps (e : Event) (name : String) : Prop :=
  e.attributes.dropped = true → (e.attribute? name).isSome = true

/-- The message and the report can be made, and the level and the logger are there. -/
structure Collects (e : Event) (text : String) (report : Option String) : Prop where
  level : e.Keeps "levelname"
  logger : e.Keeps "name"
  text : e.text = .ok text
  report : e.report? = .ok report

/-- An event that can be formatted: its parts are there, and no attribute that is shown holds an
integer too long to be written. -/
structure Formats (e : Event) (text : String) (report : Option String) : Prop
    extends e.Collects text report where
  writable : ∀ name ∈ shownNames, ∀ v, e.attribute? name = some v → v.isShowable = true

/-- Whether an event comes with a failure: an attribute in its place decides. -/
def Fails (e : Event) : Prop :=
  match e.attribute? "exc_info" with
  | some v => v.truthy = true
  | none => e.failure.isSome = true

/-- The members that an event shows, with its message and its report. -/
def shownMembers (e : Event) (time text : String) (report : Option String) :
    List (String × Value) :=
  [("timestamp", .str time),
    ("level", (e.attribute? "levelname").getD (.str (levelName e.level))),
    ("logger", (e.attribute? "name").getD (.str e.logger)),
    ("message", .str text)] ++
  report.toList.map (fun r => ("exception", .str r)) ++
  structuredFields.filterMap fun name => (e.attribute? name).map fun v => (name, v)

/-! ### The parts of an event -/

theorem part_ok_iff {α : Type} {name : String} {own a : α} {read : Value → α} :
    e.part name own read = .ok a ↔
      e.Keeps name ∧ a = ((e.attribute? name).map read).getD own := by
  unfold Keeps attribute?
  refine mapError_ok.trans ?_
  unfold Storage.part
  cases found : e.attributes.find? name with
  | some v =>
    exact ⟨fun h => ⟨fun _ => rfl, (Except.ok.inj h).symm⟩, fun h => congrArg Except.ok h.2.symm⟩
  | none =>
    dsimp only
    split
    · rename_i dropped
      exact iff_of_false (fun h => nomatch h) fun h => nomatch h.1 dropped
    · rename_i own
      exact ⟨fun h => ⟨fun dropped => absurd dropped own, (Except.ok.inj h).symm⟩,
        fun h => congrArg Except.ok h.2.symm⟩

theorem reportOf_isSome {v : Value} {report : Option String} (h : reportOf v = .ok report) :
    report.isSome = true ↔ v.truthy = true := by
  unfold reportOf at h
  split at h
  · rename_i empty
    obtain rfl := Except.ok.inj h
    simpa using empty
  · rename_i given
    have truthy : v.truthy = true := by simpa using given
    have reported : report.isSome = true := by
      split at h
      · split at h <;> cases h
      · split at h
        · obtain rfl := Except.ok.inj h
          rfl
        · cases h
        · cases h
      · cases h
      · cases h
      · cases h
    exact iff_of_true reported truthy

theorem report?_isSome {report : Option String} (h : e.report? = .ok report) :
    report.isSome = true ↔ e.Fails := by
  obtain ⟨own, taken, found⟩ := result_bind_ok.mp h
  have answer := mapError_ok.mp found
  obtain ⟨_, place⟩ := part_ok_iff.mp taken
  unfold Fails
  cases replaced : e.attribute? "exc_info" with
  | some v =>
    rw [replaced, Option.map_some, Option.getD_some] at place
    exact reportOf_isSome (place ▸ answer)
  | none =>
    rw [replaced, Option.map_none, Option.getD_none] at place
    rw [place] at answer
    rw [← Except.ok.inj answer, Option.isSome_map]

theorem members_ok_iff {members : List (String × Value)} :
    e.members time = .ok members ↔
      ∃ text report, e.Collects text report ∧ members = e.shownMembers time text report := by
  constructor
  · intro h
    obtain ⟨level, leveled, h⟩ := result_bind_ok.mp h
    obtain ⟨logger, named, h⟩ := result_bind_ok.mp h
    obtain ⟨text, filled, h⟩ := result_bind_ok.mp h
    obtain ⟨report, reported, h⟩ := result_bind_ok.mp h
    obtain ⟨levelKept, level⟩ := part_ok_iff.mp leveled
    obtain ⟨loggerKept, logger⟩ := part_ok_iff.mp named
    refine ⟨text, report, ⟨levelKept, loggerKept, filled, reported⟩, ?_⟩
    rw [Option.map_id] at level logger
    rw [← Except.ok.inj h, level, logger]
    cases report <;> rfl
  · rintro ⟨text, report, collects, rfl⟩
    refine result_bind_ok.mpr ⟨_, part_ok_iff.mpr ⟨collects.level, rfl⟩, ?_⟩
    refine result_bind_ok.mpr ⟨_, part_ok_iff.mpr ⟨collects.logger, rfl⟩, ?_⟩
    refine result_bind_ok.mpr ⟨text, collects.text, ?_⟩
    refine result_bind_ok.mpr ⟨report, collects.report, ?_⟩
    rw [Option.map_id]
    cases report <;> rfl

/-! ### Members and their names -/

/-- The names that members of a line have. -/
def memberNames : List String :=
  ["timestamp", "level", "logger", "message", "exception"] ++ structuredFields

theorem mem_fields {m : String × Value}
    (member : m ∈ structuredFields.filterMap fun name => (e.attribute? name).map fun v => (name, v)) :
    m.1 ∈ structuredFields ∧ e.attribute? m.1 = some m.2 := by
  obtain ⟨name, listed, found⟩ := List.mem_filterMap.mp member
  obtain ⟨v, held, rfl⟩ := Option.map_eq_some_iff.mp found
  exact ⟨listed, held⟩

/-- What holds of all texts and of the attributes that are shown holds of all members. -/
theorem forall_shownMembers {P : Value → Prop} (texts : ∀ s, P (.str s))
    (attributes : ∀ name ∈ shownNames, ∀ v, e.attribute? name = some v → P v)
    {text : String} {report : Option String} :
    ∀ m ∈ e.shownMembers time text report, P m.2 := by
  have replaced {name own : String} (shown : name ∈ shownNames) :
      P ((e.attribute? name).getD (.str own)) := by
    cases held : e.attribute? name with
    | some v => exact attributes name shown v held
    | none => exact texts own
  intro m member
  unfold shownMembers at member
  rcases List.mem_append.mp member with member | field
  · rcases List.mem_append.mp member with start | exception
    · simp only [List.mem_cons, List.not_mem_nil, or_false] at start
      rcases start with rfl | rfl | rfl | rfl
      · exact texts time
      · exact replaced List.mem_cons_self
      · exact replaced (List.mem_cons_of_mem _ List.mem_cons_self)
      · exact texts text
    · obtain ⟨r, _, rfl⟩ := List.mem_map.mp exception
      exact texts r
  · obtain ⟨listed, held⟩ := mem_fields field
    exact attributes _ (List.mem_cons_of_mem _ (List.mem_cons_of_mem _ listed)) _ held

/-- An attribute that is shown is the value of a member. -/
theorem mem_shownMembers {name : String} {v : Value} (shown : name ∈ shownNames)
    (held : e.attribute? name = some v) (time text : String) (report : Option String) :
    ∃ m ∈ e.shownMembers time text report, m.2 = v := by
  unfold shownMembers
  rcases List.mem_cons.mp shown with rfl | shown
  · exact ⟨("level", v), by simp [held], rfl⟩
  · rcases List.mem_cons.mp shown with rfl | listed
    · exact ⟨("logger", v), by simp [held], rfl⟩
    · refine ⟨(name, v), List.mem_append_right _ (List.mem_filterMap.mpr ⟨name, listed, ?_⟩), rfl⟩
      rw [held]
      rfl

theorem showable_ofFields_iff {fields : List (String × Value)} :
    (Value.ofFields fields).isShowable = true ↔ ∀ m ∈ fields, m.2.isShowable = true := by
  have entries : (Value.ofFields fields).isShowable =
      Value.areEntriesShowable (fields.map fun m => (.str m.1, m.2)) := rfl
  rw [entries, Json.areEntriesShowable_iff, List.forall_mem_map]
  exact forall₂_congr fun m _ => and_iff_right rfl

theorem names_sublist (e : Event) (time text : String) (report : Option String) :
    ((e.shownMembers time text report).map Prod.fst).Sublist memberNames := by
  unfold shownMembers memberNames
  rw [List.map_append, List.map_append]
  refine List.Sublist.append ?_ ?_
  · cases report with
    | none => exact List.Sublist.append (List.Sublist.refl _) (List.nil_sublist _)
    | some r => exact List.Sublist.refl _
  · induction structuredFields with
    | nil => exact List.Sublist.refl _
    | cons name names ih =>
      rw [List.filterMap_cons]
      cases e.attribute? name with
      | none => exact ih.cons name
      | some v => exact ih.cons_cons name

theorem names_nodup (e : Event) (time text : String) (report : Option String) :
    ((e.shownMembers time text report).map Prod.fst).Nodup :=
  (names_sublist e time text report).nodup (by decide)

/-- Names of members are read as they were written. -/
theorem paired_name : ∀ name ∈ memberNames, paired name = name := by
  decide +kernel

theorem shownObject_plain (plain : e.Plain) (time text : String) (report : Option String) :
    (Value.ofFields (e.shownMembers time text report)).Plain fun _ => True :=
  Value.Plain.ofFields (fun _ _ => trivial) (forall_shownMembers (fun _ => .str trivial) plain)

/-- An event that can be formatted has a line. It is printable ASCII and one object, whose members
are those that the event shows, each once and in their order. The values are the event's, with texts
as their units spell them, and unchanged if all of them are whole. No other event has a line. -/
theorem structuredLine_read_back (plain : e.Plain) (time : String) :
    (∀ text report, e.Formats text report →
      ∃ line, e.structuredLine time = .ok line ∧ (∀ c ∈ line.toList, Json.Printable c) ∧
        (report.isSome = true ↔ e.Fails) ∧
        ((e.shownMembers time text report).map Prod.fst).Nodup ∧
        Json.parse? line = some (.ofFields ((e.shownMembers time text report).map fun m =>
          (m.1, m.2.withTexts paired))) ∧
        ((∀ m ∈ e.shownMembers time text report, m.2.Plain Whole) →
          Json.parse? line = some (.ofFields ((e.shownMembers time text report).map fun m =>
            (m.1, m.2.shown))))) ∧
    ∀ line, e.structuredLine time = .ok line → ∃ text report, e.Formats text report := by
  refine ⟨fun text report formats => ?_, fun line written => ?_⟩
  · have collected : e.members time = .ok (e.shownMembers time text report) :=
      members_ok_iff.mpr ⟨text, report, formats.toCollects, rfl⟩
    have showable : (Value.ofFields (e.shownMembers time text report)).isShowable = true :=
      showable_ofFields_iff.mpr (forall_shownMembers (fun _ => rfl) formats.writable)
    obtain ⟨line, dumped, printable, read⟩ :=
      Json.parse?_write (shownObject_plain plain time text report) showable
    have names (m : String × Value) (member : m ∈ e.shownMembers time text report) :
        paired m.1 = m.1 :=
      paired_name m.1 ((names_sublist e time text report).subset (List.mem_map_of_mem member))
    rw [Value.withTexts_ofFields names] at read
    refine ⟨line, result_bind_ok.mpr ⟨_, collected, mapError_ok.mpr dumped⟩, printable,
      report?_isSome formats.report, names_nodup e time text report, read, fun whole => ?_⟩
    rw [read]
    congr 2
    refine List.map_congr_left fun m member => ?_
    rw [Value.withTexts_of_whole (whole m member)]
  · obtain ⟨members, collected, dumped⟩ := result_bind_ok.mp written
    obtain ⟨text, report, collects, rfl⟩ := members_ok_iff.mp collected
    have admitted := Json.admits_of_write (shownObject_plain plain time text report)
      (mapError_ok.mp dumped)
    have showable := (Json.admits_iff.mp admitted).resolve_right Bool.false_ne_true
    refine ⟨text, report, collects, fun name shown v held => ?_⟩
    obtain ⟨m, member, rfl⟩ := mem_shownMembers shown held time text report
    exact showable_ofFields_iff.mp showable m member

theorem mem_of_attribute? {name : String} {v : Value} (found : e.attribute? name = some v) :
    ∃ key, (key, v) ∈ e.attributes.entries := by
  obtain ⟨entry, held, rfl⟩ := Option.map_eq_some_iff.mp found
  exact ⟨entry.1, List.mem_of_find?_eq_some held⟩

/-- An event with a quote, a line end, a backslash, a tab and a character of two units, and with an
attribute that lines do not show. -/
def markedEvent : Event :=
  { logger := "say \"hi\"", level := .int info, message := .str "two\nlines: %s"
    arguments := .row [.str "\\"]
    attributes := { entries :=
      [(.str "context", .map [(.str "\t", .list [.int (-7), .null, .str "😀"])]),
        (.str "resource_type", .kind ResourceKind.deployment), (.str "other", .null)] } }

theorem whole_text (s : String) (none : s.toList.all (fun c => (surrogate? c).isNone) = true) :
    Value.Plain Whole (.str s) :=
  .str (whole_of_all none)

theorem markedEvent_whole : ∀ a ∈ markedEvent.attributes.entries, a.2.Plain Whole := by
  intro a member
  simp only [markedEvent, List.mem_cons, List.not_mem_nil, or_false] at member
  rcases member with rfl | rfl | rfl
  · refine .map (fun e here => ?_) fun e here => ?_ <;>
      obtain rfl := List.mem_singleton.mp here
    · exact ⟨"\t", rfl, whole_of_all (by decide +kernel)⟩
    · refine .list fun x item => ?_
      simp only [List.mem_cons, List.not_mem_nil, or_false] at item
      rcases item with rfl | rfl | rfl
      · exact .int _
      · exact .null
      · exact whole_text _ (by decide +kernel)
  · exact .kind (whole_of_all (by decide +kernel))
  · exact .null

theorem markedEvent_members :
    markedEvent.shownMembers "now" "two\nlines: \\" none =
      [("timestamp", .str "now"), ("level", .str "INFO"), ("logger", .str "say \"hi\""),
        ("message", .str "two\nlines: \\"), ("resource_type", .kind ResourceKind.deployment),
        ("context", .map [(.str "\t", .list [.int (-7), .null, .str "😀"])])] := by
  cbv

theorem markedEvent_text : markedEvent.text = .ok "two\nlines: \\" := by
  have filled : markedEvent.text.toOption = some "two\nlines: \\" := by decide +kernel
  cases made : markedEvent.text with
  | error e =>
    rw [made] at filled
    cases filled
  | ok text =>
    rw [made] at filled
    exact congrArg Except.ok (Option.some.inj filled)

theorem markedEvent_writable : ∀ name ∈ shownNames, ∀ v, markedEvent.attribute? name = some v →
    v.isShowable = true := by
  intro name _ v found
  obtain ⟨key, member⟩ := mem_of_attribute? found
  have all : ∀ a ∈ markedEvent.attributes.entries, a.2.isShowable = true := by decide +kernel
  exact all _ member

/-- The marks stay inside their texts. -/
theorem marked_line_read_back :
    markedEvent.Plain ∧ markedEvent.Formats "two\nlines: \\" none ∧
    ∃ line, markedEvent.structuredLine "now" = .ok line ∧
      (∀ c ∈ line.toList, Json.Printable c) ∧
      Json.parse? line = some (.ofFields
        [("timestamp", .str "now"), ("level", .str "INFO"), ("logger", .str "say \"hi\""),
          ("message", .str "two\nlines: \\"), ("resource_type", .str "apps/v1/deployments"),
          ("context", .map [(.str "\t", .list [.int (-7), .null, .str "😀"])])]) := by
  have plain : markedEvent.Plain := by
    intro name _ v found
    obtain ⟨key, member⟩ := mem_of_attribute? found
    exact (markedEvent_whole _ member).mono fun _ _ => trivial
  have formats : markedEvent.Formats "two\nlines: \\" none :=
    ⟨⟨(nomatch ·), (nomatch ·), markedEvent_text, by cbv⟩, markedEvent_writable⟩
  obtain ⟨line, written, printable, _, _, _, whole⟩ :=
    (structuredLine_read_back plain "now").1 _ _ formats
  rw [markedEvent_members] at whole
  refine ⟨plain, formats, line, written, printable, whole ?_⟩
  intro m member
  simp only [List.mem_cons, List.not_mem_nil, or_false] at member
  rcases member with rfl | rfl | rfl | rfl | rfl | rfl
  · exact whole_text _ (by decide +kernel)
  · exact whole_text _ (by decide +kernel)
  · exact whole_text _ (by decide +kernel)
  · exact whole_text _ (by decide +kernel)
  · exact markedEvent_whole _ (List.mem_cons_of_mem _ List.mem_cons_self)
  · exact markedEvent_whole _ List.mem_cons_self

end ClusterAccess.Logging.Event
