import ClusterAccess.Proofs.Resolution.Consulted
import ClusterAccess.Proofs.Resolution.Contract
import ClusterAccess.Proofs.World

/-!
# Discovering a configuration

The names that are searched are the given one, or those that the environment lists, or else the
default. The first that stands for a file is located, unless a name in front of it cannot be looked
up at all: one with a tilde that stands for no home, one that is no text, one that is too long, or
one that leads through a closed folder (`locate_discovers_iff`).
-/

namespace ClusterAccess

/-! ### The pieces of a text -/

namespace Text

variable {sep : Char} {l : List Char}

theorem pieces_of_free (free : sep ∉ l) : pieces sep l = [l] := by
  induction l with
  | nil => rfl
  | cons c rest ih =>
    rw [List.mem_cons, not_or] at free
    rw [pieces, if_neg (Ne.symm free.1), ih free.2]

theorem pieces_append (free : sep ∉ l) (rest : List Char) :
    pieces sep (l ++ sep :: rest) = l :: pieces sep rest := by
  induction l with
  | nil => rw [List.nil_append, pieces, if_pos rfl]
  | cons c cs ih =>
    rw [List.mem_cons, not_or] at free
    rw [List.cons_append, pieces, if_neg (Ne.symm free.1), ih free.2]

/-- What is joined by separators falls into the same pieces again. -/
theorem pieces_intercalate {ls : List (List Char)} (free : ∀ l ∈ ls, sep ∉ l) (some : ls ≠ []) :
    pieces sep ([sep].intercalate ls) = ls := by
  induction ls with
  | nil => exact absurd rfl some
  | cons l rest ih =>
    obtain ⟨first, others⟩ := List.forall_mem_cons.mp free
    cases rest with
    | nil =>
      rw [List.intercalate_singleton]
      exact pieces_of_free first
    | cons l' rest =>
      rw [List.intercalate_cons_cons, List.append_assoc]
      change pieces sep (l ++ sep :: [sep].intercalate (l' :: rest)) = _
      rw [pieces_append first, ih others (List.cons_ne_nil _ _)]

end Text

/-! ### Paths -/

theorem FilePath.text_ne_empty {p : FilePath} (proper : "" ∉ p.parts) : p.text ≠ "" := by
  unfold text
  split
  · decide
  · rename_i some
    intro empty
    obtain ⟨root, parts⟩ := String.append_eq_empty_iff.mp empty
    cases names : p.parts with
    | nil => exact some ⟨root, names⟩
    | cons name rest =>
      rw [names] at proper parts
      have filled : name ≠ "" := fun same => proper (same ▸ List.mem_cons_self)
      cases rest with
      | nil =>
        rw [String.intercalate_singleton] at parts
        exact filled parts
      | cons next rest =>
        rw [String.intercalate_cons_cons, String.append_assoc] at parts
        exact filled (String.append_eq_empty_iff.mp parts).1

theorem FilePath.proper_ofString (s : String) : "" ∉ (FilePath.ofString s).parts := by
  intro member
  have kept := (List.mem_filter.mp member).2
  cases kept

namespace World

variable {w : World} {p : FilePath} {v : Value}

theorem proper_of_expandHome {q : FilePath} (proper : "" ∉ p.parts)
    (h : w.expandHome p = .ok q) : "" ∉ q.parts := by
  unfold expandHome at h
  split at h
  · rw [← Except.ok.inj h]
    exact proper
  · rename_i name rest names
    split at h
    · obtain ⟨home, _, h⟩ := result_bind_ok.mp h
      dsimp only at h
      split at h
      · cases h
      · rw [← Except.ok.inj h]
        rw [names] at proper
        exact fun member => (List.mem_append.mp member).elim (FilePath.proper_ofString _)
          fun member => proper (List.mem_cons_of_mem _ member)
    · rw [← Except.ok.inj h]
      exact proper

theorem text_ne_empty_of_named (h : w.namedPath v = .ok p) : p.text ≠ "" := by
  unfold namedPath at h
  obtain ⟨q, read, h⟩ := result_bind_ok.mp h
  unfold FilePath.ofValue at read
  split at read
  · obtain rfl := Except.ok.inj read
    have expanded := mapError_ok.mp h
    exact FilePath.text_ne_empty (proper_of_expandHome (FilePath.proper_ofString _) expanded)
  · cases read

/-- A tilde with a name that no account has stands for no home. -/
theorem homeFor_of_stranger {name : String} (other : name.toList ≠ ['~'])
    (written : unwritten? (String.ofList name.toList.tail) = none)
    (plain : '\x00' ∉ name.toList.tail) (stranger : w.accounts = []) :
    w.homeFor name = .error .unknown := by
  unfold homeFor
  split
  · rename_i lone
    exact absurd lone other
  · unfold accountHome
    rw [List.drop_one, written, stranger]
    simpa using plain

/-- A path leads to a file, readable or not. -/
def LeadsToFile (w : World) (p : FilePath) : Prop :=
  unnameable p = false ∧ ∃ contents, w.stat p = .ok (.file contents)

theorem isFile_true_iff : w.isFile p = .ok true ↔ w.LeadsToFile p := by
  unfold isFile LeadsToFile
  rw [ask_true_iff]
  constructor
  · rintro ⟨nameable, node, there, file⟩
    cases node with
    | file contents => exact ⟨nameable, contents, there⟩
    | folder closed => cases file
  · rintro ⟨nameable, contents, there⟩
    exact ⟨nameable, _, there, rfl⟩

theorem isFile_error_iff {e : FileError} :
    w.isFile p = .error e ↔ ∃ c, w.Refuses p c ∧ e = ⟨c, p.text⟩ := ask_error_iff

end World

namespace Kubeconfig

/-! ### Names -/

/-- The names that are searched, in order: the given one alone, or the entries of the environment
variable, or else the default alone. -/
def searched (w : World) (path : Value) : List Value :=
  let entries := listed ((w.environment? listVariable).getD "")
  if path.truthy then [path]
  else if entries.isEmpty then [.str defaultPath]
  else entries.map Value.str

/-- A name stands for the path of a file. -/
def Finds (w : World) (name : Value) (p : FilePath) : Prop :=
  w.namedPath name = .ok p ∧ w.LeadsToFile p

/-- A name that cannot be looked up, for its tilde, because it is no text, or because its path is
too long or leads through a closed folder. -/
inductive Blocks (w : World) (name : Value) : Failure → Prop
  | path {e : Failure} : PathStumbles w name e → Blocks w name e
  | refused {p : FilePath} {c : FileCause} : w.namedPath name = .ok p → w.Refuses p c →
    Blocks w name (.file ⟨c, p.text⟩)

/-- A name that is looked up, and stands for no file. -/
def Lacks (w : World) (name : Value) : Prop :=
  (∀ p, ¬ Finds w name p) ∧ ∀ e, ¬ Blocks w name e

/-- The first of the names that stand for files stands for this one. -/
def FirstFound (w : World) (names : List Value) (p : FilePath) : Prop :=
  ∃ before name after, names = before ++ name :: after ∧ Finds w name p ∧
    ∀ n ∈ before, ∀ q, ¬ Finds w n q

/-- A name that cannot be looked up stands in front of every name that stands for a file. -/
def Obstructs (w : World) (names : List Value) (e : Failure) : Prop :=
  ∃ before name after, names = before ++ name :: after ∧ Blocks w name e ∧
    ∀ n ∈ before, Lacks w n

/-- The fault of a configuration that is not there, with the path where it was looked for. -/
def NotThere (e : Failure) : Prop :=
  ∃ f shown, e = .fault f ∧ f.rank = .kubeconfig ∧ f.path = .str shown ∧ shown ≠ ""

/-- The first file that a name stands for is located, a fault that names a path says that there is
none, and it never comes to anything else. -/
structure Discovers (w : World) (path : Value) : Prop where
  found : ∀ p, locate w path = .ok p ↔ FirstFound w (searched w path) p
  missing : (∃ e, locate w path = .error e) ↔ ∀ name ∈ searched w path, ∀ p, ¬ Finds w name p
  fault : ∀ e, locate w path = .error e → NotThere e

variable {w w' : World} {path name : Value} {names : List Value} {p : FilePath} {e : Failure}

/-! ### The answers to one name -/

/-- A name is looked up, and its path tested for a file. -/
def lookUp (w : World) (name : Value) : Except Failure (FilePath × Bool) := do
  let p ← w.namedPath name
  let there ← isFile w p
  pure (p, there)

theorem isFile_ok_iff {there : Bool} :
    isFile w p = .ok there ↔ w.isFile p = .ok there := mapError_ok

theorem lookUp_true_iff : lookUp w name = .ok (p, true) ↔ Finds w name p := by
  unfold lookUp Finds
  rw [← World.isFile_true_iff, ← isFile_ok_iff]
  constructor
  · intro h
    obtain ⟨q, named, h⟩ := result_bind_ok.mp h
    obtain ⟨there, answer, h⟩ := result_bind_ok.mp h
    obtain ⟨rfl, rfl⟩ := Prod.mk.inj (Except.ok.inj h)
    exact ⟨named, answer⟩
  · rintro ⟨named, answer⟩
    exact result_bind_ok.mpr ⟨p, named, result_bind_ok.mpr ⟨true, answer, rfl⟩⟩

theorem lookUp_error_iff : lookUp w name = .error e ↔ Blocks w name e := by
  unfold lookUp
  constructor
  · intro h
    rcases result_bind_error.mp h with unnamed | ⟨p, named, h⟩
    · exact .path (namedPath_error.mp unnamed)
    · rcases result_bind_error.mp h with failed | ⟨_, _, h⟩
      · obtain ⟨e', answer, rfl⟩ := mapError_error.mp failed
        obtain ⟨c, refused, rfl⟩ := World.isFile_error_iff.mp answer
        exact .refused named refused
      · cases h
  · intro blocks
    cases blocks with
    | path stumbles => exact result_bind_error.mpr (.inl (namedPath_error.mpr stumbles))
    | refused named refused =>
      refine result_bind_error.mpr (.inr ⟨_, named, result_bind_error.mpr (.inl ?_)⟩)
      exact mapError_error.mpr ⟨_, World.isFile_error_iff.mpr ⟨_, refused, rfl⟩, rfl⟩

theorem lookUp_false_iff : (∃ p, lookUp w name = .ok (p, false)) ↔ Lacks w name := by
  unfold Lacks
  simp only [← lookUp_true_iff, ← lookUp_error_iff]
  cases lookUp w name with
  | error e => simp
  | ok answer =>
    obtain ⟨p, there⟩ := answer
    cases there <;> simp

/-! ### The search -/

/-- The first of the names that stands for a file. -/
def search (w : World) : List Value → Except Failure (Option FilePath)
  | [] => .ok none
  | name :: rest => do
    let (p, there) ← lookUp w name
    if there then pure (some p) else search w rest

theorem firstFile_eq (w : World) (entries : List String) :
    firstFile w entries = search w (entries.map Value.str) := by
  induction entries with
  | nil => rfl
  | cons s rest ih =>
    rw [List.map_cons, search, firstFile]
    unfold lookUp
    cases w.namedPath (.str s) with
    | error e => rfl
    | ok p =>
      change (isFile w p >>= _) = ((isFile w p >>= fun there => pure (p, there)) >>= _)
      cases isFile w p with
      | error e => rfl
      | ok there =>
        cases there with
        | true => rfl
        | false => exact ih

theorem search_cons_found (found : Finds w name p) (rest : List Value) :
    search w (name :: rest) = .ok (some p) := by
  rw [search, lookUp_true_iff.mpr found]
  rfl

theorem search_cons_lacking (lacks : Lacks w name) (rest : List Value) :
    search w (name :: rest) = search w rest := by
  obtain ⟨p, answer⟩ := lookUp_false_iff.mpr lacks
  rw [search, answer]
  rfl

theorem search_cons_blocked (blocks : Blocks w name e) (rest : List Value) :
    search w (name :: rest) = .error e := by
  rw [search, lookUp_error_iff.mpr blocks]
  rfl

theorem search_append {before : List Value} (lacks : ∀ n ∈ before, Lacks w n)
    (rest : List Value) : search w (before ++ rest) = search w rest := by
  induction before with
  | nil => rfl
  | cons n others ih =>
    obtain ⟨first, later⟩ := List.forall_mem_cons.mp lacks
    rw [List.cons_append, search_cons_lacking first, ih later]

/-- Each name is found, lacking or blocked; the first that is not lacking decides. -/
theorem search_cases (w : World) (names : List Value) :
    ((∀ n ∈ names, Lacks w n) ∧ search w names = .ok none) ∨
      ∃ before name after, names = before ++ name :: after ∧ (∀ n ∈ before, Lacks w n) ∧
        ((∃ p, Finds w name p ∧ search w names = .ok (some p)) ∨
          ∃ e, Blocks w name e ∧ search w names = .error e) := by
  induction names with
  | nil => exact .inl ⟨by simp, rfl⟩
  | cons name rest ih =>
    cases answer : lookUp w name with
    | error e =>
      have blocks := lookUp_error_iff.mp answer
      exact .inr ⟨[], name, rest, rfl, by simp, .inr ⟨e, blocks, search_cons_blocked blocks rest⟩⟩
    | ok answered =>
      obtain ⟨p, there⟩ := answered
      cases there with
      | true =>
        have found := lookUp_true_iff.mp answer
        exact .inr ⟨[], name, rest, rfl, by simp, .inl ⟨p, found, search_cons_found found rest⟩⟩
      | false =>
        have lacks := lookUp_false_iff.mp ⟨p, answer⟩
        rw [search_cons_lacking lacks]
        rcases ih with ⟨others, none⟩ | ⟨before, n, after, rfl, others, ends⟩
        · exact .inl ⟨List.forall_mem_cons.mpr ⟨lacks, others⟩, none⟩
        · exact .inr ⟨name :: before, n, after, rfl, List.forall_mem_cons.mpr ⟨lacks, others⟩, ends⟩

theorem search_error_iff : search w names = .error e ↔ Obstructs w names e := by
  constructor
  · intro h
    rcases search_cases w names with ⟨_, none⟩ | ⟨before, n, after, same, lacks, ends⟩
    · rw [h] at none
      cases none
    · rcases ends with ⟨p, _, found⟩ | ⟨e', blocks, failed⟩
      · rw [h] at found
        cases found
      · obtain rfl := Except.error.inj (h.symm.trans failed)
        exact ⟨before, n, after, same, blocks, lacks⟩
  · rintro ⟨before, n, after, rfl, blocks, lacks⟩
    rw [search_append lacks, search_cons_blocked blocks]

/-- Without a name in the way, names that stand for no file are lacking. -/
theorem lacks_of_unfound (clear : ∀ e, ¬ Obstructs w names e) {before after : List Value}
    (same : names = before ++ after) (unfound : ∀ n ∈ before, ∀ q, ¬ Finds w n q) :
    ∀ n ∈ before, Lacks w n := by
  rcases search_cases w before with ⟨lacks, _⟩ | ⟨first, n, rest, rfl, lacks, ends⟩
  · exact lacks
  · rcases ends with ⟨p, found, _⟩ | ⟨e, blocks, _⟩
    · exact absurd found (unfound n (by simp) p)
    · refine (clear e ⟨first, n, rest ++ after, ?_, blocks, lacks⟩).elim
      rw [same, List.append_assoc, List.cons_append]

section Clear

variable (clear : ∀ e, ¬ Obstructs w names e)
include clear

theorem search_some_iff : search w names = .ok (some p) ↔ FirstFound w names p := by
  constructor
  · intro h
    rcases search_cases w names with ⟨_, none⟩ | ⟨before, n, after, same, lacks, ends⟩
    · rw [h] at none
      cases none
    · rcases ends with ⟨q, finds, found⟩ | ⟨_, _, failed⟩
      · obtain rfl := Option.some.inj (Except.ok.inj (h.symm.trans found))
        exact ⟨before, n, after, same, finds, fun m member => (lacks m member).1⟩
      · rw [h] at failed
        cases failed
  · rintro ⟨before, n, after, same, finds, unfound⟩
    rw [same, search_append (lacks_of_unfound clear same unfound), search_cons_found finds]

theorem search_none_iff :
    search w names = .ok none ↔ ∀ name ∈ names, ∀ p, ¬ Finds w name p := by
  constructor
  · intro h
    rcases search_cases w names with ⟨lacks, _⟩ | ⟨_, _, _, _, _, ⟨_, _, found⟩ | ⟨_, _, failed⟩⟩
    · exact fun n member => (lacks n member).1
    · rw [h] at found
      cases found
    · rw [h] at failed
      cases failed
  · intro unfound
    have lacks := lacks_of_unfound clear (List.append_nil names).symm unfound
    have skipped := search_append lacks []
    rwa [List.append_nil] at skipped

end Clear

/-! ### Locating is searching -/

/-- An outcome is that of a search, with a fault where it found nothing. -/
inductive Concludes (outcome : Except Failure FilePath) : Except Failure (Option FilePath) → Prop
  | found {p : FilePath} : outcome = .ok p → Concludes outcome (.ok (some p))
  | nothing {e : Failure} : outcome = .error e → NotThere e → Concludes outcome (.ok none)
  | failed {e : Failure} : outcome = .error e → Concludes outcome (.error e)

theorem missing_notThere (named : w.namedPath name = .ok p) : NotThere (missing p) :=
  ⟨_, p.text, rfl, rfl, rfl, World.text_ne_empty_of_named named⟩

theorem only_concludes (w : World) (name : Value) : Concludes (only w name) (search w [name]) := by
  unfold search lookUp only
  cases named : w.namedPath name with
  | error e => exact .failed rfl
  | ok p =>
    change Concludes (isFile w p >>= _) ((isFile w p >>= fun there => pure (p, there)) >>= _)
    cases isFile w p with
    | error e => exact .failed rfl
    | ok there =>
      cases there with
      | true => exact .found rfl
      | false => exact .nothing rfl (missing_notThere named)

theorem locate_concludes (w : World) (path : Value) :
    Concludes (locate w path) (search w (searched w path)) := by
  unfold locate searched
  dsimp only
  split
  · exact only_concludes w path
  · generalize (w.environment? listVariable).getD "" = value
    rw [firstFile_eq]
    cases entries : listed value with
    | nil => exact only_concludes w (.str defaultPath)
    | cons s rest =>
      simp only [List.isEmpty_cons, Bool.false_eq_true, ↓reduceIte]
      cases search w ((s :: rest).map Value.str) with
      | error e => exact .failed rfl
      | ok found =>
        cases found with
        | some p => exact .found rfl
        | none =>
          -- The fault names the variable's value, which lists something and so is not empty.
          refine .nothing rfl ⟨_, value, rfl, rfl, rfl, ?_⟩
          rintro rfl
          cases entries

theorem listed_intercalate {entries : List String} (free : ∀ s ∈ entries, ':' ∉ s.toList) :
    listed (":".intercalate entries) = entries.filter (· != "") := by
  cases entries with
  | nil => rfl
  | cons s rest =>
    have separated : ∀ l ∈ (s :: rest).map String.toList, ':' ∉ l := by
      simpa only [List.forall_mem_map] using free
    have split : Text.split ':' (":".intercalate (s :: rest)) = s :: rest := by
      unfold Text.split
      rw [String.toList_intercalate]
      change ((Text.pieces ':' ([':'].intercalate _)).map String.ofList) = _
      rw [Text.pieces_intercalate separated (by simp), List.map_map]
      simp [Function.comp_def]
    unfold listed
    rw [split]

/-- Entries that the environment lists are searched in order, without the empty ones. -/
theorem searched_of_entries {entries : List String} (free : ∀ s ∈ entries, ':' ∉ s.toList)
    (absent : path.truthy = false)
    (given : w.environment? listVariable = some (":".intercalate entries)) :
    searched w path = if (entries.filter (· != "")).isEmpty then [.str defaultPath]
      else (entries.filter (· != "")).map Value.str := by
  unfold searched
  rw [given, Option.getD_some, listed_intercalate free, absent]
  rfl

theorem mem_tried {entries : List String} (h : p ∈ tried w entries) :
    ∃ s ∈ entries, w.namedPath (.str s) = .ok p := by
  induction entries with
  | nil => cases h
  | cons s rest ih =>
    unfold tried at h
    split at h
    · cases h
    · rename_i q named
      rcases List.mem_cons.mp h with rfl | later
      · exact ⟨s, List.mem_cons_self, named⟩
      · split at later
        · obtain ⟨s', member, named'⟩ := ih later
          exact ⟨s', List.mem_cons_of_mem s member, named'⟩
        · cases later

theorem named_of_toOption (h : p ∈ (w.namedPath name).toOption.toList) :
    w.namedPath name = .ok p := by
  cases named : w.namedPath name with
  | error e =>
    rw [named] at h
    cases h
  | ok q =>
    rw [named] at h
    rw [List.mem_singleton.mp h]

/-- What is asked about is what a name that is searched stands for. -/
theorem mem_candidates (h : p ∈ candidates w path) :
    ∃ name ∈ searched w path, w.namedPath name = .ok p := by
  unfold candidates at h
  unfold searched
  dsimp only at h ⊢
  split at h
  · rename_i given
    rw [if_pos given]
    exact ⟨path, List.mem_singleton_self path, named_of_toOption h⟩
  · rename_i absent
    rw [if_neg absent]
    split at h
    · rename_i none
      rw [if_pos none]
      exact ⟨_, List.mem_singleton_self _, named_of_toOption h⟩
    · rename_i some
      rw [if_neg some]
      obtain ⟨s, member, named⟩ := mem_tried h
      exact ⟨.str s, List.mem_map_of_mem member, named⟩

/-! ### What is located -/

theorem NotThere.not_blocks (h : NotThere e) : ¬ Blocks w name e := by
  obtain ⟨f, _, rfl, _⟩ := h
  intro blocks
  cases blocks with
  | path stumbles => cases stumbles.unexpected

theorem locate_of_obstructed (h : Obstructs w (searched w path) e) :
    locate w path = .error e ∧ ¬ NotThere e := by
  have failed := search_error_iff.mpr h
  have concludes := locate_concludes w path
  rw [failed] at concludes
  cases concludes with
  | failed located =>
    obtain ⟨_, _, _, _, blocks, _⟩ := h
    exact ⟨located, fun there => there.not_blocks blocks⟩

theorem discovers_of_clear (clear : ∀ e, ¬ Obstructs w (searched w path) e) :
    Discovers w path := by
  have some_iff (p : FilePath) := search_some_iff (p := p) clear
  have none_iff := search_none_iff clear
  have concludes := locate_concludes w path
  -- The outcome repeats that of the search, so what the search finds decides all three parts.
  cases result : search w (searched w path) with
  | error e => exact (clear e (search_error_iff.mp result)).elim
  | ok found =>
    rw [result] at some_iff none_iff concludes
    cases concludes with
    | @found p located =>
      refine ⟨fun q => ?_, ?_, fun e failed => ?_⟩
      · rw [located, ← some_iff]
        simp
      · rw [located, ← none_iff]
        simp
      · rw [located] at failed
        cases failed
    | nothing failed there =>
      refine ⟨fun q => ?_, ?_, fun e failed' => ?_⟩
      · rw [failed, ← some_iff]
        simp
      · rw [failed, ← none_iff]
        simp
      · rw [← Except.error.inj (failed.symm.trans failed')]
        exact there

/-- A configuration is discovered by the rule exactly if no name is in the way of it. A name in the
way ends the search in a failure of its own. The names are the entries that the environment lists,
in order, and only without any the default; nothing but what they stand for is asked about. -/
theorem locate_discovers_iff (w : World) (path : Value) :
    (Discovers w path ↔ ∀ e, ¬ Obstructs w (searched w path) e) ∧
    (∀ e, Obstructs w (searched w path) e → locate w path = .error e ∧ ¬ NotThere e) ∧
    (∀ entries : List String, (∀ s ∈ entries, ':' ∉ s.toList) → path.truthy = false →
      w.environment? listVariable = some (":".intercalate entries) →
      searched w path = if (entries.filter (· != "")).isEmpty then [.str defaultPath]
        else (entries.filter (· != "")).map Value.str) ∧
    ∀ w', SameHomes w w' →
      (∀ name ∈ searched w path, ∀ p, w.namedPath name = .ok p → w'.isFile p = w.isFile p) →
      locate w' path = locate w path := by
  refine ⟨⟨fun discovers e obstructs => ?_, discovers_of_clear⟩, fun e => locate_of_obstructed,
    fun entries free absent given => searched_of_entries free absent given, fun w' homes asks => ?_⟩
  · obtain ⟨failed, unlike⟩ := locate_of_obstructed obstructs
    exact unlike (discovers.fault e failed)
  · refine locate_congr homes fun p member => ?_
    obtain ⟨name, searches, named⟩ := mem_candidates member
    exact asks name searches p named

/-- Surroundings that list a missing file, a folder and nothing in front of a file, some of them
from the root and one in the home of the account. -/
def listedWorld : World :=
  { directory := ["srv"]
    files := [(["root", "kube"], .bytes [])]
    folders := [["srv", "dir"]]
    environment := [("KUBECONFIG", "/no:dir::~/kube")]
    ownHome := some "/root" }

theorem listed_file_discovered :
    Discovers listedWorld .null ∧ locate listedWorld .null = .ok ⟨"/", ["root", "kube"]⟩ ∧
      searched listedWorld .null = [.str "/no", .str "dir", .str "~/kube"] := by
  obtain ⟨discovers, _, searches, _⟩ := locate_discovers_iff listedWorld .null
  have entries := searches ["/no", "dir", "", "~/kube"] (by decide +kernel) rfl (by cbv)
  replace entries : searched listedWorld .null =
      [.str "/no", .str "dir", .str "~/kube"] := entries.trans (by simp)
  have absent : lookUp listedWorld (.str "/no") = .ok (⟨"/", ["no"]⟩, false) := by cbv
  have folder : lookUp listedWorld (.str "dir") = .ok (⟨"", ["dir"]⟩, false) := by cbv
  have file : Finds listedWorld (.str "~/kube") ⟨"/", ["root", "kube"]⟩ := by
    have expanded : listedWorld.expandHome (FilePath.ofString "~/kube") =
        .ok ⟨"/", ["root", "kube"]⟩ := by cbv
    have named : listedWorld.namedPath (.str "~/kube") = .ok ⟨"/", ["root", "kube"]⟩ := by
      change (listedWorld.expandHome (FilePath.ofString "~/kube")).mapError Failure.ofHome = _
      rw [expanded]
      rfl
    exact ⟨named, by decide +kernel, .bytes [], by cbv⟩
  have found : search listedWorld (searched listedWorld .null) =
      .ok (some ⟨"/", ["root", "kube"]⟩) := by
    rw [entries, search_cons_lacking (lookUp_false_iff.mp ⟨_, absent⟩),
      search_cons_lacking (lookUp_false_iff.mp ⟨_, folder⟩),
      search_cons_found file]
  have clear (e : Failure) : ¬ Obstructs listedWorld (searched listedWorld .null) e := by
    rw [← search_error_iff, found]
    intro failed
    cases failed
  refine ⟨discovers.mpr clear, ?_, entries⟩
  exact ((discovers.mpr clear).found _).mpr ((search_some_iff clear).mp found)

/-- Surroundings that list a path in the home of nobody in front of a file. -/
def strangerWorld : World :=
  { files := [(["good"], .bytes [])]
    environment := [("KUBECONFIG", "~nosuchuser-zz/config:good")] }

theorem strangerWorld_searched :
    searched strangerWorld .null = [.str "~nosuchuser-zz/config", .str "good"] := by
  have separated : ∀ s ∈ ["~nosuchuser-zz/config", "good"], ':' ∉ s.toList := by
    decide +kernel
  have filled : ["~nosuchuser-zz/config", "good"].filter (· != "") =
      ["~nosuchuser-zz/config", "good"] := by decide +kernel
  rw [searched_of_entries separated rfl (by cbv), filled]
  rfl

theorem strangerWorld_unnamed :
    strangerWorld.namedPath (.str "~nosuchuser-zz/config") = .error .homeUnknown := by
  have parts : FilePath.ofString "~nosuchuser-zz/config" = ⟨"", ["~nosuchuser-zz", "config"]⟩ := by
    cbv
  have stranger : strangerWorld.homeFor "~nosuchuser-zz" = .error .unknown :=
    World.homeFor_of_stranger (by simp) (by decide +kernel) (by simp) rfl
  change (strangerWorld.expandHome (FilePath.ofString "~nosuchuser-zz/config")).mapError
    Failure.ofHome = _
  rw [parts]
  simp [World.expandHome, stranger, bind, Except.bind, Except.mapError, Failure.ofHome]

theorem unknown_home_hides_file :
    FirstFound strangerWorld (searched strangerWorld .null) ⟨"", ["good"]⟩ ∧
      locate strangerWorld .null = .error .homeUnknown ∧ ¬ Discovers strangerWorld .null := by
  have blocks : Blocks strangerWorld (.str "~nosuchuser-zz/config") .homeUnknown :=
    .path (namedPath_error.mp strangerWorld_unnamed)
  have obstructs : Obstructs strangerWorld (searched strangerWorld .null) .homeUnknown :=
    ⟨[], _, _, strangerWorld_searched, blocks, by simp⟩
  obtain ⟨failed, _⟩ := locate_of_obstructed obstructs
  have first : FirstFound strangerWorld (searched strangerWorld .null) ⟨"", ["good"]⟩ := by
    have good : Finds strangerWorld (.str "good") ⟨"", ["good"]⟩ :=
      ⟨by cbv, by cbv, .bytes [], by cbv⟩
    refine ⟨[_], _, [], strangerWorld_searched, good, fun name member q => ?_⟩
    obtain rfl := List.mem_singleton.mp member
    rintro ⟨named, _⟩
    rw [strangerWorld_unnamed] at named
    cases named
  refine ⟨first, failed, fun discovers => ?_⟩
  have located := (discovers.found _).mpr first
  rw [failed] at located
  cases located

end Kubeconfig
end ClusterAccess
