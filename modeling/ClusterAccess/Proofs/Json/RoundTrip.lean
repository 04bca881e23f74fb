import ClusterAccess.Proofs.Assembly
import ClusterAccess.Proofs.Json.Tokens
import ClusterAccess.Proofs.Trace

/-!
# Values written and read back

A value made of null, truth values, integers, texts, kinds and references, lists, and maps with text
keys is written exactly if the style admits the integers in it (`admits_of_write`, `write_reads`),
in every style whose separators are read as such. The text is one line, and is read back as the
value, with display texts in the place of kinds and references. Where only ASCII is written the
texts come back as their units spell them (`parse?_write`), which is unchanged for all whole texts
(`withTexts_of_whole`); in the compact style they come back as they were (`parse?_write_compact`).
-/

namespace ClusterAccess

namespace Value

/-- Made of the values that JSON shows; all texts that are shown have the property. -/
inductive Plain (p : String → Prop) : Value → Prop
  | null : Plain p .null
  | bool (b : Bool) : Plain p (.bool b)
  | int (i : Int) : Plain p (.int i)
  | str {s : String} (shown : p s) : Plain p (.str s)
  | kind {k : ResourceKind} (shown : p k.display) : Plain p (.kind k)
  | reference {r : KindReference} (shown : p r.display) : Plain p (.reference r)
  | list {xs : List Value} (items : ∀ x ∈ xs, Plain p x) : Plain p (.list xs)
  | map {es : List (Value × Value)} (keys : ∀ e ∈ es, ∃ s, e.1 = .str s ∧ p s)
      (values : ∀ e ∈ es, Plain p e.2) : Plain p (.map es)

mutual

/-- A value with all texts changed, and with display texts in the place of kinds and references. -/
def withTexts (f : String → String) : Value → Value
  | .str s => .str (f s)
  | .kind k => .str (f k.display)
  | .reference r => .str (f r.display)
  | .list xs => .list (withTextsList f xs)
  | .map es => .map (withTextsEntries f es)
  | v => v

def withTextsList (f : String → String) : List Value → List Value
  | [] => []
  | x :: xs => withTexts f x :: withTextsList f xs

def withTextsEntries (f : String → String) : List (Value × Value) → List (Value × Value)
  | [] => []
  | (k, v) :: es => (withTexts f k, withTexts f v) :: withTextsEntries f es

end

/-- A value as it is shown: with display texts in the place of kinds and references. -/
def shown : Value → Value := withTexts id

theorem withTextsList_eq_map (f : String → String) (xs : List Value) :
    withTextsList f xs = xs.map (withTexts f) := by
  induction xs with
  | nil => rfl
  | cons x xs ih => rw [withTextsList, ih, List.map_cons]

theorem withTextsEntries_eq_map (f : String → String) (es : List (Value × Value)) :
    withTextsEntries f es = es.map fun e => (withTexts f e.1, withTexts f e.2) := by
  induction es with
  | nil => rfl
  | cons e es ih => rw [withTextsEntries, ih, List.map_cons]

variable {p : String → Prop} {f g : String → String} {v : Value}

/-- Changes that agree on all texts of a value make the same value. -/
theorem withTexts_congr (plain : Plain p v) (same : ∀ s, p s → f s = g s) :
    v.withTexts f = v.withTexts g := by
  induction plain with
  | null => rfl
  | bool b => rfl
  | int i => rfl
  | str shown => rw [withTexts, withTexts, same _ shown]
  | kind shown => rw [withTexts, withTexts, same _ shown]
  | reference shown => rw [withTexts, withTexts, same _ shown]
  | list _ ih =>
    rw [withTexts, withTexts, withTextsList_eq_map, withTextsList_eq_map, List.map_congr_left ih]
  | map keys _ ih =>
    rw [withTexts, withTexts, withTextsEntries_eq_map, withTextsEntries_eq_map]
    congr 1
    refine List.map_congr_left fun e member => ?_
    obtain ⟨s, key, shown⟩ := keys e member
    rw [ih e member, key, withTexts, withTexts, same s shown]

theorem withTexts_of_whole (plain : Plain Text.Utf16.Whole v) :
    v.withTexts Text.Utf16.paired = v.shown :=
  withTexts_congr plain fun _ whole => Text.Utf16.paired_of_whole whole

theorem withTexts_ofFields {fields : List (String × Value)} (names : ∀ m ∈ fields, f m.1 = m.1) :
    (ofFields fields).withTexts f = ofFields (fields.map fun m => (m.1, m.2.withTexts f)) := by
  unfold ofFields
  rw [withTexts, withTextsEntries_eq_map, List.map_map, List.map_map]
  congr 1
  refine List.map_congr_left fun m member => ?_
  change (Value.str (f m.1), m.2.withTexts f) = (Value.str m.1, m.2.withTexts f)
  rw [names m member]

theorem Plain.ofFields {fields : List (String × Value)} (names : ∀ m ∈ fields, p m.1)
    (values : ∀ m ∈ fields, Plain p m.2) : Plain p (ofFields fields) := by
  refine .map (fun e member => ?_) fun e member => ?_
  · obtain ⟨m, among, rfl⟩ := List.mem_map.mp member
    exact ⟨m.1, rfl, names m among⟩
  · obtain ⟨m, among, rfl⟩ := List.mem_map.mp member
    exact values m among

theorem plain_ofFields_iff {fields : List (String × Value)} :
    Plain p (ofFields fields) ↔ ∀ m ∈ fields, p m.1 ∧ Plain p m.2 := by
  constructor
  · rintro (_ | _ | _ | _ | _ | _ | _ | ⟨keys, values⟩) m member
    have listed : (str m.1, m.2) ∈ fields.map fun f => (str f.1, f.2) :=
      List.mem_map_of_mem (f := fun f => (str f.1, f.2)) member
    obtain ⟨s, key, shown⟩ := keys _ listed
    exact ⟨str.inj key ▸ shown, values _ listed⟩
  · intro parts
    exact .ofFields (fun m member => (parts m member).1) fun m member => (parts m member).2

theorem plain_str_iff {s : String} : Plain p (.str s) ↔ p s :=
  ⟨fun plain => by cases plain; assumption, .str⟩

theorem Plain.mono {q : String → Prop} (plain : Plain p v) (weaker : ∀ s, p s → q s) :
    Plain q v := by
  induction plain with
  | null => exact .null
  | bool b => exact .bool b
  | int i => exact .int i
  | str shown => exact .str (weaker _ shown)
  | kind shown => exact .kind (weaker _ shown)
  | reference shown => exact .reference (weaker _ shown)
  | list _ ih => exact .list ih
  | map keys _ ih =>
    refine .map (fun e member => ?_) ih
    obtain ⟨s, key, shown⟩ := keys e member
    exact ⟨s, key, weaker s shown⟩

end Value

namespace Json

open Text Value

variable {v : Value} {vs : List Value} {es : List (Value × Value)} {text : String}
  {cs rest : List Char} {fuel : Nat} {ascii : Bool} {style : Style}

/-! ### Spaces and ends -/

/-- What follows does not go on with a number. -/
def Delimited (rest : List Char) : Prop :=
  ∀ c, rest.head? = some c → isNumberChar c = false

theorem delimited_nil : Delimited [] := fun _ first => nomatch first

theorem delimited_cons {c : Char} (other : isNumberChar c = false) : Delimited (c :: rest) := by
  rintro _ ⟨⟩
  exact other

theorem skipSpace_cons {c : Char} (visible : isSpace c = false) :
    skipSpace (c :: rest) = c :: rest := by
  rw [skipSpace, List.dropWhile_cons, visible, if_neg Bool.false_ne_true]

theorem skipSpace_space : skipSpace (' ' :: rest) = skipSpace rest := rfl

theorem value?_space (fuel : Nat) (cs : List Char) : value? fuel (' ' :: cs) = value? fuel cs := by
  cases fuel with
  | zero => rfl
  | succ fuel => rw [value?, value?, skipSpace_space]

theorem value?_spaces (n fuel : Nat) (cs : List Char) :
    value? fuel (List.replicate n ' ' ++ cs) = value? fuel cs := by
  induction n with
  | zero => rfl
  | succ n ih => rw [List.replicate_succ, List.cons_append, value?_space, ih]

theorem elements?_spaces (n fuel : Nat) (cs : List Char) :
    elements? fuel (List.replicate n ' ' ++ cs) = elements? fuel cs := by
  cases fuel with
  | zero => rfl
  | succ fuel => rw [elements?, elements?, value?_spaces]

theorem skipSpace_spaces (n : Nat) (cs : List Char) :
    skipSpace (List.replicate n ' ' ++ cs) = skipSpace cs := by
  induction n with
  | zero => rfl
  | succ n ih => rw [List.replicate_succ, List.cons_append, skipSpace_space, ih]

theorem members?_spaces (n fuel : Nat) (cs : List Char) :
    members? fuel (List.replicate n ' ' ++ cs) = members? fuel cs := by
  cases fuel with
  | zero => rfl
  | succ fuel => rw [members?, members?, skipSpace_spaces]

/-- A separator: its mark, and blanks behind it. -/
def Separator (mark : Char) (sep : String) : Prop :=
  ∃ n, sep.toList = mark :: List.replicate n ' '

/-- A style whose separators are read as the comma and the colon of JSON. -/
structure Style.Separates (style : Style) : Prop where
  comma : Separator ',' style.comma
  colon : Separator ':' style.colon

theorem spaced_separates : spaced.Separates := ⟨⟨1, rfl⟩, ⟨1, rfl⟩⟩

theorem compact_separates : compact.Separates := ⟨⟨0, rfl⟩, ⟨0, rfl⟩⟩

/-! ### What is read of a text -/

/-- Starts with neither a space nor the end of a list. -/
def Opens (text : String) : Prop :=
  ∃ c more, text.toList = c :: more ∧ isSpace c = false ∧ c ≠ ']'

/-- A text on one line that is read as a value, whatever follows that does not go on with a
number. -/
structure Reads (ascii : Bool) (v : Value) (text : String) : Prop where
  fits : ∀ c ∈ text.toList, Fits ascii c
  opens : Opens text
  read : ∀ fuel rest, text.length ≤ fuel → Delimited rest →
    value? fuel (text.toList ++ rest) = some (v, rest)

/-- A text on one line that is read as the elements of a list. -/
structure ReadsElements (ascii : Bool) (vs : List Value) (text : String) : Prop where
  fits : ∀ c ∈ text.toList, Fits ascii c
  opens : Opens text
  read : ∀ fuel rest, text.length + 1 ≤ fuel →
    elements? fuel (text.toList ++ ']' :: rest) = some (vs, rest)

/-- A text on one line that is read as the members of an object. -/
structure ReadsMembers (ascii : Bool) (es : List (Value × Value)) (text : String) : Prop where
  fits : ∀ c ∈ text.toList, Fits ascii c
  opens : ∃ more, text.toList = '"' :: more
  read : ∀ fuel rest, text.length + 1 ≤ fuel →
    members? fuel (text.toList ++ '\x7d' :: rest) = some (es, rest)

theorem Opens.append (opens : Opens text) (more : String) : Opens (text ++ more) := by
  obtain ⟨c, tail, starts, visible, other⟩ := opens
  refine ⟨c, tail ++ more.toList, ?_, visible, other⟩
  rw [String.toList_append, starts, List.cons_append]

theorem fits_append {s t : String} (first : ∀ c ∈ s.toList, Fits ascii c)
    (second : ∀ c ∈ t.toList, Fits ascii c) : ∀ c ∈ (s ++ t).toList, Fits ascii c := by
  intro c member
  rw [String.toList_append] at member
  rcases List.mem_append.mp member with before | behind
  · exact first c before
  · exact second c behind

theorem fits_of_all {cs : List Char} (all : cs.all (fun c => decide (Printable c)) = true) :
    ∀ c ∈ cs, Fits ascii c :=
  fun c member => fits_of_printable (of_decide_eq_true (List.all_eq_true.mp all c member)) ascii

theorem Separator.fits {mark : Char} {sep : String} (separator : Separator mark sep)
    (printable : Printable mark) : ∀ c ∈ sep.toList, Fits ascii c := by
  obtain ⟨n, form⟩ := separator
  intro c member
  rw [form] at member
  apply fits_of_printable
  rcases List.mem_cons.mp member with rfl | blank
  · exact printable
  · rw [List.eq_of_mem_replicate blank]
    decide

/-- A text is read with some fuel left, as it is not empty. -/
theorem succ_of_enough {c : Char} (text : cs = c :: rest) (enough : cs.length ≤ fuel) :
    ∃ left, fuel = left + 1 := by
  rw [text, List.length_cons] at enough
  exact ⟨fuel - 1, by omega⟩

theorem reads_null : Reads ascii .null "null" := by
  refine ⟨fits_of_all rfl, ⟨_, _, rfl, by decide, by decide⟩, fun fuel rest enough _ => ?_⟩
  obtain ⟨left, rfl⟩ := succ_of_enough (show "null".toList = 'n' :: _ from rfl) enough
  rfl

theorem reads_bool (b : Bool) : Reads ascii (.bool b) (if b then "true" else "false") := by
  cases b with
  | false =>
    refine ⟨fits_of_all rfl, ⟨_, _, rfl, by decide, by decide⟩, fun fuel rest enough _ => ?_⟩
    obtain ⟨left, rfl⟩ := succ_of_enough (show "false".toList = 'f' :: _ from rfl) enough
    rfl
  | true =>
    refine ⟨fits_of_all rfl, ⟨_, _, rfl, by decide, by decide⟩, fun fuel rest enough _ => ?_⟩
    obtain ⟨left, rfl⟩ := succ_of_enough (show "true".toList = 't' :: _ from rfl) enough
    rfl

theorem value?_quote (fuel : Nat) (cs : List Char) :
    value? (fuel + 1) ('"' :: cs) = (string? cs).map fun r => (.str r.1, r.2) := rfl

theorem reads_str (s : String) :
    Reads ascii (.str (respelled ascii s)) (stringText ascii s) := by
  have text := toList_stringText ascii s
  refine ⟨fun c => stringText_fits, ⟨_, _, text, by decide, by decide⟩,
    fun fuel rest enough _ => ?_⟩
  obtain ⟨left, rfl⟩ := succ_of_enough text enough
  rw [text, List.cons_append, List.append_assoc, List.singleton_append, value?_quote,
    string?_text, Option.map_some]

/-- A text that starts with a sign or a digit is read as a number. -/
theorem value?_number {d : Char} {more : List Char} (first : d = '-' ∨ Number.isDigit d = true) :
    value? (fuel + 1) (d :: more) =
      (number? ((d :: more).takeWhile isNumberChar)).map fun v =>
        (v, (d :: more).dropWhile isNumberChar) := by
  obtain ⟨known, visible, _⟩ := start_of_number first
  rw [value?, skipSpace_cons visible]
  split
  case h_8 => rfl
  case h_1 same => cases same
  all_goals
    rename_i same
    exact absurd ((List.cons.inj same).1 ▸ known) (by decide)

theorem span_of_delimited (all : ∀ c ∈ cs, isNumberChar c = true) (ends : Delimited rest) :
    (cs ++ rest).takeWhile isNumberChar = cs ∧ (cs ++ rest).dropWhile isNumberChar = rest := by
  rw [List.takeWhile_append_of_pos all, List.dropWhile_append_of_pos all]
  cases rest with
  | nil => exact ⟨List.append_nil cs, rfl⟩
  | cons c rest =>
    have other := ends c rfl
    rw [List.takeWhile_cons, List.dropWhile_cons, other]
    exact ⟨List.append_nil cs, rfl⟩

theorem reads_int (i : Int) : Reads ascii (.int i) (Number.intText i) := by
  obtain ⟨d, more, text, first, digits⟩ := intText_cons i
  have parts (c : Char) (member : c ∈ d :: more) : c = '-' ∨ Number.isDigit c = true := by
    rcases List.mem_cons.mp member with rfl | later
    · exact first
    · exact .inr (digits c later)
  obtain ⟨_, visible, other, _⟩ := start_of_number first
  refine ⟨fun c member => ?_, ⟨d, more, text, visible, other⟩, fun fuel rest enough ends => ?_⟩
  · exact fits_of_printable (start_of_number (parts c (text ▸ member))).2.2.2 ascii
  · obtain ⟨left, rfl⟩ := succ_of_enough text enough
    obtain ⟨taken, dropped⟩ := span_of_delimited
      (fun c member => (start_of_number (parts c member)).1) ends
    rw [text, List.cons_append, value?_number first, ← List.cons_append, taken, dropped, ← text,
      number?_intText, Option.map_some]

/-! ### Elements and members -/

theorem toList_separated (text sep more : String) (rest : List Char) :
    (text ++ sep ++ more).toList ++ rest = text.toList ++ (sep.toList ++ (more.toList ++ rest)) := by
  rw [String.toList_append, String.toList_append, List.append_assoc, List.append_assoc]

theorem Separator.length_lt {mark : Char} {sep : String} (separator : Separator mark sep)
    (text more : String) : text.length + more.length < (text ++ sep ++ more).length := by
  obtain ⟨n, form⟩ := separator
  have length : sep.length = n + 1 := by
    rw [← String.length_toList, form, List.length_cons, List.length_replicate]
  rw [String.length_append, String.length_append]
  omega

theorem readsElements_one (first : Reads ascii v text) : ReadsElements ascii [v] text := by
  refine ⟨first.fits, first.opens, fun fuel rest enough => ?_⟩
  obtain ⟨left, rfl⟩ : ∃ left, fuel = left + 1 := ⟨fuel - 1, by omega⟩
  rw [elements?, first.read left _ (by omega) (delimited_cons (by decide))]
  rfl

theorem readsElements_cons {comma more : String} (separator : Separator ',' comma)
    (first : Reads ascii v text) (others : ReadsElements ascii vs more) :
    ReadsElements ascii (v :: vs) (text ++ comma ++ more) := by
  have shorter := separator.length_lt text more
  have fits : ∀ c ∈ comma.toList, Fits ascii c := separator.fits (by decide)
  refine ⟨fits_append (fits_append first.fits fits) others.fits,
    (first.opens.append _).append _, fun fuel rest enough => ?_⟩
  obtain ⟨n, form⟩ := separator
  obtain ⟨left, rfl⟩ : ∃ left, fuel = left + 1 := ⟨fuel - 1, by omega⟩
  rw [toList_separated, form, List.cons_append, elements?,
    first.read left _ (by omega) (delimited_cons (by decide))]
  change (elements? left (List.replicate n ' ' ++ (more.toList ++ ']' :: rest))).bind _ = _
  rw [elements?_spaces, others.read left rest (by omega)]
  rfl

/-- The text of a member: its name, then its value. -/
def memberText (style : Style) (name text : String) : String :=
  stringText style.ascii name ++ style.colon ++ text

theorem length_memberText (style : Style) (name text : String) :
    text.length ≤ (memberText style name text).length := by
  rw [memberText, String.length_append]
  omega

theorem toList_memberText (name text : String) (rest : List Char) :
    (memberText style name text).toList ++ rest =
      '"' :: (name.toList.flatMap (escape style.ascii) ++
        '"' :: (style.colon.toList ++ (text.toList ++ rest))) := by
  rw [memberText, toList_separated, toList_stringText, List.cons_append, List.append_assoc,
    List.singleton_append]

theorem memberText_fits (separates : style.Separates) (name : String)
    (first : Reads style.ascii v text) :
    ∀ c ∈ (memberText style name text).toList, Fits style.ascii c :=
  fits_append (fits_append (fun _ => stringText_fits) (separates.colon.fits (by decide))) first.fits

theorem memberText_opens (style : Style) (name text more : String) :
    ∃ tail, (memberText style name text ++ more).toList = '"' :: tail := by
  rw [String.toList_append]
  exact ⟨_, toList_memberText name text more.toList⟩

/-- A member is read, and what follows tells whether there are more. -/
theorem members?_member (separates : style.Separates) (name : String)
    (first : Reads style.ascii v text) (enough : text.length ≤ fuel) (ends : Delimited rest) :
    members? (fuel + 1) ((memberText style name text).toList ++ rest) =
      match skipSpace rest with
      | ',' :: rest => do
        let (es, rest) ← members? fuel rest
        some ((.str (respelled style.ascii name), v) :: es, rest)
      | '\x7d' :: rest => some ([(.str (respelled style.ascii name), v)], rest)
      | _ => none := by
  obtain ⟨n, form⟩ := separates.colon
  rw [toList_memberText, form, List.cons_append, members?, skipSpace_cons (by decide)]
  change (string? _).bind _ = _
  rw [string?_text]
  have read : value? fuel (List.replicate n ' ' ++ (text.toList ++ rest)) = some (v, rest) :=
    (value?_spaces n fuel _).trans (first.read fuel rest enough ends)
  exact congrArg (Option.bind · _) read

theorem readsMembers_one (separates : style.Separates) (name : String)
    (first : Reads style.ascii v text) :
    ReadsMembers style.ascii [(.str (respelled style.ascii name), v)]
      (memberText style name text) := by
  refine ⟨memberText_fits separates name first, ?_, fun fuel rest enough => ?_⟩
  · have opens := memberText_opens style name text ""
    rwa [String.append_empty] at opens
  · have shorter := length_memberText style name text
    obtain ⟨left, rfl⟩ : ∃ left, fuel = left + 1 := ⟨fuel - 1, by omega⟩
    rw [members?_member separates name first (by omega) (delimited_cons (by decide))]
    rfl

theorem readsMembers_cons (separates : style.Separates) {more : String} (name : String)
    (first : Reads style.ascii v text) (others : ReadsMembers style.ascii es more) :
    ReadsMembers style.ascii ((.str (respelled style.ascii name), v) :: es)
      (memberText style name text ++ style.comma ++ more) := by
  have shorter := separates.comma.length_lt (memberText style name text) more
  have inner := length_memberText style name text
  refine ⟨?_, ?_, fun fuel rest enough => ?_⟩
  · exact fits_append (fits_append (memberText_fits separates name first)
      (separates.comma.fits (by decide))) others.fits
  · rw [String.append_assoc]
    exact memberText_opens style name text _
  · obtain ⟨n, form⟩ := separates.comma
    obtain ⟨left, rfl⟩ : ∃ left, fuel = left + 1 := ⟨fuel - 1, by omega⟩
    rw [toList_separated, form, List.cons_append,
      members?_member separates name first (by omega) (delimited_cons (by decide))]
    change (members? left (List.replicate n ' ' ++ (more.toList ++ '\x7d' :: rest))).bind _ = _
    rw [members?_spaces, others.read left rest (by omega)]
    rfl

/-! ### Collections -/

theorem value?_list {c : Char} (visible : isSpace c = false) (other : c ≠ ']') (cs : List Char) :
    value? (fuel + 1) ('[' :: c :: cs) =
      (elements? fuel (c :: cs)).map fun r => (.list r.1, r.2) := by
  rw [value?, skipSpace_cons (by decide)]
  simp only [skipSpace_cons visible]
  split
  · rename_i same
    exact absurd (List.cons.inj same).1 other
  · rfl

theorem reads_list (items : ReadsElements ascii vs text) :
    Reads ascii (.list vs) ("[" ++ text ++ "]") := by
  refine ⟨?_, ⟨'[', _, (List.append_nil _).symm.trans (toList_separated "[" text "]" []), by decide,
    by decide⟩, fun fuel rest enough _ => ?_⟩
  · exact fits_append (fits_append (fits_of_all rfl) items.fits)
      (fits_of_all rfl)
  · have length : ("[" ++ text ++ "]").length = text.length + 2 := by
      rw [String.length_append, String.length_append, Nat.add_comm "[".length]
      rfl
    obtain ⟨left, rfl⟩ : ∃ left, fuel = left + 1 := ⟨fuel - 1, by omega⟩
    have read := items.read left rest (by omega)
    obtain ⟨c, more, starts, visible, other⟩ := items.opens
    rw [starts, List.cons_append] at read
    rw [toList_separated, starts]
    change value? (left + 1) ('[' :: c :: (more ++ ']' :: rest)) = _
    rw [value?_list visible other, read, Option.map_some]

theorem reads_empty_list : Reads ascii (.list []) "[]" := by
  refine ⟨fits_of_all rfl, ⟨_, _, rfl, by decide, by decide⟩, fun fuel rest enough _ => ?_⟩
  obtain ⟨left, rfl⟩ := succ_of_enough (show "[]".toList = '[' :: _ from rfl) enough
  rfl

theorem reads_empty_map : Reads ascii (.map []) "\x7b\x7d" := by
  refine ⟨fits_of_all rfl, ⟨_, _, rfl, by decide, by decide⟩, fun fuel rest enough _ => ?_⟩
  obtain ⟨left, rfl⟩ := succ_of_enough (show "\x7b\x7d".toList = '\x7b' :: _ from rfl) enough
  rfl

theorem value?_map (fuel : Nat) (cs : List Char) :
    value? (fuel + 1) ('\x7b' :: '"' :: cs) =
      (members? fuel ('"' :: cs)).map fun r => (.map r.1, r.2) := rfl

theorem reads_map (members : ReadsMembers ascii es text) :
    Reads ascii (.map es) ("\x7b" ++ text ++ "\x7d") := by
  refine ⟨?_, ⟨'\x7b', _, (List.append_nil _).symm.trans (toList_separated "\x7b" text "\x7d" []),
    by decide, by decide⟩, fun fuel rest enough _ => ?_⟩
  · exact fits_append (fits_append (fits_of_all rfl) members.fits)
      (fits_of_all rfl)
  · have length : ("\x7b" ++ text ++ "\x7d").length = text.length + 2 := by
      rw [String.length_append, String.length_append, Nat.add_comm "\x7b".length]
      rfl
    obtain ⟨left, rfl⟩ : ∃ left, fuel = left + 1 := ⟨fuel - 1, by omega⟩
    have read := members.read left rest (by omega)
    obtain ⟨more, starts⟩ := members.opens
    rw [starts, List.cons_append] at read
    rw [toList_separated, starts]
    change value? (left + 1) ('\x7b' :: '"' :: (more ++ '\x7d' :: rest)) = _
    rw [value?_map, read, Option.map_some]

/-! ### What is written -/

theorem writeList_reads (separates : style.Separates) {xs : List Value} (some : xs ≠ [])
    (items : ∀ x ∈ xs, ∃ t, write style x = .ok t ∧
      Reads style.ascii (x.withTexts (respelled style.ascii)) t) :
    ∃ ts, writeList style xs = .ok ts ∧ ts ≠ [] ∧
      ReadsElements style.ascii (withTextsList (respelled style.ascii) xs)
        (style.comma.intercalate ts) := by
  induction xs with
  | nil => exact absurd rfl some
  | cons x xs ih =>
    obtain ⟨t, written, reads⟩ := items x List.mem_cons_self
    cases xs with
    | nil =>
      refine ⟨[t], ?_, List.cons_ne_nil _ _, ?_⟩
      · rw [writeList, written]
        rfl
      · rw [String.intercalate_singleton]
        exact readsElements_one reads
    | cons y ys =>
      obtain ⟨ts, others, more, rest⟩ := ih (List.cons_ne_nil _ _)
        fun z member => items z (List.mem_cons_of_mem x member)
      refine ⟨t :: ts, ?_, List.cons_ne_nil _ _, ?_⟩
      · rw [writeList, written, others]
        rfl
      · rw [String.intercalate_cons_of_ne_nil more]
        exact readsElements_cons separates.comma reads rest

theorem writeEntries_reads (separates : style.Separates) {es : List (Value × Value)} (some : es ≠ [])
    (keys : ∀ e ∈ es, ∃ s, e.1 = .str s)
    (items : ∀ e ∈ es, ∃ t, write style e.2 = .ok t ∧
      Reads style.ascii (e.2.withTexts (respelled style.ascii)) t) :
    ∃ ts, writeEntries style es = .ok ts ∧ ts ≠ [] ∧
      ReadsMembers style.ascii (withTextsEntries (respelled style.ascii) es)
        (style.comma.intercalate ts) := by
  induction es with
  | nil => exact absurd rfl some
  | cons e es ih =>
    obtain ⟨k, v⟩ := e
    obtain ⟨name, rfl⟩ := keys _ List.mem_cons_self
    obtain ⟨t, written, reads⟩ := items _ List.mem_cons_self
    cases es with
    | nil =>
      refine ⟨[memberText style name t], ?_, List.cons_ne_nil _ _, ?_⟩
      · rw [writeEntries, keyText, written]
        rfl
      · rw [String.intercalate_singleton]
        exact readsMembers_one separates name reads
    | cons e' es =>
      obtain ⟨ts, others, more, rest⟩ := ih (List.cons_ne_nil _ _)
        (fun e member => keys e (List.mem_cons_of_mem _ member))
        fun e member => items e (List.mem_cons_of_mem _ member)
      refine ⟨memberText style name t :: ts, ?_, List.cons_ne_nil _ _, ?_⟩
      · rw [writeEntries, keyText, written, others]
        rfl
      · rw [String.intercalate_cons_of_ne_nil more]
        exact readsMembers_cons separates name reads rest

/-! ### Integers that are admitted -/

section Admitted

theorem areShowable_iff {xs : List Value} :
    areShowable xs = true ↔ ∀ x ∈ xs, x.isShowable = true := by
  induction xs with
  | nil => simp [areShowable]
  | cons x xs ih => simp [areShowable, ih]

theorem areEntriesShowable_iff {es : List (Value × Value)} : areEntriesShowable es = true ↔
    ∀ e ∈ es, e.1.isShowable = true ∧ e.2.isShowable = true := by
  induction es with
  | nil => simp [areEntriesShowable]
  | cons e es ih => simp [areEntriesShowable, ih]

theorem admits_iff : style.admits v = true ↔ v.isShowable = true ∨ style.anyLength = true := by
  rw [Style.admits, Bool.or_eq_true]

theorem admits_list_iff {xs : List Value} :
    style.admits (.list xs) = true ↔ ∀ x ∈ xs, style.admits x = true := by
  simp only [admits_iff, isShowable, areShowable_iff]
  by_cases any : style.anyLength = true <;> simp [any]

theorem admits_map_iff (keys : ∀ e ∈ es, ∃ s, e.1 = .str s) :
    style.admits (.map es) = true ↔ ∀ e ∈ es, style.admits e.2 = true := by
  have named (e : Value × Value) (member : e ∈ es) : e.1.isShowable = true := by
    obtain ⟨s, key⟩ := keys e member
    rw [key]
    rfl
  have values : (∀ e ∈ es, e.1.isShowable = true ∧ e.2.isShowable = true) ↔
      ∀ e ∈ es, e.2.isShowable = true :=
    forall₂_congr fun e member => and_iff_right (named e member)
  simp only [admits_iff, isShowable, areEntriesShowable_iff, values]
  by_cases any : style.anyLength = true <;> simp [any]

theorem integerText_ok_iff {i : Int} : integerText style i = .ok text ↔
    style.admits (.int i) = true ∧ text = Number.intText i := by
  unfold integerText
  by_cases admitted : style.admits (.int i) = true
  · rw [if_pos admitted]
    constructor
    · intro written
      exact ⟨admitted, (Except.ok.inj written).symm⟩
    · rintro ⟨_, rfl⟩
      rfl
  · rw [if_neg admitted]
    constructor
    · exact nofun
    · rintro ⟨other, _⟩
      exact absurd other admitted

end Admitted

/-- A plain value that is admitted is written, and its text is read as the value with each text as
its units spell it. -/
theorem write_reads (separates : style.Separates) {p : String → Prop} (plain : Plain p v)
    (admitted : style.admits v = true) :
    ∃ t, write style v = .ok t ∧ Reads style.ascii (v.withTexts (respelled style.ascii)) t := by
  induction plain with
  | null => exact ⟨_, rfl, reads_null⟩
  | bool b => exact ⟨_, rfl, reads_bool b⟩
  | int i => exact ⟨_, integerText_ok_iff.mpr ⟨admitted, rfl⟩, reads_int i⟩
  | @str s _ => exact ⟨_, rfl, reads_str s⟩
  | @kind k _ => exact ⟨_, rfl, reads_str k.display⟩
  | @reference r _ => exact ⟨_, rfl, reads_str r.display⟩
  | @list xs _ ih =>
    have items := admits_list_iff.mp admitted
    cases xs with
    | nil => exact ⟨"[]", rfl, reads_empty_list⟩
    | cons x xs =>
      obtain ⟨ts, written, _, reads⟩ := writeList_reads separates (List.cons_ne_nil x xs)
        fun y member => ih y member (items y member)
      refine ⟨_, ?_, reads_list reads⟩
      rw [write, written]
      rfl
  | @map es keys _ ih =>
    have names (e : Value × Value) (member : e ∈ es) : ∃ s, e.1 = .str s :=
      (keys e member).imp fun _ key => key.1
    have values := (admits_map_iff names).mp admitted
    cases es with
    | nil => exact ⟨"\x7b\x7d", rfl, reads_empty_map⟩
    | cons e es =>
      obtain ⟨ts, written, _, reads⟩ := writeEntries_reads separates (List.cons_ne_nil e es) names
        fun d member => ih d member (values d member)
      refine ⟨_, ?_, reads_map reads⟩
      rw [write, written]
      rfl

theorem writeList_items {xs : List Value} {ts : List String} (h : writeList style xs = .ok ts) :
    ∀ x ∈ xs, ∃ t, write style x = .ok t := by
  induction xs generalizing ts with
  | nil => simp
  | cons x xs ih =>
    obtain ⟨t, first, h⟩ := result_bind_ok.mp h
    obtain ⟨_, rest, _⟩ := result_bind_ok.mp h
    exact List.forall_mem_cons.mpr ⟨⟨t, first⟩, ih rest⟩

theorem writeEntries_items {ts : List String} (h : writeEntries style es = .ok ts) :
    ∀ e ∈ es, ∃ t, write style e.2 = .ok t := by
  induction es generalizing ts with
  | nil => simp
  | cons e es ih =>
    obtain ⟨_, _, h⟩ := result_bind_ok.mp h
    obtain ⟨t, first, h⟩ := result_bind_ok.mp h
    obtain ⟨_, rest, _⟩ := result_bind_ok.mp h
    exact List.forall_mem_cons.mpr ⟨⟨t, first⟩, ih rest⟩

/-- No plain value is written with an integer that is not admitted. -/
theorem admits_of_write {p : String → Prop} (plain : Plain p v) (written : write style v = .ok text) :
    style.admits v = true := by
  induction plain generalizing text with
  | int i => exact (integerText_ok_iff.mp written).1
  | list _ ih =>
    obtain ⟨ts, items, _⟩ := result_bind_ok.mp written
    refine admits_list_iff.mpr fun x member => ?_
    obtain ⟨t, item⟩ := writeList_items items x member
    exact ih x member item
  | map keys _ ih =>
    obtain ⟨ts, items, _⟩ := result_bind_ok.mp written
    refine (admits_map_iff fun e member => (keys e member).imp fun _ key => key.1).mpr ?_
    intro e member
    obtain ⟨t, item⟩ := writeEntries_items items e member
    exact ih e member item
  | _ => rfl

theorem parse?_of_reads (reads : Reads ascii v text) : parse? text = some v := by
  have read := reads.read (2 * text.length + 2) [] (by omega) delimited_nil
  rw [List.append_nil] at read
  rw [parse?, read]
  rfl

/-- The text of a plain value is a printable line that is read as the value. -/
theorem parse?_write {p : String → Prop} (plain : Plain p v) (showable : v.isShowable = true) :
    ∃ line, write spaced v = .ok line ∧ (∀ c ∈ line.toList, Printable c) ∧
      parse? line = some (v.withTexts Utf16.paired) := by
  obtain ⟨line, written, reads⟩ :=
    write_reads spaced_separates plain (admits_iff.mpr (.inl showable))
  have units : respelled true = Utf16.paired := funext respelled_true
  exact ⟨line, written, fun c member => printable_of_fits (reads.fits c member),
    (parse?_of_reads reads).trans (congrArg (fun f => some (v.withTexts f)) units)⟩

/-- The compact text of a plain value has no control characters and is read as the value. -/
theorem parse?_write_compact {p : String → Prop} (plain : Plain p v) :
    ∃ line, write compact v = .ok line ∧ (∀ c ∈ line.toList, 0x20 ≤ c.toNat) ∧
      parse? line = some v.shown := by
  obtain ⟨line, written, reads⟩ := write_reads compact_separates plain (admits_iff.mpr (.inr rfl))
  have unchanged : respelled false = id := funext respelled_false
  exact ⟨line, written, fun c member => (reads.fits c member).1,
    (parse?_of_reads reads).trans (congrArg (fun f => some (v.withTexts f)) unchanged)⟩

end Json
end ClusterAccess
