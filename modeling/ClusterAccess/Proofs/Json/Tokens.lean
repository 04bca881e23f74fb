import ClusterAccess.Json.Reader
import ClusterAccess.Json.Writer
import ClusterAccess.Proofs.Number.Numeral
import ClusterAccess.Proofs.Text.Hex
import ClusterAccess.Proofs.Text.Utf16
import Mathlib.Data.List.TakeWhile

/-!
# Strings and numbers of JSON

A written string has no control characters, and in the style for ASCII only printable characters of
ASCII, whatever its own are. It is read back unit by unit in that style and as it was in the other
(`string?_text`, `respelled_false`). A written integer is read as that integer (`number?_intText`).
-/

namespace ClusterAccess.Json

open Text

/-- Printable characters of ASCII. -/
def Printable (c : Char) : Prop := 0x20 ≤ c.toNat ∧ c.toNat < 0x7F

instance (c : Char) : Decidable (Printable c) := inferInstanceAs (Decidable (_ ∧ _))

/-- Printable, or at least no control character where not only ASCII is written. -/
def Fits (ascii : Bool) (c : Char) : Prop := 0x20 ≤ c.toNat ∧ (ascii = true → c.toNat < 0x7F)

theorem fits_of_printable {c : Char} (printable : Printable c) (ascii : Bool) : Fits ascii c :=
  ⟨printable.1, fun _ => printable.2⟩

theorem printable_of_fits {c : Char} (fits : Fits true c) : Printable c :=
  ⟨fits.1, fits.2 rfl⟩

/-- The units that the written form of a character spells. -/
def spelled (ascii : Bool) (c : Char) : List Nat :=
  if ascii then Utf16.units c else [c.toNat]

/-- A text as its written form spells it. -/
def respelled (ascii : Bool) (s : String) : String :=
  String.ofList (Utf16.join (s.toList.flatMap (spelled ascii)))

variable {c : Char} {n : Nat} {us : List Nat} {rest : List Char} {ascii : Bool}

/-! ### Strings -/

theorem spelled_true (c : Char) : spelled true c = Utf16.units c := if_pos rfl

theorem respelled_true (s : String) : respelled true s = Utf16.paired s := by
  have units : spelled true = Utf16.units := funext spelled_true
  rw [respelled, units]
  rfl

theorem respelled_false (s : String) : respelled false s = s := by
  have joined (cs : List Char) : Utf16.join (cs.flatMap (spelled false)) = cs := by
    induction cs with
    | nil => rfl
    | cons c cs ih =>
      have apart : Utf16.isHigh c.toNat = true →
          ∀ m, (cs.flatMap (spelled false)).head? = some m → Utf16.isLow m = false := by
        intro high
        have plain := Utf16.not_isSurrogate_toNat c
        rw [Utf16.isSurrogate, high, Bool.true_or] at plain
        cases plain
      have first : (c :: cs).flatMap (spelled false) =
          c.toNat :: cs.flatMap (spelled false) := rfl
      rw [first, Utf16.join_cons_of_not_pair apart, ih, Utf16.single_toNat]
  rw [respelled, joined, String.ofList_toList]

theorem units?_hex {a b c d : Char} (digits : Hex.toNat? 0 [a, b, c, d] = some n)
    (rest : List Char) :
    units? ('\\' :: 'u' :: a :: b :: c :: d :: rest) =
      (units? rest).map fun r => (n :: r.1, r.2) := by
  rw [units?, digits]
  cases units? rest <;> rfl

theorem units?_escapeUnit (small : n < 0x10000) (rest : List Char) :
    units? (escapeUnit n ++ rest) = (units? rest).map fun r => (n :: r.1, r.2) := by
  have digits : Hex.toNat? 0 (Hex.padded 4 n) = some n := Hex.toNat?_padded small
  exact units?_hex digits rest

theorem units?_flatMap_escapeUnit (small : ∀ n ∈ us, n < 0x10000) (rest : List Char) :
    units? (us.flatMap escapeUnit ++ rest) = (units? rest).map fun r => (us ++ r.1, r.2) := by
  induction us with
  | nil =>
    rw [List.flatMap_nil, List.nil_append]
    cases units? rest <;> rfl
  | cons n us ih =>
    rw [List.flatMap_cons, List.append_assoc, units?_escapeUnit (small n List.mem_cons_self),
      ih fun m member => small m (List.mem_cons_of_mem n member)]
    cases units? rest <;> rfl

theorem units?_plain (quote : c ≠ '"') (backslash : c ≠ '\\') (low : 0x20 ≤ c.toNat)
    (rest : List Char) :
    units? (c :: rest) = (units? rest).map fun r => (c.toNat :: r.1, r.2) := by
  rw [units?.eq_5 _ _ quote (fun _ _ _ _ _ same _ => backslash same)
    (fun _ _ same _ => backslash same), if_neg (by omega)]
  cases units? rest <;> rfl

theorem units?_simple {e : Char} (known : simpleEscape? c = some e) (other : c ≠ 'u')
    (rest : List Char) :
    units? ('\\' :: c :: rest) = (units? rest).map fun r => (e.toNat :: r.1, r.2) := by
  rw [units?, known]
  · cases units? rest <;> rfl
  · intros
    simp_all

theorem units_of_ascii (ascii : c.toNat < 0x80) : Utf16.units c = [c.toNat] := by
  rcases Utf16.units_cases c with ⟨k, found, _⟩ | ⟨_, _, form⟩ | ⟨_, high, _⟩
  · have value := Utf16.surrogate?_eq_some.mp found
    have := Utf16.isSurrogate_iff.mp value.1
    omega
  · exact form
  · omega

theorem spelled_of_ascii (low : c.toNat < 0x80) : spelled ascii c = [c.toNat] := by
  unfold spelled
  split
  · exact units_of_ascii low
  · rfl

/-- The escape of a character is read as what it spells. -/
theorem units?_escape (ascii : Bool) (c : Char) (rest : List Char) :
    units? (escape ascii c ++ rest) = (units? rest).map fun r => (spelled ascii c ++ r.1, r.2) := by
  unfold escape
  split
  case h_8 quote backslash _ _ _ _ _ =>
    split
    case isTrue control =>
      rw [units?_escapeUnit (by omega), spelled_of_ascii (by omega)]
      rfl
    case isFalse visible =>
      split
      case isTrue high =>
        obtain ⟨rfl, _⟩ := Bool.and_eq_true_iff.mp high
        rw [spelled_true]
        exact units?_flatMap_escapeUnit (fun n => Utf16.units_lt) rest
      case isFalse low =>
        have spells : spelled ascii c = [c.toNat] := by
          cases ascii with
          | false => rfl
          | true =>
            rw [Bool.true_and, decide_eq_true_eq] at low
            exact spelled_of_ascii (by omega)
        rw [List.singleton_append, units?_plain quote backslash (by omega), spells]
        rfl
  all_goals
    rw [spelled_of_ascii (by decide)]
    exact units?_simple rfl (by decide) rest

theorem units?_text (ascii : Bool) (cs rest : List Char) :
    units? (cs.flatMap (escape ascii) ++ '"' :: rest) = some (cs.flatMap (spelled ascii), rest) := by
  induction cs with
  | nil => rfl
  | cons c cs ih =>
    rw [List.flatMap_cons, List.append_assoc, units?_escape, ih, Option.map_some,
      List.flatMap_cons]

/-- A written string without its first quote. -/
theorem toList_stringText (ascii : Bool) (s : String) :
    (stringText ascii s).toList = '"' :: (s.toList.flatMap (escape ascii) ++ ['"']) := by
  rw [stringText, String.toList_ofList, List.cons_append]

theorem string?_text (ascii : Bool) (s : String) (rest : List Char) :
    string? (s.toList.flatMap (escape ascii) ++ '"' :: rest) = some (respelled ascii s, rest) := by
  rw [string?, units?_text]
  rfl

theorem escape_fits {d : Char} (member : d ∈ escape ascii c) : Fits ascii d := by
  unfold escape at member
  split at member
  case h_8 quote backslash _ _ _ _ _ =>
    have unit (n : Nat) (member : d ∈ escapeUnit n) : Fits ascii d := by
      apply fits_of_printable
      rcases List.mem_cons.mp member with rfl | member
      · decide
      · rcases List.mem_cons.mp member with rfl | member
        · decide
        · exact Hex.padded_ascii member
    split at member
    case isTrue => exact unit _ member
    case isFalse visible =>
      split at member
      case isTrue =>
        obtain ⟨n, _, among⟩ := List.mem_flatMap.mp member
        exact unit n among
      case isFalse low =>
        obtain rfl := List.mem_singleton.mp member
        refine ⟨by omega, fun only => ?_⟩
        rw [only, Bool.true_and, decide_eq_true_eq] at low
        omega
  all_goals
    apply fits_of_printable
    rcases List.mem_cons.mp member with rfl | last
    · decide
    · rw [List.mem_singleton.mp last]
      decide

theorem stringText_fits {s : String} (member : c ∈ (stringText ascii s).toList) :
    Fits ascii c := by
  have quote : Fits ascii '"' := fits_of_printable (by decide) ascii
  rw [toList_stringText] at member
  rcases List.mem_cons.mp member with rfl | member
  · exact quote
  · rcases List.mem_append.mp member with body | close
    · obtain ⟨d, _, among⟩ := List.mem_flatMap.mp body
      exact escape_fits among
    · rw [List.mem_singleton.mp close]
      exact quote

/-! ### Numbers -/

theorem isDigit_iff : Number.isDigit c = true ↔ 48 ≤ c.toNat ∧ c.toNat ≤ 57 := by
  unfold Number.isDigit Number.digitValue?
  split <;> simp_all

/-- A sign or a digit is no space and belongs to a number. -/
theorem start_of_number (start : c = '-' ∨ Number.isDigit c = true) :
    isNumberChar c = true ∧ isSpace c = false ∧ c ≠ ']' ∧ Printable c := by
  rcases start with rfl | digit
  · decide
  · have range := isDigit_iff.mp digit
    refine ⟨?_, ?_, ?_, ?_⟩
    · unfold isNumberChar
      rw [digit]
      rfl
    · rw [← Bool.not_eq_true]
      intro space
      unfold isSpace at space
      simp only [Bool.or_eq_true, beq_iff_eq] at space
      rcases space with ((rfl | rfl) | rfl) | rfl <;> exact absurd range (by decide)
    · rintro rfl
      exact absurd range (by decide)
    · exact ⟨by omega, by omega⟩

theorem digitRun_digits {ds : List Char} (digits : ∀ c ∈ ds, Number.isDigit c = true) :
    digitRun ds = (ds, []) := by
  unfold digitRun
  rw [List.takeWhile_eq_self_iff.mpr digits, List.dropWhile_eq_nil_iff.mpr digits]

theorem toList_natText (n : Nat) : (Number.natText n).toList = Number.natDigits 10 n :=
  String.toList_ofList

/-- Digits without a zero in front are read as their number, behind a sign or without. -/
theorem number?_digits {ds : List Char} (digits : ∀ c ∈ ds, Number.isDigit c = true)
    (usual : ds.head? = some '0' → ds = ['0']) (value : Number.nat? 10 ds = some n) :
    number? ds = some (.int n) ∧ number? ('-' :: ds) = some (.int (-n)) := by
  have run := digitRun_digits digits
  cases ds with
  | nil => cases value
  | cons d more =>
    have accepted : ((d :: more).isEmpty ||
        ((d :: more).length != 1 && (d :: more).head? == some '0')) = false := by
      by_cases zero : d = '0'
      · rw [usual (congrArg some zero)]
        rfl
      · simp [zero]
    have sign : d ≠ '-' := by
      rintro rfl
      exact absurd (digits '-' List.mem_cons_self) (by decide)
    constructor
    · unfold number?
      split
      rename_i negative cs parts
      split at parts
      · rename_i same
        exact absurd (List.cons.inj same).1 sign
      · cases parts
        simp only [run, accepted, value]
        rfl
    · rw [number?]
      simp only [run, accepted, value]
      rfl

theorem toList_intText (i : Int) :
    (Number.intText i).toList =
      if i < 0 then '-' :: Number.natDigits 10 i.natAbs else Number.natDigits 10 i.natAbs := by
  unfold Number.intText
  split
  · rw [String.toList_append, toList_natText]
    rfl
  · exact toList_natText _

theorem number?_intText (i : Int) : number? (Number.intText i).toList = some (.int i) := by
  have read := number?_digits (fun _ => Number.natDigits_isDigit) Number.natDigits_head_zero
    (Number.nat?_natDigits i.natAbs)
  rw [toList_intText]
  split
  · rw [read.2]
    congr 2
    omega
  · rw [read.1]
    congr 2
    omega

/-- A written integer is of one piece: a sign or a digit, then digits. -/
theorem intText_cons (i : Int) :
    ∃ d more, (Number.intText i).toList = d :: more ∧ (d = '-' ∨ Number.isDigit d = true) ∧
      ∀ c ∈ more, Number.isDigit c = true := by
  rw [toList_intText]
  split
  · exact ⟨_, _, rfl, .inl rfl, fun _ => Number.natDigits_isDigit⟩
  · cases digits : Number.natDigits 10 i.natAbs with
    | nil => exact absurd digits (Number.natDigits_ne_nil _)
    | cons d more =>
      have all (c : Char) (member : c ∈ d :: more) : Number.isDigit c = true :=
        Number.natDigits_isDigit (digits ▸ member)
      exact ⟨d, more, rfl, .inr (all d List.mem_cons_self),
        fun c member => all c (List.mem_cons_of_mem d member)⟩

end ClusterAccess.Json
