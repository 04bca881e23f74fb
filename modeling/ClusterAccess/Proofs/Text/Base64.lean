import ClusterAccess.Text.Base64
import ClusterAccess.Text.Blank

/-!
# Base64 written and read

What is written is read back in either mode (`decode_encode`). A text that the strict reader accepts
once its blanks are dropped is read the same by the lenient reader as it stands (`decode_lenient`).
It has characters of the alphabet and padding only (`decode_alphabet`).
-/

namespace ClusterAccess.Text.Base64

variable {g : Group} {mode : Mode} {cs : List Char} {bytes : List UInt8}

theorem decodeFrom_pad (mode : Mode) (g : Group) (rest : List Char) :
    decodeFrom mode g ('=' :: rest) =
      if g.pad.complete then
        if mode = .strict ∧ rest ≠ [] then .error .excessData else .ok []
      else decodeFrom mode g.pad rest := by
  rw [decodeFrom, if_pos rfl]

theorem decodeFrom_last (complete : g.pad.complete = true) : decodeFrom mode g ['='] = .ok [] := by
  rw [decodeFrom_pad, if_pos complete, if_neg (by simp)]

/-- A digit after no padding. -/
theorem decodeFrom_digit {c : Char} {v : Nat} (spelled : value? c = some v)
    (allowed : ¬ (mode = .strict ∧ g.padded = true)) (rest : List Char) :
    decodeFrom mode g (c :: rest) =
      match g.push v with
      | (g, none) => decodeFrom mode g rest
      | (g, some b) => (decodeFrom mode g rest).map (b :: ·) := by
  have other : c ≠ '=' := by
    rintro rfl
    have none : value? '=' = none := by decide
    rw [none] at spelled
    cases spelled
  rw [decodeFrom, if_neg other, spelled]
  dsimp only
  exact if_neg allowed

theorem decodeFrom_foreign {c : Char} (other : c ≠ '=') (foreign : value? c = none)
    (rest : List Char) : decodeFrom .lenient g (c :: rest) = decodeFrom .lenient g rest := by
  rw [decodeFrom, if_neg other, foreign]
  rfl

/-! ### The strict reader and the lenient one -/

/-- Text that the strict reader accepts ends with the padding that completes a group, goes on
after padding that completes none, or goes on after a digit. -/
theorem strict_cons {c : Char} {rest : List Char}
    (h : decodeFrom .strict g (c :: rest) = .ok bytes) :
    (c = '=' ∧ g.pad.complete = true ∧ rest = [] ∧ bytes = []) ∨
      (c = '=' ∧ g.pad.complete = false ∧ decodeFrom .strict g.pad rest = .ok bytes) ∨
      ∃ v g' written more, value? c = some v ∧ g.push v = (g', written) ∧
        decodeFrom .strict g' rest = .ok more ∧ bytes = written.toList ++ more := by
  by_cases pad : c = '='
  · subst pad
    rw [decodeFrom_pad] at h
    split at h
    · rename_i complete
      split at h
      · cases h
      · rename_i excess
        obtain rfl := Except.ok.inj h
        have ended : rest = [] := Classical.byContradiction fun more => excess ⟨rfl, more⟩
        exact .inl ⟨rfl, complete, ended, rfl⟩
    · rename_i incomplete
      exact .inr (.inl ⟨rfl, by simpa using incomplete, h⟩)
  · refine .inr (.inr ?_)
    cases spelled : value? c with
    | none =>
      rw [decodeFrom, if_neg pad, spelled] at h
      cases h
    | some v =>
      have unpadded : ¬ (Mode.strict = .strict ∧ g.padded = true) := by
        intro padded
        rw [decodeFrom, if_neg pad, spelled] at h
        dsimp only at h
        rw [if_pos padded] at h
        cases h
      rw [decodeFrom_digit spelled unpadded] at h
      split at h
      · rename_i g' pushed
        exact ⟨v, g', none, bytes, rfl, pushed, h, rfl⟩
      · rename_i g' b pushed
        cases read : decodeFrom .strict g' rest with
        | error e =>
          rw [read] at h
          cases h
        | ok more =>
          rw [read] at h
          exact ⟨v, g', some b, more, rfl, pushed, read, (Except.ok.inj h).symm⟩

theorem lenient_of_strict (h : decodeFrom .strict g cs = .ok bytes) :
    decodeFrom .lenient g cs = .ok bytes := by
  induction cs generalizing g bytes with
  | nil => exact h
  | cons c rest ih =>
    rcases strict_cons h with ⟨rfl, complete, rfl, rfl⟩ | ⟨rfl, incomplete, read⟩ |
      ⟨v, g', written, more, spelled, pushed, read, rfl⟩
    · exact decodeFrom_last complete
    · rw [decodeFrom_pad, incomplete, if_neg Bool.false_ne_true]
      exact ih read
    · rw [decodeFrom_digit spelled (by simp), pushed]
      cases written with
      | none => exact ih read
      | some b =>
        dsimp only
        rw [ih read]
        rfl

/-! ### The alphabet -/

/-- Letters and digits of ASCII, and two more characters. -/
def InAlphabet (c : Char) : Prop :=
  c.isAlphanum = true ∨ c = '+' ∨ c = '/'

instance (c : Char) : Decidable (InAlphabet c) :=
  inferInstanceAs (Decidable (_ ∨ _ ∨ _))

theorem inAlphabet_iff {c : Char} : InAlphabet c ↔
    (65 ≤ c.toNat ∧ c.toNat ≤ 90) ∨ (97 ≤ c.toNat ∧ c.toNat ≤ 122) ∨
      (48 ≤ c.toNat ∧ c.toNat ≤ 57) ∨ c.toNat = 43 ∨ c.toNat = 47 := by
  have plus : c = '+' ↔ c.toNat = 43 := Char.toNat_inj.symm
  have slash : c = '/' ↔ c.toNat = 47 := Char.toNat_inj.symm
  have letter : c.isAlphanum = true ↔
      (65 ≤ c.toNat ∧ c.toNat ≤ 90) ∨ (97 ≤ c.toNat ∧ c.toNat ≤ 122) ∨
        (48 ≤ c.toNat ∧ c.toNat ≤ 57) := by
    delta Char.isAlphanum Char.isAlpha Char.isUpper Char.isLower Char.isDigit
    simp [UInt32.le_iff_toNat_le, or_assoc]
  unfold InAlphabet
  rw [plus, slash, letter, or_assoc, or_assoc]

theorem value?_isSome {c : Char} : (value? c).isSome = true ↔ InAlphabet c := by
  rw [inAlphabet_iff]
  unfold value?
  grind

theorem ascii_of_inAlphabet {c : Char} (h : InAlphabet c ∨ c = '=') : c.toNat < 0x80 := by
  rcases h with letter | rfl
  · rw [inAlphabet_iff] at letter
    omega
  · decide

/-- The strict reader skips nothing. -/
theorem strict_alphabet (h : decodeFrom .strict g cs = .ok bytes) :
    ∀ c ∈ cs, InAlphabet c ∨ c = '=' := by
  induction cs generalizing g bytes with
  | nil => simp
  | cons c rest ih =>
    rw [List.forall_mem_cons]
    rcases strict_cons h with ⟨rfl, _, rfl, _⟩ | ⟨rfl, _, read⟩ |
      ⟨v, g', written, more, spelled, _, read, _⟩
    · exact ⟨.inr rfl, by simp⟩
    · exact ⟨.inr rfl, ih read⟩
    · refine ⟨.inl (value?_isSome.mp ?_), ih read⟩
      rw [spelled, Option.isSome_some]

theorem decode_alphabet (h : decode .strict cs = .ok bytes) :
    ∀ c ∈ cs, InAlphabet c ∨ c = '=' := by
  unfold decode at h
  split at h
  · cases h
  · exact strict_alphabet h

theorem value?_blank {c : Char} (blank : isBlank c = true) : value? c = none := by
  unfold isBlank at blank
  simp only [Bool.or_eq_true, Bool.and_eq_true, decide_eq_true_eq, beq_iff_eq] at blank
  unfold value?
  dsimp only
  rw [if_neg (by omega), if_neg (by omega), if_neg (by omega), if_neg (by omega), if_neg (by omega)]

theorem lenient_filter (g : Group) (cs : List Char) :
    decodeFrom .lenient g (cs.filter fun c => !isBlank c) = decodeFrom .lenient g cs := by
  induction cs generalizing g with
  | nil => rfl
  | cons c rest ih =>
    cases blank : isBlank c with
    | true =>
      have other : c ≠ '=' := by
        rintro rfl
        have visible : isBlank '=' = false := by decide
        rw [visible] at blank
        cases blank
      rw [List.filter_cons_of_neg (by simp [blank]), decodeFrom_foreign other (value?_blank blank)]
      exact ih g
    | false =>
      rw [List.filter_cons_of_pos (by simp [blank])]
      rw [decodeFrom, decodeFrom]
      simp only [ih]
      simp

/-! ### Reading what was written -/

theorem value?_digit : ∀ n < 64, value? (digit n) = some n := by
  decide

theorem digit_visible : ∀ n < 64, isBlank (digit n) = false ∧ (digit n).toNat < 0x80 := by
  decide

/-- The bits of a number below 256 make up its byte. -/
theorem toUInt8_eq {n : Nat} {b : UInt8} (h : n = b.toNat) : n.toUInt8 = b := by
  rw [h]
  exact UInt8.ofNat_toNat

theorem decodeFrom_group (mode : Mode) (k : Nat) (a b c : UInt8) (rest : List Char) :
    decodeFrom mode { written := k } (digit (a.toNat / 4) ::
      digit (a.toNat % 4 * 16 + b.toNat / 16) :: digit (b.toNat % 16 * 4 + c.toNat / 64) ::
      digit (c.toNat % 64) :: rest) =
    (decodeFrom mode { written := k + 3 } rest).map fun more => a :: b :: c :: more := by
  have ha : a.toNat < 256 := a.toNat_lt
  have hb : b.toNat < 256 := b.toNat_lt
  have hc : c.toNat < 256 := c.toNat_lt
  rw [decodeFrom_digit (value?_digit _ (by omega)) (by simp)]
  simp only [Group.push]
  rw [decodeFrom_digit (value?_digit _ (by omega)) (by simp)]
  simp only [Group.push]
  rw [decodeFrom_digit (value?_digit _ (by omega)) (by simp)]
  simp only [Group.push]
  rw [decodeFrom_digit (value?_digit _ (by omega)) (by simp)]
  simp only [Group.push]
  rw [toUInt8_eq (show _ = a.toNat by omega), toUInt8_eq (show _ = b.toNat by omega),
    toUInt8_eq (show _ = c.toNat by omega)]
  cases decodeFrom mode { written := k + 3 } rest <;> rfl

theorem decodeFrom_encode (mode : Mode) (k : Nat) (bytes : List UInt8) :
    decodeFrom mode { written := k } (encode bytes) = .ok bytes := by
  induction bytes using encode.induct generalizing k with
  | case1 a b c rest ih =>
    rw [encode, decodeFrom_group, ih]
    rfl
  | case2 a b =>
    have ha : a.toNat < 256 := a.toNat_lt
    have hb : b.toNat < 256 := b.toNat_lt
    rw [encode, decodeFrom_digit (value?_digit _ (by omega)) (by simp)]
    simp only [Group.push]
    rw [decodeFrom_digit (value?_digit _ (by omega)) (by simp)]
    simp only [Group.push]
    rw [decodeFrom_digit (value?_digit _ (by omega)) (by simp)]
    simp only [Group.push]
    rw [toUInt8_eq (show _ = a.toNat by omega), toUInt8_eq (show _ = b.toNat by omega),
      decodeFrom_last rfl]
    rfl
  | case3 a =>
    have ha : a.toNat < 256 := a.toNat_lt
    rw [encode, decodeFrom_digit (value?_digit _ (by omega)) (by simp)]
    simp only [Group.push]
    rw [decodeFrom_digit (value?_digit _ (by omega)) (by simp)]
    simp only [Group.push]
    -- The first of the two padding characters does not complete the group.
    have more : ({ digits := 2, carry := a.toNat % 4 * 16 % 16, written := k + 0 + 1 } :
        Group).pad.complete = false := rfl
    rw [toUInt8_eq (show _ = a.toNat by omega), decodeFrom_pad, more, if_neg Bool.false_ne_true,
      decodeFrom_last rfl]
    rfl
  | case4 => rfl

theorem encode_visible (bytes : List UInt8) :
    ∀ c ∈ encode bytes, isBlank c = false ∧ c.toNat < 0x80 := by
  have pad : isBlank '=' = false ∧ '='.toNat < 0x80 := by decide
  induction bytes using encode.induct with
  | case1 a b c rest ih =>
    have hb : b.toNat < 256 := b.toNat_lt
    have ha : a.toNat < 256 := a.toNat_lt
    have hc : c.toNat < 256 := c.toNat_lt
    simp only [encode, List.forall_mem_cons]
    exact ⟨digit_visible _ (by omega), digit_visible _ (by omega), digit_visible _ (by omega),
      digit_visible _ (by omega), ih⟩
  | case2 a b =>
    have ha : a.toNat < 256 := a.toNat_lt
    have hb : b.toNat < 256 := b.toNat_lt
    simp only [encode, List.forall_mem_cons]
    exact ⟨digit_visible _ (by omega), digit_visible _ (by omega), digit_visible _ (by omega), pad,
      by simp⟩
  | case3 a =>
    have ha : a.toNat < 256 := a.toNat_lt
    simp only [encode, List.forall_mem_cons]
    exact ⟨digit_visible _ (by omega), digit_visible _ (by omega), pad, pad, by simp⟩
  | case4 => simp [encode]

/-- Padding fills the last group of four. -/
theorem length_encode (bytes : List UInt8) : (encode bytes).length % 4 = 0 := by
  induction bytes using encode.induct with
  | case1 a b c rest ih =>
    rw [encode]
    simp only [List.length_cons]
    omega
  | case2 a b => simp [encode]
  | case3 a => simp [encode]
  | case4 => rfl

theorem digit_ne_pad : ∀ n < 64, digit n ≠ '=' := by
  decide

theorem encode_head (bytes : List UInt8) : (encode bytes).head? ≠ some '=' := by
  cases bytes with
  | nil => simp [encode]
  | cons a rest =>
    have ha : a.toNat < 256 := a.toNat_lt
    have first : (encode (a :: rest)).head? = some (digit (a.toNat / 4)) := by
      rcases rest with _ | ⟨b, _ | ⟨c, rest⟩⟩ <;> rfl
    rw [first, ne_eq, Option.some.injEq]
    exact digit_ne_pad _ (by omega)

/-- The base64 text of bytes is read as the bytes in either mode. -/
theorem decode_encode (mode : Mode) (bytes : List UInt8) :
    decode mode (encode bytes) = .ok bytes := by
  unfold decode
  rw [if_neg (fun h => encode_head bytes h.2)]
  exact decodeFrom_encode mode 0 bytes

theorem encode_inj {bytes bytes' : List UInt8} : encode bytes = encode bytes' ↔ bytes = bytes' := by
  constructor
  · intro same
    have read := decode_encode .strict bytes
    rw [same, decode_encode] at read
    exact (Except.ok.inj read).symm
  · exact congrArg encode

/-- A text that the strict reader accepts without its blanks is read the same by the lenient reader
with its blanks. -/
theorem decode_lenient {s : String} (h : decode .strict (squeeze s).toList = .ok bytes) :
    decode .lenient s.toList = .ok bytes := by
  unfold decode at h ⊢
  split at h
  · cases h
  · rw [if_neg (by simp)]
    rw [← lenient_filter]
    refine lenient_of_strict ?_
    simpa [squeeze] using h

theorem squeeze_ofBytes (bytes : List UInt8) : squeeze (ofBytes bytes) = ofBytes bytes := by
  have kept : (encode bytes).filter (fun c => !isBlank c) = encode bytes := by
    rw [List.filter_eq_self]
    intro c member
    rw [(encode_visible bytes c member).1, Bool.not_false]
  unfold squeeze ofBytes
  rw [String.toList_ofList, kept]

end ClusterAccess.Text.Base64
