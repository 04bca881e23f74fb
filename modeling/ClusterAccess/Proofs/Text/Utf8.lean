import ClusterAccess.Text.Utf8

/-!
# UTF-8 written and read

Bytes are read as a text exactly if they are the bytes of that text (`toString?_eq_some_iff`). So
each text has one form in bytes, and what is read is written back as it was.
-/

namespace ClusterAccess.Text.Utf8

/-! ### Bytes and characters -/

theorem toNat_toUInt8 {n : Nat} (h : n < 256) : n.toUInt8.toNat = n := by
  simp only [Nat.toUInt8, UInt8.toNat_ofNat']
  omega

theorem toUInt8_of_toNat {n : Nat} {b : UInt8} (h : b.toNat = n) : n.toUInt8 = b := by
  rw [← h]
  exact UInt8.ofNat_toNat

theorem toNat_lt (c : Char) : c.toNat < 0x110000 := by
  rcases c.valid with low | ⟨_, high⟩
  · exact Nat.lt_trans low (by decide)
  · exact high

theorem continuation_eq_some {b : UInt8} {v : Nat} :
    continuation b = some v ↔ v < 64 ∧ b.toNat = 0x80 + v := by
  unfold continuation
  simp only [Bool.and_eq_true, decide_eq_true_eq, Option.ite_none_right_eq_some, Option.some.injEq]
  omega

theorem continuation_toUInt8 {v : Nat} (h : v < 64) : continuation (0x80 + v).toUInt8 = some v :=
  continuation_eq_some.mpr ⟨h, toNat_toUInt8 (by omega)⟩

/-- A number that is large enough and a character's is read as that character. -/
theorem scalar_eq_some {least n : Nat} {c : Char} :
    scalar least n = some c ↔ c.toNat = n ∧ least ≤ n := by
  unfold scalar
  constructor
  · intro h
    by_cases valid : n.isValidChar
    · rw [dif_pos valid] at h
      by_cases large : least ≤ n
      · rw [if_pos large] at h
        obtain rfl := Option.some.inj h
        exact ⟨rfl, large⟩
      · rw [if_neg large] at h
        cases h
    · rw [dif_neg valid] at h
      cases h
  · rintro ⟨rfl, large⟩
    have valid : c.toNat.isValidChar := c.valid
    rw [dif_pos valid, if_pos large]
    rfl

/-! ### The four lengths -/

variable {b b1 b2 b3 : UInt8} {rest : List UInt8} {c : Char}

theorem decode_one (low : b.toNat < 0x80) :
    decode (b :: rest) = (decode rest).map (Char.ofNat b.toNat :: ·) := by
  rw [decode.eq_def (b :: rest)]
  dsimp only
  rw [if_pos low]

theorem decode_two {c1 : Nat} (high : 0xC0 ≤ b.toNat) (low : b.toNat < 0xE0)
    (first : continuation b1 = some c1)
    (char : scalar 0x80 ((b.toNat - 0xC0) * 64 + c1) = some c) :
    decode (b :: b1 :: rest) = (decode rest).map (c :: ·) := by
  rw [decode.eq_def (b :: b1 :: rest)]
  dsimp only
  rw [if_neg (by omega), if_neg (by omega), if_pos low]
  simp only [Option.bind_eq_bind]
  -- Step by step: a check by computation would evaluate the number of the character.
  rw [first, Option.bind_some, char, Option.bind_some]

theorem decode_three {c1 c2 : Nat} (high : 0xE0 ≤ b.toNat) (low : b.toNat < 0xF0)
    (first : continuation b1 = some c1) (second : continuation b2 = some c2)
    (char : scalar 0x800 ((b.toNat - 0xE0) * 4096 + c1 * 64 + c2) = some c) :
    decode (b :: b1 :: b2 :: rest) = (decode rest).map (c :: ·) := by
  rw [decode.eq_def (b :: b1 :: b2 :: rest)]
  dsimp only
  rw [if_neg (by omega), if_neg (by omega), if_neg (by omega), if_pos low]
  simp only [Option.bind_eq_bind]
  rw [first, Option.bind_some, second, Option.bind_some, char, Option.bind_some]

theorem decode_four {c1 c2 c3 : Nat} (high : 0xF0 ≤ b.toNat) (low : b.toNat < 0xF8)
    (first : continuation b1 = some c1) (second : continuation b2 = some c2)
    (third : continuation b3 = some c3)
    (char : scalar 0x10000 ((b.toNat - 0xF0) * 262144 + c1 * 4096 + c2 * 64 + c3) = some c) :
    decode (b :: b1 :: b2 :: b3 :: rest) = (decode rest).map (c :: ·) := by
  rw [decode.eq_def (b :: b1 :: b2 :: b3 :: rest)]
  dsimp only
  rw [if_neg (by omega), if_neg (by omega), if_neg (by omega), if_neg (by omega), if_pos low]
  simp only [Option.bind_eq_bind]
  rw [first, Option.bind_some, second, Option.bind_some, third, Option.bind_some, char,
    Option.bind_some]

/-! ### Reading what was written -/

/-- The bytes of a character are read as that character, whatever follows. -/
theorem decode_encodeChar (c : Char) (rest : List UInt8) :
    decode (encodeChar c ++ rest) = (decode rest).map (c :: ·) := by
  have bound := toNat_lt c
  have tail (v : Nat) : continuation (0x80 + v % 64).toUInt8 = some (v % 64) :=
    continuation_toUInt8 (Nat.mod_lt _ (by decide))
  unfold encodeChar encodeNat
  split
  · have byte : c.toNat.toUInt8.toNat = c.toNat := toNat_toUInt8 (by omega)
    rw [List.singleton_append, decode_one (by omega), byte, Char.ofNat_toNat]
  · split
    · have lead : (0xC0 + c.toNat / 64).toUInt8.toNat = 0xC0 + c.toNat / 64 :=
        toNat_toUInt8 (by omega)
      exact decode_two (by omega) (by omega) (tail _) (scalar_eq_some.mpr (by omega))
    · split
      · have lead : (0xE0 + c.toNat / 4096).toUInt8.toNat = 0xE0 + c.toNat / 4096 :=
          toNat_toUInt8 (by omega)
        exact decode_three (by omega) (by omega) (tail _) (tail _) (scalar_eq_some.mpr (by omega))
      · have lead : (0xF0 + c.toNat / 262144).toUInt8.toNat = 0xF0 + c.toNat / 262144 :=
          toNat_toUInt8 (by omega)
        exact decode_four (by omega) (by omega) (tail _) (tail _) (tail _)
          (scalar_eq_some.mpr (by omega))

theorem encode_cons (c : Char) (cs : List Char) :
    encode (c :: cs) = encodeChar c ++ encode cs := rfl

theorem decode_encode (cs : List Char) : decode (encode cs) = some cs := by
  induction cs with
  | nil => rfl
  | cons c cs ih => rw [encode_cons, decode_encodeChar, ih, Option.map_some]

theorem ofString_inj {s t : String} : ofString s = ofString t ↔ s = t := by
  constructor
  · intro same
    have read := decode_encode s.toList
    change encode s.toList = encode t.toList at same
    rw [same, decode_encode] at read
    exact (String.toList_inj.mp (Option.some.inj read)).symm
  · exact congrArg ofString

/-- A text joined by a colon is written part by part. -/
theorem ofString_colon (s t : String) :
    ofString (s ++ ":" ++ t) = ofString s ++ 0x3A :: ofString t := by
  unfold ofString encode
  rw [String.toList_append, String.toList_append, List.flatMap_append, List.flatMap_append,
    List.append_assoc]
  rfl

/-! ### Writing what was read -/

theorem encodeChar_one (low : b.toNat < 0x80) : encodeChar (Char.ofNat b.toNat) = [b] := by
  have value : (Char.ofNat b.toNat).toNat = b.toNat := by
    unfold Char.ofNat
    rw [dif_pos (.inl (by omega))]
    rfl
  unfold encodeChar encodeNat
  rw [value, if_pos low, toUInt8_of_toNat rfl]

theorem encodeChar_two {c1 : Nat} (high : 0xC0 ≤ b.toNat) (low : b.toNat < 0xE0)
    (first : continuation b1 = some c1)
    (char : scalar 0x80 ((b.toNat - 0xC0) * 64 + c1) = some c) : encodeChar c = [b, b1] := by
  obtain ⟨bound, tail⟩ := continuation_eq_some.mp first
  obtain ⟨value, large⟩ := scalar_eq_some.mp char
  unfold encodeChar encodeNat
  rw [if_neg (by omega), if_pos (by omega), toUInt8_of_toNat (show b.toNat = _ by omega),
    toUInt8_of_toNat (show b1.toNat = _ by omega)]

theorem encodeChar_three {c1 c2 : Nat} (high : 0xE0 ≤ b.toNat) (low : b.toNat < 0xF0)
    (first : continuation b1 = some c1) (second : continuation b2 = some c2)
    (char : scalar 0x800 ((b.toNat - 0xE0) * 4096 + c1 * 64 + c2) = some c) :
    encodeChar c = [b, b1, b2] := by
  obtain ⟨bound, tail⟩ := continuation_eq_some.mp first
  obtain ⟨bound', tail'⟩ := continuation_eq_some.mp second
  obtain ⟨value, large⟩ := scalar_eq_some.mp char
  unfold encodeChar encodeNat
  rw [if_neg (by omega), if_neg (by omega), if_pos (by omega),
    toUInt8_of_toNat (show b.toNat = _ by omega), toUInt8_of_toNat (show b1.toNat = _ by omega),
    toUInt8_of_toNat (show b2.toNat = _ by omega)]

theorem encodeChar_four {c1 c2 c3 : Nat} (high : 0xF0 ≤ b.toNat) (low : b.toNat < 0xF8)
    (first : continuation b1 = some c1) (second : continuation b2 = some c2)
    (third : continuation b3 = some c3)
    (char : scalar 0x10000 ((b.toNat - 0xF0) * 262144 + c1 * 4096 + c2 * 64 + c3) = some c) :
    encodeChar c = [b, b1, b2, b3] := by
  obtain ⟨bound, tail⟩ := continuation_eq_some.mp first
  obtain ⟨bound', tail'⟩ := continuation_eq_some.mp second
  obtain ⟨bound'', tail''⟩ := continuation_eq_some.mp third
  obtain ⟨value, large⟩ := scalar_eq_some.mp char
  unfold encodeChar encodeNat
  rw [if_neg (by omega), if_neg (by omega), if_neg (by omega),
    toUInt8_of_toNat (show b.toNat = _ by omega), toUInt8_of_toNat (show b1.toNat = _ by omega),
    toUInt8_of_toNat (show b2.toNat = _ by omega), toUInt8_of_toNat (show b3.toNat = _ by omega)]

/-- What is read is written back as it was: no sequence that is read is overlong. -/
theorem encode_of_decode {bytes : List UInt8} {cs : List Char} (h : decode bytes = some cs) :
    encode cs = bytes := by
  fun_induction decode bytes generalizing cs with
  | case1 =>
    obtain rfl := Option.some.inj h
    rfl
  | case2 b rest n low =>
    rename_i ih
    obtain ⟨more, read, rfl⟩ := Option.map_eq_some_iff.mp h
    rw [encode_cons, ih read, encodeChar_one low]
    rfl
  | case4 b n _ high low b1 rest =>
    rename_i ih
    simp only [Option.bind_eq_bind, Option.bind_eq_some_iff, Option.map_eq_some_iff] at h
    obtain ⟨c1, first, c, char, more, read, rfl⟩ := h
    rw [encode_cons, ih read, encodeChar_two (by omega) low first char]
    rfl
  | case6 b n _ _ high low b1 b2 rest =>
    rename_i ih
    simp only [Option.bind_eq_bind, Option.bind_eq_some_iff, Option.map_eq_some_iff] at h
    obtain ⟨c1, first, c2, second, c, char, more, read, rfl⟩ := h
    rw [encode_cons, ih read, encodeChar_three (by omega) low first second char]
    rfl
  | case8 b n _ _ _ high low b1 b2 b3 rest =>
    rename_i ih
    simp only [Option.bind_eq_bind, Option.bind_eq_some_iff, Option.map_eq_some_iff] at h
    obtain ⟨c1, first, c2, second, c3, third, c, char, more, read, rfl⟩ := h
    rw [encode_cons, ih read, encodeChar_four (by omega) low first second third char]
    rfl
  -- A byte that starts no sequence, or too few bytes behind one.
  | _ => cases h

/-- Bytes spell one text at most, and a text is spelled by its own bytes only. -/
theorem toString?_eq_some_iff {bytes : List UInt8} {s : String} :
    toString? bytes = some s ↔ bytes = ofString s := by
  unfold toString? ofString
  constructor
  · intro h
    obtain ⟨cs, read, rfl⟩ := Option.map_eq_some_iff.mp h
    rw [String.toList_ofList, encode_of_decode read]
  · rintro rfl
    rw [decode_encode, Option.map_some, String.ofList_toList]

end ClusterAccess.Text.Utf8
