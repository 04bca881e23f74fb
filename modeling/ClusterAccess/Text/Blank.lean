/-!
# Blank characters

A character is blank when Unicode counts it as white space or as a separator of lines,
paragraphs or records. `trim` drops blanks at both ends, `squeeze` drops them everywhere.
-/

namespace ClusterAccess.Text

/-- White space, and the four information separators of ASCII. -/
def isBlank (c : Char) : Bool :=
  let n := c.toNat
  (0x09 ≤ n && n ≤ 0x0D) || (0x1C ≤ n && n ≤ 0x20) || n == 0x85 || n == 0xA0 || n == 0x1680 ||
    (0x2000 ≤ n && n ≤ 0x200A) || n == 0x2028 || n == 0x2029 || n == 0x202F || n == 0x205F ||
    n == 0x3000

def trimBy (p : Char → Bool) (cs : List Char) : List Char :=
  ((cs.dropWhile p).reverse.dropWhile p).reverse

def trim (s : String) : String :=
  String.ofList (trimBy isBlank s.toList)

def squeeze (s : String) : String :=
  String.ofList (s.toList.filter fun c => !isBlank c)

theorem mem_squeeze {c : Char} {s : String} :
    c ∈ (squeeze s).toList ↔ c ∈ s.toList ∧ isBlank c = false := by
  simp [squeeze]

/-- The pieces of a list between the elements equal to `sep`; at least one piece. -/
def pieces (sep : Char) : List Char → List (List Char)
  | [] => [[]]
  | c :: rest =>
    if c = sep then [] :: pieces sep rest
    else
      match pieces sep rest with
      | [] => [[c]]
      | p :: ps => (c :: p) :: ps

def split (sep : Char) (s : String) : List String :=
  (pieces sep s.toList).map String.ofList

/-- Every line end, whether CR, LF or CR LF, as one LF. -/
def unifyLineEnds : List Char → List Char
  | '\r' :: '\n' :: rest => '\n' :: unifyLineEnds rest
  | '\r' :: rest => '\n' :: unifyLineEnds rest
  | c :: rest => c :: unifyLineEnds rest
  | [] => []

theorem not_mem_unifyLineEnds (cs : List Char) : '\r' ∉ unifyLineEnds cs := by
  fun_induction unifyLineEnds cs with
  | case1 rest ih => simpa using ih
  | case2 rest _ ih => simpa using ih
  | case3 c rest _ other ih =>
    intro member
    rcases List.mem_cons.mp member with same | member
    · exact other same.symm
    · exact ih member
  | case4 => exact List.not_mem_nil

/-- A text without a carriage return is left as it is, and no other. -/
theorem unifyLineEnds_eq_self_iff {cs : List Char} : unifyLineEnds cs = cs ↔ '\r' ∉ cs := by
  constructor
  · intro same
    rw [← same]
    exact not_mem_unifyLineEnds cs
  · intro free
    fun_induction unifyLineEnds cs with
    | case1 => exact absurd List.mem_cons_self free
    | case2 => exact absurd List.mem_cons_self free
    | case3 c rest _ _ ih => rw [ih fun member => free (List.mem_cons_of_mem c member)]
    | case4 => rfl

end ClusterAccess.Text
