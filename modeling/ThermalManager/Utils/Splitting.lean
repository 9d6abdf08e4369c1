import ThermalManager.Utils.StringOperation

/-!
# Splitting by positions

`SplitString` as it is written: positions into the string, `find`, `substr` and the vector the
pieces are appended to. It computes what `splitString` does. `ClearAllSpace` is called on a copy,
so the spaces of the string stay where they are, and its loop never ends on a string that has one.
-/

namespace ThermalManager

/-! ### std::string -/

/-- `find_first_not_of` for one character. -/
def findFirstNotOf (s : List Char) (sep : Char) : Option Nat := s.findIdx? fun c => !(c == sep)

/-- `find` from a position on, for one character. -/
def findFrom (s : List Char) (sep : Char) (begin : Nat) : Option Nat :=
  ((s.drop begin).findIdx? fun c => c == sep).map fun i => i + begin

/-- `substr`; nothing when the position is out of range, which throws. -/
def substr (s : List Char) (begin count : Nat) : Option (List Char) :=
  if s.length < begin then none else some ((s.drop begin).take count)

/-! ### The loop -/

/-- `while (begin != npos)`, given up after `fuel` rounds. -/
def splitLoopAt (s : List Char) (sep : Char) : Nat → Option Nat → List String →
    Option (List String)
  | _, none, ret => some ret
  | 0, some _, _ => none
  | fuel + 1, some begin, ret =>
      match findFrom s sep begin with
      | some pos => do
          let temp ← substr s begin (pos - begin)
          splitLoopAt s sep fuel (some (pos + 1))
            (if temp.isEmpty then ret else ret ++ [String.ofList temp])
      | none => do
          let temp ← substr s begin s.length
          splitLoopAt s sep fuel none (if temp.isEmpty then ret else ret ++ [String.ofList temp])

/-- `StringOperation::SplitString` for a separator of one character, with each of its loops given
up after `fuel` rounds. -/
def splitStringInto (fuel : Nat) (str : String) (sep : Char) (ret : List String) :
    Option (List String) := do
  let _ ← clearAllSpace fuel str.toList
  if str.toList.isEmpty then some ret
  else splitLoopAt str.toList sep fuel (findFirstNotOf str.toList sep) ret

/-- The pieces of the string with all spaces removed. -/
def pieces (str : String) (sep : Char) : List String :=
  tokens ((str.toList.filter fun c => c != ' ').splitOn sep)

/-! ### The loop is exact -/

theorem splitLoop_findIdx? (sep : Char) (chars temp : List Char) :
    splitLoop sep chars temp =
      (chars.findIdx? fun c => c == sep).elim
        (if (temp ++ chars).isEmpty then [] else [String.ofList (temp ++ chars)])
        fun i => (if (temp ++ chars.take i).isEmpty then []
            else [String.ofList (temp ++ chars.take i)]) ++
          splitLoop sep (chars.drop (i + 1)) [] := by
  induction chars generalizing temp with
  | nil => rw [splitLoop, List.findIdx?_nil, List.append_nil, Option.elim_none]
  | cons c rest ih =>
    rw [splitLoop, List.findIdx?_cons]
    by_cases hsep : c = sep
    · subst hsep
      rw [if_pos rfl, if_pos (beq_self_eq_true c)]
      simp
    · rw [if_neg hsep, if_neg (by simpa using hsep), ih]
      cases rest.findIdx? (fun c => c == sep) <;> simp

theorem appendPiece (ret : List String) (temp : List Char) (later : List String) :
    (if temp.isEmpty then ret else ret ++ [String.ofList temp]) ++ later =
      ret ++ ((if temp.isEmpty then [] else [String.ofList temp]) ++ later) := by
  split <;> simp

/-- The search position moves past every separator that is found. -/
theorem splitLoopAt_eq (s : List Char) (sep : Char) {fuel begin : Nat} (hbegin : begin ≤ s.length)
    (hfuel : s.length < begin + fuel) (ret : List String) :
    splitLoopAt s sep fuel (some begin) ret =
      some (ret ++ splitLoop sep (s.drop begin) []) := by
  induction fuel generalizing begin ret with
  | zero => omega
  | succ fuel ih =>
    rw [splitLoopAt, splitLoop_findIdx?, findFrom]
    cases hfind : (s.drop begin).findIdx? (fun c => c == sep) with
    | none =>
      have htake : (s.drop begin).take s.length = s.drop begin :=
        List.take_of_length_le (by simp)
      have happend := appendPiece ret (s.drop begin) []
      rw [List.append_nil, List.append_nil] at happend
      simp only [Option.map_none, substr, if_neg (Nat.not_lt.mpr hbegin), htake,
        Option.bind_eq_bind, Option.bind_some, Option.elim_none, List.nil_append, splitLoopAt,
        happend]
    | some i =>
      have hi : i < (s.drop begin).length := (List.findIdx?_eq_some_iff_findIdx_eq.mp hfind).1
      rw [List.length_drop] at hi
      have hnext (later : List String) :=
        ih (show i + begin + 1 ≤ s.length by omega) (by omega) later
      have hdrop : s.drop (i + begin + 1) = (s.drop begin).drop (i + 1) := by
        rw [List.drop_drop]
        congr 1
        omega
      simp only [Option.map_some, substr, if_neg (Nat.not_lt.mpr hbegin), Nat.add_sub_cancel,
        Option.bind_eq_bind, Option.bind_some, Option.elim_some, List.nil_append, hnext, hdrop,
        appendPiece]

theorem findFirstNotOf_eq_none {s : List Char} {sep : Char} (h : findFirstNotOf s sep = none) :
    s.dropWhile (fun c => c == sep) = [] := by
  rw [findFirstNotOf, List.findIdx?_eq_none_iff] at h
  exact List.dropWhile_eq_nil_iff.mpr fun c hc => by simpa using h c hc

theorem findFirstNotOf_eq_some {s : List Char} {sep : Char} {begin : Nat}
    (h : findFirstNotOf s sep = some begin) :
    begin ≤ s.length ∧ s.drop begin = s.dropWhile (fun c => c == sep) := by
  obtain ⟨hlt, heq⟩ := List.findIdx?_eq_some_iff_findIdx_eq.mp h
  refine ⟨hlt.le, ?_⟩
  rw [List.dropWhile_eq_drop_findIdx_not, heq]

theorem splitStringInto_eq_splitString {str : String} (sep : Char) (ret : List String)
    {fuel : Nat} (hfuel : str.toList.length < fuel) :
    splitStringInto fuel str sep ret = (splitString str sep).map fun tokens => ret ++ tokens := by
  have hclear := clearAllSpace_isSome_iff fuel str.toList
  rw [← clearAllSpace_isSome_iff (str.toList.length + 1)] at hclear
  rw [splitStringInto, splitString]
  cases hrun : clearAllSpace (str.toList.length + 1) str.toList with
  | none =>
    rw [hrun, Option.isSome_none, Bool.false_eq_true, iff_false, Bool.not_eq_true,
      Option.isSome_eq_false_iff, Option.isNone_iff_eq_none] at hclear
    rw [hclear]
    rfl
  | some s =>
    rw [hrun] at hclear
    obtain ⟨s', hs'⟩ := Option.isSome_iff_exists.mp (hclear.mpr rfl)
    simp only [hs', Option.bind_eq_bind, Option.bind_some, Option.map_some]
    split
    case isTrue hempty =>
      rw [List.isEmpty_iff.mp hempty]
      simp [splitLoop]
    case isFalse =>
      cases hfirst : findFirstNotOf str.toList sep with
      | none => simp [splitLoopAt, findFirstNotOf_eq_none hfirst, splitLoop]
      | some begin =>
        obtain ⟨hle, hdrop⟩ := findFirstNotOf_eq_some hfirst
        rw [splitLoopAt_eq _ _ hle (by omega), hdrop]

/-- A space anywhere keeps `SplitString` from returning. -/
theorem splitStringInto_eq_none {str : String} (hspace : ' ' ∈ str.toList) (fuel : Nat)
    (sep : Char) (ret : List String) : splitStringInto fuel str sep ret = none := by
  cases hclear : clearAllSpace fuel str.toList with
  | none =>
    rw [splitStringInto, hclear]
    rfl
  | some s =>
    have hsome := (clearAllSpace_isSome_iff fuel str.toList).mp (Option.isSome_of_eq_some hclear)
    exact absurd hspace hsome

/-- `SplitString` appends the pieces exactly when the string has no space; on all others it does
not return. -/
theorem splitStringInto_pieces_iff (str : String) (sep : Char) (ret : List String) :
    (∃ fuel, splitStringInto fuel str sep ret = some (ret ++ pieces str sep)) ↔
      ' ' ∉ str.toList := by
  constructor
  · rintro ⟨fuel, hrun⟩ hspace
    rw [splitStringInto_eq_none hspace] at hrun
    cases hrun
  · intro hspace
    refine ⟨str.toList.length + 1, ?_⟩
    obtain ⟨result, hresult⟩ := Option.isSome_iff_exists.mp
      ((splitString_isSome_iff str sep).mpr hspace)
    have hfilter : str.toList.filter (fun c => c != ' ') = str.toList := by
      rw [List.filter_eq_self]
      intro c hc
      rw [bne_iff_ne]
      rintro rfl
      exact hspace hc
    rw [splitStringInto_eq_splitString sep ret (Nat.lt_succ_self _), hresult, Option.map_some,
      splitString_eq hresult, pieces, hfilter]
    rfl

/-- The pieces would be `ab` and `c`. -/
theorem splitStringInto_space :
    ¬ ∃ fuel, splitStringInto fuel "a b,c" ',' [] = some ([] ++ pieces "a b,c" ',') := by
  rintro ⟨fuel, hrun⟩
  rw [splitStringInto_eq_none (by decide)] at hrun
  cases hrun

end ThermalManager
