import Mathlib.Algebra.Group.Nat.Defs
import Mathlib.Algebra.Group.Int.Defs
import Mathlib.Data.List.TakeWhile
import Mathlib.Data.Int.Basic

/-!
# String operations

The conversions of `string_operation.cpp` and the C library calls under them, for a 64-bit `long`.
A `std::string` handed to a C function ends at its first NUL character. A conversion skips white
space, takes an optional sign and then the longest run of decimal digits; without a digit it
converts nothing and leaves the end pointer at the start of the string.
-/

namespace ThermalManager

/-! ### Machine integers -/

/-- `static_cast<uint32_t>` -/
def toUint32 (x : Int) : Int := x % 2 ^ 32

/-- `static_cast<int32_t>` -/
def toInt32 (x : Int) : Int := Int.bmod x (2 ^ 32)

/-! ### The C library -/

/-- The characters a C function sees of a string. -/
def cStr (str : String) : List Char := str.toList.takeWhile (fun c => c != '\x00')

def isspace (c : Char) : Bool :=
  c == ' ' || c == '\t' || c == '\n' || c == '\x0b' || c == '\x0c' || c == '\r'

def isdigit (c : Char) : Bool := '0' ≤ c && c ≤ '9'

def digitsValue (digits : List Char) : Nat :=
  digits.foldl (fun value c => 10 * value + (c.toNat - '0'.toNat)) 0

/-- What a conversion reads: the sign, the number and the characters after it. -/
structure Scanned where
  negative : Bool
  value : Nat
  rest : List Char

def scanDigits (negative : Bool) (chars : List Char) : Option Scanned :=
  let digits := chars.takeWhile isdigit
  if digits.isEmpty then none
  else some ⟨negative, digitsValue digits, chars.dropWhile isdigit⟩

/-- The subject sequence of `strtol` and its relatives in base ten. -/
def scanDecimal (chars : List Char) : Option Scanned :=
  match chars.dropWhile isspace with
  | '-' :: tail => scanDigits true tail
  | '+' :: tail => scanDigits false tail
  | tail => scanDigits false tail

def longMax : Int := 2 ^ 63 - 1
def longMin : Int := -2 ^ 63
def ulongMax : Nat := 2 ^ 64 - 1

/-- `strtol` saturates at the ends of `long`. -/
def strtol (str : String) : Int :=
  match scanDecimal (cStr str) with
  | none => 0
  | some scanned =>
      let value : Int := if scanned.negative then -scanned.value else scanned.value
      max longMin (min longMax value)

/-- The characters from the end pointer on. -/
def strtolEnd (str : String) : List Char :=
  match scanDecimal (cStr str) with
  | none => cStr str
  | some scanned => scanned.rest

/-- `atol` is `strtol` without the end pointer. -/
def atol (str : String) : Int := strtol str

/-- `strtoll` on a 64-bit `long` is `strtol`. -/
def strtoll (str : String) : Int := strtol str

/-- `std::stoi`; nothing when it throws. -/
def stoi (str : String) : Option Int :=
  match scanDecimal (cStr str) with
  | none => none
  | some scanned =>
      let value : Int := if scanned.negative then -scanned.value else scanned.value
      if value < -2 ^ 31 ∨ 2 ^ 31 - 1 < value then none else some value

/-- `strtoul` wraps a negative value and saturates, with `ERANGE`, a value that is too large. -/
def strtoul (scanned : Scanned) : Nat :=
  if ulongMax < scanned.value then ulongMax
  else if scanned.negative then (2 ^ 64 - scanned.value) % 2 ^ 64
  else scanned.value

/-! ### StringOperation -/

/-- `StringOperation::StrToUint`; nothing when it returns false, which leaves its output as it
was. -/
def strToUint (str : String) : Option Nat :=
  match str.toList.head? with
  | none => none
  | some front =>
      if !isdigit front && front != '-' then none
      else
        match scanDecimal (cStr str) with
        | none => none
        | some scanned =>
            if !scanned.rest.isEmpty || decide (ulongMax < scanned.value)
                || decide (ulongMax ≤ strtoul scanned) then none
            else some (strtoul scanned % 2 ^ 32)

/-- `StringOperation::ParseStrtollResult`. -/
def parseStrtollResult (str : String) : Option Int :=
  match scanDecimal (cStr str) with
  | none => none
  | some scanned =>
      let value : Int := if scanned.negative then -scanned.value else scanned.value
      if value < longMin ∨ longMax < value then none else some (strtoll str)

/-- `while (index != npos) s.erase(index, 1)`, given up after `fuel` rounds. The source does not
look for the next space: the index stays what it was. -/
def eraseLoop : Nat → List Char → Option Nat → Option (List Char)
  | _, s, none => some s
  | 0, _, some _ => none
  | fuel + 1, s, some index => eraseLoop fuel (s.eraseIdx index) (some index)

/-- `StringOperation::ClearAllSpace` on its own copy of the string; nothing while the loop is still
running after `fuel` rounds. -/
def clearAllSpace (fuel : Nat) (s : List Char) : Option (List Char) :=
  if s.isEmpty then some s
  else eraseLoop fuel s (s.findIdx? (fun c => c == ' '))

/-- The tokens between separators, without the empty ones. -/
def splitLoop (sep : Char) : List Char → List Char → List String
  | [], temp => if temp.isEmpty then [] else [String.ofList temp]
  | c :: rest, temp =>
      if c = sep then
        (if temp.isEmpty then [] else [String.ofList temp]) ++ splitLoop sep rest []
      else splitLoop sep rest (temp ++ [c])

/-- `StringOperation::SplitString` for a separator of one character; nothing when the call does
not return. It clears the spaces of a copy and then splits the string it was given. -/
def splitString (str : String) (sep : Char) : Option (List String) :=
  match clearAllSpace (str.toList.length + 1) str.toList with
  | none => none
  | some _ => some (splitLoop sep (str.toList.dropWhile (fun c => c == sep)) [])

/-! ### What the conversions compute -/

def decimalValue (str : String) : Option Nat :=
  if !str.toList.isEmpty && str.toList.all isdigit then some (digitsValue str.toList) else none

theorem eraseLoop_eq_none (fuel : Nat) (s : List Char) (index : Nat) :
    eraseLoop fuel s (some index) = none := by
  induction fuel generalizing s with
  | zero => rfl
  | succ fuel ih => exact ih (s.eraseIdx index)

/-- The loop of `ClearAllSpace` ends exactly on the strings without a space, and then at once: no
amount of fuel makes a difference. -/
theorem clearAllSpace_isSome_iff (fuel : Nat) (s : List Char) :
    (clearAllSpace fuel s).isSome ↔ ' ' ∉ s := by
  unfold clearAllSpace
  cases s with
  | nil => simp
  | cons c rest =>
    rw [if_neg (by simp)]
    cases hfind : (c :: rest).findIdx? (fun c => c == ' ') with
    | none =>
      rw [List.findIdx?_eq_none_iff] at hfind
      have hnot : ' ' ∉ c :: rest := fun hmem => by simpa using hfind ' ' hmem
      unfold eraseLoop
      simpa using hnot
    | some index =>
      rw [eraseLoop_eq_none]
      have hsome : ((c :: rest).findIdx? (fun c => c == ' ')).isSome := by rw [hfind]; rfl
      rw [List.findIdx?_isSome, List.any_eq_true] at hsome
      obtain ⟨x, hx, hspace⟩ := hsome
      rw [beq_iff_eq] at hspace
      subst hspace
      simp [hx]

/-- `SplitString` returns exactly on the strings without a space. -/
theorem splitString_isSome_iff (str : String) (sep : Char) :
    (splitString str sep).isSome ↔ ' ' ∉ str.toList := by
  have hclear := clearAllSpace_isSome_iff (str.toList.length + 1) str.toList
  unfold splitString
  cases hrun : clearAllSpace (str.toList.length + 1) str.toList with
  | none =>
    rw [hrun] at hclear
    simpa using hclear
  | some s =>
    rw [hrun] at hclear
    simpa using hclear

/-- The number a string writes, if it writes a decimal `int32_t`. -/
def decimalInt32 (str : String) : Option Int :=
  match str.toList with
  | '-' :: digits =>
      (decimalValue (String.ofList digits)).bind fun n => if n ≤ 2 ^ 31 then some (-n) else none
  | _ => (decimalValue str).bind fun n => if n < 2 ^ 31 then some (n : Int) else none

/-- The fields between the separators, with the empty ones. -/
def fields (str : String) (sep : Char) : List String :=
  (str.toList.splitOn sep).map String.ofList

/-- What is left of the fields without the empty ones. -/
def tokens (fields : List (List Char)) : List String :=
  (fields.map String.ofList).filter fun field => field != ""

theorem tokens_cons (field : List Char) (rest : List (List Char)) :
    tokens (field :: rest) =
      (if field.isEmpty then [] else [String.ofList field]) ++ tokens rest := by
  cases field with
  | nil => rfl
  | cons c chars =>
    have hne : (String.ofList (c :: chars) != "") = true := by
      rw [bne_iff_ne, Ne, String.ofList_eq_empty_iff]
      exact List.cons_ne_nil c chars
    rw [tokens, List.map_cons, List.filter_cons, if_pos hne]
    rfl

theorem splitLoop_eq (sep : Char) (chars temp : List Char) :
    splitLoop sep chars temp = tokens ((chars.splitOn sep).modifyHead (temp ++ ·)) := by
  induction chars generalizing temp with
  | nil =>
    rw [splitLoop, List.splitOn_nil, List.modifyHead_cons, List.append_nil, tokens_cons]
    exact (List.append_nil _).symm
  | cons c rest ih =>
    rw [splitLoop, List.splitOn_cons_eq_if_modifyHead]
    by_cases hsep : c = sep
    · subst hsep
      rw [if_pos rfl, if_pos (beq_self_eq_true c), List.modifyHead_cons, List.append_nil,
        tokens_cons, ih]
      congr 2
      cases rest.splitOn c <;> rfl
    · rw [if_neg hsep, if_neg (by simpa using hsep), ih, List.modifyHead_modifyHead]
      congr 2
      funext chars
      simp

/-- Separators in front give empty fields only. -/
theorem splitLoop_dropWhile (sep : Char) (chars : List Char) :
    splitLoop sep (chars.dropWhile fun c => c == sep) [] = splitLoop sep chars [] := by
  induction chars with
  | nil => rfl
  | cons c rest ih =>
    by_cases hsep : c = sep
    · subst hsep
      rw [List.dropWhile_cons, if_pos (beq_self_eq_true c), ih, splitLoop, if_pos rfl]
      rfl
    · rw [List.dropWhile_cons, if_neg (by simpa using hsep)]

theorem splitString_eq {str : String} {sep : Char} {tokens : List String}
    (h : splitString str sep = some tokens) :
    tokens = (fields str sep).filter fun field => field != "" := by
  rw [splitString] at h
  split at h
  case h_1 => cases h
  case h_2 =>
    obtain rfl := Option.some.inj h
    rw [splitLoop_dropWhile, splitLoop_eq]
    have hid : (str.toList.splitOn sep).modifyHead ([] ++ ·) = str.toList.splitOn sep := by
      cases str.toList.splitOn sep <;> rfl
    rw [hid]
    rfl

theorem splitLoop_eq_nil_iff {sep : Char} {chars temp : List Char} :
    splitLoop sep chars temp = [] ↔ temp = [] ∧ ∀ c ∈ chars, c = sep := by
  induction chars generalizing temp with
  | nil => cases temp <;> simp [splitLoop]
  | cons c rest ih =>
    rw [splitLoop]
    by_cases hsep : c = sep
    · rw [if_pos hsep, List.append_eq_nil_iff, ih]
      cases temp <;> simp [hsep]
    · rw [if_neg hsep, ih]
      simp [hsep]

theorem splitString_eq_nil_iff {str : String} {sep : Char} {tokens : List String}
    (h : splitString str sep = some tokens) : tokens = [] ↔ ∀ c ∈ str.toList, c = sep := by
  rw [splitString] at h
  split at h
  case h_1 => cases h
  case h_2 =>
    obtain rfl := Option.some.inj h
    rw [splitLoop_dropWhile, splitLoop_eq_nil_iff]
    exact and_iff_right rfl

private theorem isdigit_ne_nul {c : Char} (h : isdigit c = true) : c ≠ '\x00' := by
  intro heq
  subst heq
  exact absurd h (by decide)

private theorem not_isspace_of_isdigit {c : Char} (h : isdigit c = true) : isspace c = false := by
  simp only [isdigit, Bool.and_eq_true, decide_eq_true_eq] at h
  simp only [isspace, Bool.or_eq_false_iff, beq_eq_false_iff_ne, ne_eq]
  refine ⟨⟨⟨⟨⟨?_, ?_⟩, ?_⟩, ?_⟩, ?_⟩, ?_⟩
  all_goals
    intro heq
    subst heq
    exact absurd h.1 (by decide)

private theorem not_sign_of_isdigit {c : Char} (h : isdigit c = true) : c ≠ '-' ∧ c ≠ '+' := by
  refine ⟨fun heq => ?_, fun heq => ?_⟩
  · subst heq
    exact absurd h (by decide)
  · subst heq
    exact absurd h (by decide)

theorem scanDecimal_of_digit {front : Char} {tail : List Char} (hfront : isdigit front = true) :
    scanDecimal (front :: tail) = scanDigits false (front :: tail) := by
  have hsign := not_sign_of_isdigit hfront
  have hspace : (front :: tail).dropWhile isspace = front :: tail := by
    rw [List.dropWhile_cons, not_isspace_of_isdigit hfront]
    rfl
  unfold scanDecimal
  rw [hspace]
  split
  · rename_i heq
    exact absurd (List.cons.inj heq).1 hsign.1
  · rename_i heq
    exact absurd (List.cons.inj heq).1 hsign.2
  · rfl

theorem scanDigits_of_all_digits {negative : Bool} {chars : List Char} (hne : chars ≠ [])
    (hall : ∀ c ∈ chars, isdigit c = true) :
    scanDigits negative chars = some ⟨negative, digitsValue chars, []⟩ := by
  rw [scanDigits, List.takeWhile_eq_self_iff.mpr hall, List.dropWhile_eq_nil_iff.mpr hall]
  exact if_neg (by simpa using hne)

theorem scanDecimal_of_all_digits {chars : List Char} (hne : chars ≠ [])
    (hall : ∀ c ∈ chars, isdigit c = true) :
    scanDecimal chars = some ⟨false, digitsValue chars, []⟩ := by
  obtain ⟨front, tail, rfl⟩ := List.exists_cons_of_ne_nil hne
  have hfront : isdigit front = true := hall front (by simp)
  rw [scanDecimal_of_digit hfront, scanDigits_of_all_digits hne hall]

theorem strToUint_of_decimalValue {str : String} {n : Nat} (hvalue : decimalValue str = some n)
    (hlt : n < 2 ^ 32) : strToUint str = some n := by
  unfold decimalValue at hvalue
  split at hvalue
  · rename_i hdigits
    simp only [Bool.and_eq_true, Bool.not_eq_true', List.isEmpty_eq_false_iff,
      List.all_eq_true] at hdigits
    obtain ⟨hne, hall⟩ := hdigits
    have hn : digitsValue str.toList = n := Option.some.inj hvalue
    have hcstr : cStr str = str.toList :=
      List.takeWhile_eq_self_iff.mpr (fun c hc => by simpa using isdigit_ne_nul (hall c hc))
    obtain ⟨front, tail, hcons⟩ := List.exists_cons_of_ne_nil hne
    have hfront : isdigit front = true := hall front (by rw [hcons]; simp)
    have hhead : str.toList.head? = some front := by rw [hcons]; rfl
    have hscan : scanDecimal (cStr str) = some ⟨false, n, []⟩ := by
      rw [hcstr, scanDecimal_of_all_digits hne hall, hn]
    have hlarge : ¬ ulongMax < n := by unfold ulongMax; omega
    have hstrtoul : strtoul ⟨false, n, []⟩ = n := by simp [strtoul, hlarge]
    unfold strToUint
    simp only [hhead, hfront, hscan, hstrtoul, Bool.not_true, Bool.false_and, Bool.false_eq_true,
      if_false, List.isEmpty_nil, hlarge, decide_false, Bool.or_false, Bool.false_or]
    have hmax : ¬ ulongMax ≤ n := by unfold ulongMax; omega
    rw [decide_eq_false hmax, if_neg (by simp), Nat.mod_eq_of_lt hlt]
  · exact absurd hvalue (by simp)

example : strToUint "3000" = some 3000 ∧ strToUint "-5" = some 4294967291 ∧
    strToUint "4294967297" = some 1 ∧ strToUint "12a" = none := by decide

end ThermalManager
