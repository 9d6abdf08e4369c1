import ThermalManager.Utils.StringOperation

/-!
# Which strings are uint32 decimals

`StrToUint` lets `strtoul` read the string as a 64-bit `unsigned long` and cuts the result to 32
bits. It stores the number written by every `uint32_t` decimal. What else it accepts are negative
numbers, which `strtoul` wraps, numbers between 32 and 64 bits, and decimals with a NUL character
behind them.
-/

namespace ThermalManager

/-- What a conversion tells its caller: whether it succeeded, and the output, which a conversion
that fails leaves as it was. -/
def stored (value : Nat) (converted : Option Nat) : Bool × Nat :=
  (converted.isSome, converted.getD value)

theorem stored_inj {value : Nat} {a b : Option Nat} : stored value a = stored value b ↔ a = b := by
  refine ⟨fun h => ?_, fun h => by rw [h]⟩
  cases a <;> cases b <;> simp_all [stored]

/-- The number a string writes, if it writes a decimal `uint32_t`. -/
def decimalUint32 (str : String) : Option Nat :=
  (decimalValue str).bind fun n => if n ≤ 2 ^ 32 - 1 then some n else none

def AllDigits (chars : List Char) : Prop := chars ≠ [] ∧ ∀ c ∈ chars, isdigit c = true

/-- A minus sign and a number whose negation `strtoul` wraps into range. -/
def WrapsNegative (str : String) : Prop :=
  ∃ digits, cStr str = '-' :: digits ∧ AllDigits digits ∧ digitsValue digits ≤ ulongMax ∧
    digitsValue digits ≠ 1

/-- A number below `ULONG_MAX` that does not fit, or that does not end the string. -/
def CutsOff (str : String) : Prop :=
  AllDigits (cStr str) ∧ digitsValue (cStr str) < ulongMax ∧
    (2 ^ 32 ≤ digitsValue (cStr str) ∨ cStr str ≠ str.toList)

/-! ### What strtoul makes of a string -/

theorem decimalUint32_eq_some_iff {str : String} {n : Nat} :
    decimalUint32 str = some n ↔
      AllDigits str.toList ∧ digitsValue str.toList = n ∧ n < 2 ^ 32 := by
  have hdigits : (!str.toList.isEmpty && str.toList.all isdigit) = true ↔
      AllDigits str.toList := by
    simp only [AllDigits, Bool.and_eq_true, Bool.not_eq_true', List.isEmpty_eq_false_iff,
      List.all_eq_true]
  unfold decimalUint32 decimalValue
  by_cases hall : AllDigits str.toList
  · rw [if_pos (hdigits.mpr hall), Option.bind_some]
    split
    case isTrue hle =>
      simp only [hall, Option.some.injEq, true_and]
      omega
    case isFalse hgt =>
      simp only [hall, reduceCtorEq, true_and, false_iff]
      omega
  · rw [if_neg (mt hdigits.mp hall)]
    simp [hall]

theorem cStr_eq_of_allDigits {str : String} (h : AllDigits str.toList) :
    cStr str = str.toList := by
  apply List.takeWhile_eq_self_iff.mpr
  intro c hc
  rw [bne_iff_ne]
  rintro rfl
  exact absurd (h.2 _ hc) (by decide)

theorem scanDigits_rest {negative : Bool} {chars : List Char} {scanned : Scanned}
    (hscan : scanDigits negative chars = some scanned) (hrest : scanned.rest = []) :
    AllDigits chars := by
  rw [scanDigits] at hscan
  split at hscan
  case isTrue => cases hscan
  case isFalse hne =>
    obtain rfl := Option.some.inj hscan
    have hall := List.dropWhile_eq_nil_iff.mp hrest
    refine ⟨?_, hall⟩
    rintro rfl
    exact hne rfl

theorem strToUint_eq_some_iff {str : String} {front : Char} {negative : Bool} {chars : List Char}
    (hfront : str.toList.head? = some front) (hok : isdigit front = true ∨ front = '-')
    (hscan : scanDecimal (cStr str) = scanDigits negative chars) {n : Nat} :
    strToUint str = some n ↔ AllDigits chars ∧ digitsValue chars ≤ ulongMax ∧
      strtoul ⟨negative, digitsValue chars, []⟩ < ulongMax ∧
      strtoul ⟨negative, digitsValue chars, []⟩ % 2 ^ 32 = n := by
  have hpass : (!isdigit front && front != '-') = false := by
    rcases hok with hdigit | rfl
    · rw [hdigit]
      rfl
    · rfl
  rw [strToUint, hfront, hscan]
  simp only [hpass, Bool.false_eq_true, if_false]
  by_cases hall : AllDigits chars
  · rw [scanDigits_of_all_digits hall.1 hall.2]
    simp only [List.isEmpty_nil, Bool.not_true, Bool.false_or, Bool.or_eq_true, decide_eq_true_eq]
    split
    case isTrue hlarge =>
      refine iff_of_false (by simp) ?_
      rintro ⟨-, hle, hlt, -⟩
      omega
    case isFalse hsmall =>
      rw [not_or, not_lt, not_le] at hsmall
      simp [hall, hsmall]
  · refine iff_of_false ?_ fun h => hall h.1
    cases hdigits : scanDigits negative chars with
    | none => simp
    | some scanned =>
      have hrest : scanned.rest.isEmpty = false := by
        rw [List.isEmpty_eq_false_iff]
        exact fun hnil => hall (scanDigits_rest hdigits hnil)
      simp [hrest]

theorem cStr_cons {str : String} {front : Char} {tail : List Char}
    (hcons : str.toList = front :: tail) (hnul : front ≠ '\x00') :
    cStr str = front :: tail.takeWhile fun c => c != '\x00' := by
  rw [cStr, hcons, List.takeWhile_cons, if_pos (by simpa using hnul)]

theorem strToUint_minus {str : String} {tail : List Char} (hcons : str.toList = '-' :: tail) :
    (∃ n, strToUint str = some n) ↔ WrapsNegative str := by
  have hcstr := cStr_cons hcons (by decide)
  have hscan : scanDecimal (cStr str) =
      scanDigits true (tail.takeWhile fun c => c != '\x00') := by
    rw [hcstr]
    rfl
  have hiff := fun n => strToUint_eq_some_iff (n := n) (by rw [hcons]; rfl) (Or.inr rfl) hscan
  simp only [hiff, WrapsNegative, hcstr, List.cons.injEq, true_and]
  constructor
  · rintro ⟨n, hall, hle, hlt, -⟩
    refine ⟨_, rfl, hall, hle, fun hone => ?_⟩
    rw [hone] at hlt
    exact absurd hlt (by decide)
  · rintro ⟨digits, rfl, hall, hle, hne⟩
    refine ⟨_, hall, hle, ?_, rfl⟩
    rw [strtoul, if_neg (not_lt.mpr hle)]
    unfold ulongMax at hle ⊢
    simp only [if_true]
    omega

theorem strToUint_digit {str : String} {front : Char} {tail : List Char}
    (hcons : str.toList = front :: tail) (hdigit : isdigit front = true) {n : Nat} :
    strToUint str = some n ↔ AllDigits (cStr str) ∧ digitsValue (cStr str) < ulongMax ∧
      digitsValue (cStr str) % 2 ^ 32 = n := by
  have hnul : front ≠ '\x00' := by
    rintro rfl
    exact absurd hdigit (by decide)
  have hscan : scanDecimal (cStr str) = scanDigits false (cStr str) := by
    rw [cStr_cons hcons hnul]
    exact scanDecimal_of_digit hdigit
  rw [strToUint_eq_some_iff (by rw [hcons]; rfl) (Or.inl hdigit) hscan]
  have hvalue : digitsValue (cStr str) ≤ ulongMax →
      strtoul ⟨false, digitsValue (cStr str), []⟩ = digitsValue (cStr str) := by
    intro hle
    rw [strtoul, if_neg (not_lt.mpr hle)]
    rfl
  constructor
  · rintro ⟨hall, hle, hlt, hn⟩
    rw [hvalue hle] at hlt hn
    exact ⟨hall, hlt, hn⟩
  · rintro ⟨hall, hlt, hn⟩
    rw [hvalue hlt.le]
    exact ⟨hall, hlt.le, hlt, hn⟩

/-! ### The accepted language -/

theorem exists_cons_of_cStr {str : String} {c : Char} {chars : List Char}
    (h : cStr str = c :: chars) : ∃ tail, str.toList = c :: tail := by
  obtain ⟨rest, hrest⟩ := List.takeWhile_prefix (l := str.toList) (fun c => c != '\x00')
  exact ⟨chars ++ rest, by rw [← hrest, ← cStr, h, List.cons_append]⟩

theorem exists_digit_of_allDigits_cStr {str : String} (h : AllDigits (cStr str)) :
    ∃ front tail, str.toList = front :: tail ∧ isdigit front = true := by
  obtain ⟨front, chars, hcons⟩ := List.exists_cons_of_ne_nil h.1
  obtain ⟨tail, htail⟩ := exists_cons_of_cStr hcons
  exact ⟨front, tail, htail, h.2 front (by rw [hcons]; exact List.mem_cons_self)⟩

theorem not_wrapsNegative_of_digit {str : String} {front : Char} {tail : List Char}
    (hcons : str.toList = front :: tail) (hdigit : isdigit front = true) :
    ¬ WrapsNegative str := by
  rintro ⟨digits, hcstr, -⟩
  obtain ⟨chars, hminus⟩ := exists_cons_of_cStr hcstr
  rw [hcons] at hminus
  obtain ⟨rfl, -⟩ := List.cons.inj hminus
  exact absurd hdigit (by decide)

/-- A string that starts with a digit goes wrong exactly when its number is cut. -/
theorem strToUint_eq_decimal_of_digit {str : String} {front : Char} {tail : List Char}
    (hcons : str.toList = front :: tail) (hdigit : isdigit front = true) :
    strToUint str = decimalUint32 str ↔ ¬ CutsOff str := by
  have hread := fun n => strToUint_digit (n := n) hcons hdigit
  constructor
  · rintro heq ⟨hall, hlt, hcut⟩
    have hstored := (hread _).mpr ⟨hall, hlt, rfl⟩
    rw [heq, decimalUint32_eq_some_iff] at hstored
    obtain ⟨hstr, hvalue, hfits⟩ := hstored
    have hcstr := cStr_eq_of_allDigits hstr
    rcases hcut with hlarge | hne
    · rw [hcstr] at hlarge hvalue
      omega
    · exact hne hcstr
  · intro hcut
    ext n
    rw [hread, decimalUint32_eq_some_iff]
    constructor
    · rintro ⟨hall, hlt, hn⟩
      have hfits : digitsValue (cStr str) < 2 ^ 32 := by
        by_contra hlarge
        exact hcut ⟨hall, hlt, Or.inl (not_lt.mp hlarge)⟩
      have hcstr : cStr str = str.toList := by
        by_contra hne
        exact hcut ⟨hall, hlt, Or.inr hne⟩
      rw [hcstr] at hall hn hfits
      exact ⟨hall, by omega, by omega⟩
    · rintro ⟨hall, hn, hlt⟩
      rw [cStr_eq_of_allDigits hall, hn]
      exact ⟨hall, by unfold ulongMax; omega, Nat.mod_eq_of_lt hlt⟩

theorem decimalUint32_eq_none {str : String}
    (hfront : ¬ ∃ front tail, str.toList = front :: tail ∧ isdigit front = true) :
    decimalUint32 str = none := by
  rw [Option.eq_none_iff_forall_ne_some]
  intro n hn
  have hall := (decimalUint32_eq_some_iff.mp hn).1
  apply hfront
  rw [← cStr_eq_of_allDigits hall] at hall
  exact exists_digit_of_allDigits_cStr hall

theorem strToUint_eq_none {str : String}
    (hfront : ¬ ∃ front tail, str.toList = front :: tail ∧ isdigit front = true)
    (hminus : ¬ ∃ tail, str.toList = '-' :: tail) : strToUint str = none := by
  unfold strToUint
  cases hchars : str.toList with
  | nil => rfl
  | cons front tail =>
    have hdigit : isdigit front = false :=
      Bool.eq_false_iff.mpr fun h => hfront ⟨front, tail, hchars, h⟩
    have hsign : front ≠ '-' := by
      rintro rfl
      exact hminus ⟨tail, hchars⟩
    simp [hdigit, hsign]

/-- `StrToUint` reads a string as a `uint32_t` decimal or not at all exactly when it neither wraps
nor cuts it. -/
theorem strToUint_exact_iff (str : String) (value : Nat) :
    stored value (strToUint str) = stored value (decimalUint32 str) ↔
      ¬ WrapsNegative str ∧ ¬ CutsOff str := by
  rw [stored_inj]
  by_cases hfront : ∃ front tail, str.toList = front :: tail ∧ isdigit front = true
  · obtain ⟨front, tail, hcons, hdigit⟩ := hfront
    rw [strToUint_eq_decimal_of_digit hcons hdigit]
    exact (and_iff_right (not_wrapsNegative_of_digit hcons hdigit)).symm
  · have hcut : ¬ CutsOff str := fun h => hfront (exists_digit_of_allDigits_cStr h.1)
    rw [decimalUint32_eq_none hfront, and_iff_left hcut]
    by_cases hminus : ∃ tail, str.toList = '-' :: tail
    · obtain ⟨tail, hcons⟩ := hminus
      rw [← strToUint_minus hcons, not_exists, Option.eq_none_iff_forall_ne_some]
    · refine iff_of_true (strToUint_eq_none hfront hminus) ?_
      rintro ⟨digits, hcstr, -⟩
      exact hminus (exists_cons_of_cStr hcstr)

/-- `2 ^ 32 + 1` is stored as one. -/
theorem strToUint_cuts :
    ¬ stored 7 (strToUint "4294967297") = stored 7 (decimalUint32 "4294967297") := by
  decide

end ThermalManager
