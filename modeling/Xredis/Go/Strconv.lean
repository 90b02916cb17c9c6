import Mathlib.Tactic.IntervalCases
import Mathlib.Data.Nat.Digits

/-!
# Decimal integers as `strconv` writes and reads them

go-redis sends an integer argument as `strconv.AppendInt(…, 10)` and `hscan` reads a
hash field back with `strconv.ParseInt`/`ParseUint`/`ParseBool`. This module models
those functions on Lean strings and proves the round trips the client depends on:

* `formatUint`/`formatInt` — `strconv.FormatUint(n, 10)`/`FormatInt(i, 10)`, via
  `Nat.toDigits`;
* `parseUint`/`parseInt`/`parseBool` — `strconv.ParseUint(s, 10, bitSize)` and friends,
  with the syntax and range errors of `strconv.NumError`;
* `parseUintResult`/`parseIntResult` — the same with the value Go returns beside an error;
* `parseUint_formatUint`, `parseInt_formatInt` — reading back what was written gives the
  value, for every value in range.
-/

namespace Xredis
namespace Go

/-- An integer fits a width: `-2^(w-1) ≤ i < 2^(w-1)`. -/
def fitsSigned (w : Nat) (i : Int) : Bool :=
  -2 ^ (w - 1) ≤ i && i < 2 ^ (w - 1)

/-- `strconv.FormatUint(n, 10)`. -/
def formatUint (n : Nat) : String :=
  ⟨Nat.toDigits 10 n⟩

/-- `strconv.FormatInt(i, 10)`. -/
def formatInt (i : Int) : String :=
  if i < 0 then "-" ++ formatUint i.natAbs else formatUint i.toNat

/-- The `Err` of a `strconv.NumError`. -/
inductive NumError
  | errSyntax
  | errRange
  deriving DecidableEq, Repr

/-- `NumError.Err.Error()`. -/
def NumError.text : NumError → String
  | errSyntax => "invalid syntax"
  | errRange => "value out of range"

/-- The digit loop of `strconv.ParseUint(s, 10, bitSize)` from the value read so far:
a non-digit is a syntax error, and going past `maxVal` a range error at once. -/
def parseDigits (maxVal : Nat) (n : Nat) : List Char → Except NumError Nat
  | [] => .ok n
  | c :: cs =>
    if c.isDigit then
      if maxVal < 10 * n + (c.toNat - 48) then .error .errRange
      else parseDigits maxVal (10 * n + (c.toNat - 48)) cs
    else .error .errSyntax

/-- `strconv.ParseUint(s, 10, bitSize)`, with the value it returns on a range error
(`maxVal`), which `ParseInt` goes on to use. -/
def parseUintCapped (bitSize : Nat) (s : List Char) : Except NumError Nat × Nat :=
  if s = [] then (.error .errSyntax, 0)
  else match parseDigits (2 ^ bitSize - 1) 0 s with
    | .error .errRange => (.error .errRange, 2 ^ bitSize - 1)
    | r => (r, 0)

/-- `strconv.ParseUint(s, 10, bitSize)`. -/
def parseUint (bitSize : Nat) (s : String) : Except NumError Nat :=
  (parseUintCapped bitSize s.data).1

/-- The sign `strconv.ParseInt` picks off: whether it is `-`, and the rest. -/
def leadingSign : List Char → Bool × List Char
  | [] => (false, [])
  | c :: cs => if c = '+' then (false, cs) else if c = '-' then (true, cs) else (false, c :: cs)

/-- `strconv.ParseInt(s, 10, bitSize)`: an optional sign, then `ParseUint` of the rest
(whose capped value a range error still passes on), then the signed range check. -/
def parseInt (bitSize : Nat) (s : String) : Except NumError Int :=
  if s.data = [] then .error .errSyntax
  else
    let (neg, rest) := leadingSign s.data
    let un : Except NumError Nat := match parseUintCapped bitSize rest with
      | (.error .errRange, cap) => .ok cap
      | (r, _) => r
    match un with
    | .error e => .error e
    | .ok un =>
      if neg then (if 2 ^ (bitSize - 1) < un then .error .errRange else .ok (-(un : Int)))
      else if 2 ^ (bitSize - 1) ≤ un then .error .errRange else .ok un

/-- `strconv.ParseUint(s, 10, bitSize)` as Go returns it: the value beside the error, 0
after a syntax error and the largest value after a range error. -/
def parseUintResult (bitSize : Nat) (s : String) : Nat × Option NumError :=
  match parseUintCapped bitSize s.data with
  | (.ok v, _) => (v, none)
  | (.error e, cap) => (cap, some e)

/-- `strconv.ParseInt(s, 10, bitSize)` as Go returns it: the value beside the error, 0
after a syntax error and the bound of the sign after a range error. -/
def parseIntResult (bitSize : Nat) (s : String) : Int × Option NumError :=
  match parseInt bitSize s with
  | .ok v => (v, none)
  | .error .errSyntax => (0, some .errSyntax)
  | .error .errRange =>
    (if (leadingSign s.data).1 then -2 ^ (bitSize - 1) else 2 ^ (bitSize - 1) - 1, some .errRange)

/-- `strconv.ParseBool`. -/
def parseBool (s : String) : Except NumError Bool :=
  if s ∈ ["1", "t", "T", "TRUE", "true", "True"] then .ok true
  else if s ∈ ["0", "f", "F", "FALSE", "false", "False"] then .ok false
  else .error .errSyntax

/-! ### Digits -/

theorem digitChar_isDigit {d : Nat} (h : d < 10) : (Nat.digitChar d).isDigit = true := by
  interval_cases d <;> rfl

theorem digitChar_value {d : Nat} (h : d < 10) : (Nat.digitChar d).toNat - 48 = d := by
  interval_cases d <;> rfl

theorem digitChar_ne_zero {d : Nat} (h0 : 0 < d) (h : d < 10) : Nat.digitChar d ≠ '0' := by
  interval_cases d <;> decide

/-- `toDigitsCore` only prepends to its accumulator. -/
theorem toDigitsCore_append (fuel n : Nat) (ds : List Char) :
    Nat.toDigitsCore 10 fuel n ds = Nat.toDigitsCore 10 fuel n [] ++ ds := by
  induction fuel generalizing n ds with
  | zero => rfl
  | succ fuel ih =>
    simp only [Nat.toDigitsCore]
    split
    · rfl
    · rw [ih _ (_ :: ds), ih _ [_]]
      simp

theorem parseDigits_append (m n : Nat) (xs ys : List Char) :
    parseDigits m n (xs ++ ys) = (parseDigits m n xs).bind (parseDigits m · ys) := by
  induction xs generalizing n with
  | nil => rfl
  | cons c cs ih =>
    simp only [List.cons_append, parseDigits]
    split_ifs <;> simp [ih, Except.bind]

/-- Reading the digits `toDigitsCore` writes gives the number back, when it is in range. -/
theorem parseDigits_toDigitsCore (m : Nat) :
    ∀ fuel n, n < fuel → n ≤ m → parseDigits m 0 (Nat.toDigitsCore 10 fuel n []) = .ok n
  | 0, _, h, _ => absurd h (Nat.not_lt_zero _)
  | fuel + 1, n, hf, hm => by
    have hd : n % 10 < 10 := Nat.mod_lt _ (by decide)
    simp only [Nat.toDigitsCore]
    split
    next h0 =>
      have hn : n < 10 := by omega
      rw [Nat.mod_eq_of_lt hn]
      simp [parseDigits, digitChar_isDigit hn, digitChar_value hn, Nat.not_lt.2 hm]
    next h0 =>
      have ih := parseDigits_toDigitsCore m fuel (n / 10) (by omega) (by omega)
      have hn : 10 * (n / 10) + n % 10 = n := Nat.div_add_mod n 10
      rw [toDigitsCore_append, parseDigits_append, ih]
      simp [Except.bind, parseDigits, digitChar_isDigit hd, digitChar_value hd, hn,
        Nat.not_lt.2 hm]

/-- A positive number is written without a leading zero. -/
theorem toDigitsCore_head (ds : List Char) :
    ∀ fuel n, 0 < n → n < fuel →
      ∃ c cs, Nat.toDigitsCore 10 fuel n ds = c :: cs ∧ c.isDigit = true ∧ c ≠ '0'
  | 0, _, _, h => absurd h (Nat.not_lt_zero _)
  | fuel + 1, n, hpos, hf => by
    simp only [Nat.toDigitsCore]
    split
    next h0 =>
      have hd : n % 10 = n := Nat.mod_eq_of_lt (by omega)
      exact ⟨_, _, rfl, digitChar_isDigit (by omega), by rw [hd]; exact digitChar_ne_zero hpos (by omega)⟩
    next h0 => exact toDigitsCore_head _ fuel (n / 10) (by omega) (by omega)

theorem formatUint_data (n : Nat) : (formatUint n).data = Nat.toDigits 10 n := rfl

/-- `FormatUint` writes at least one digit, and no leading zero. -/
theorem toDigits_cons (n : Nat) :
    ∃ c cs, Nat.toDigits 10 n = c :: cs ∧ c.isDigit = true ∧ (0 < n → c ≠ '0') := by
  rcases Nat.eq_zero_or_pos n with rfl | hn
  · exact ⟨'0', [], rfl, rfl, by omega⟩
  · obtain ⟨c, cs, h, hd, h0⟩ := toDigitsCore_head [] (n + 1) n hn (Nat.lt_succ_self n)
    exact ⟨c, cs, h, hd, fun _ => h0⟩

theorem parseDigits_toDigits {m n : Nat} (h : n ≤ m) :
    parseDigits m 0 (Nat.toDigits 10 n) = .ok n :=
  parseDigits_toDigitsCore m (n + 1) n (Nat.lt_succ_self n) h

theorem parseUintCapped_toDigits {w n : Nat} (h : n < 2 ^ w) :
    parseUintCapped w (Nat.toDigits 10 n) = (.ok n, 0) := by
  obtain ⟨c, cs, hc, -, -⟩ := toDigits_cons n
  rw [parseUintCapped, if_neg (by simp [hc]), parseDigits_toDigits (by omega)]

/-- `ParseUint` reads back what `FormatUint` wrote, for every `n` of the width. -/
theorem parseUint_formatUint {w n : Nat} (h : n < 2 ^ w) :
    parseUint w (formatUint n) = .ok n := by
  rw [parseUint, formatUint_data, parseUintCapped_toDigits h]

theorem leadingSign_digit {c : Char} (cs : List Char) (h : c.isDigit = true) :
    leadingSign (c :: cs) = (false, c :: cs) := by
  have hp : c ≠ '+' := by rintro rfl; exact absurd h (by decide)
  have hm : c ≠ '-' := by rintro rfl; exact absurd h (by decide)
  simp [leadingSign, hp, hm]

/-- `ParseInt` reads back what `FormatInt` wrote, for every `i` of the width. -/
theorem parseInt_formatInt {w : Nat} {i : Int} (hw : 0 < w) (h : fitsSigned w i = true) :
    parseInt w (formatInt i) = .ok i := by
  simp only [fitsSigned, Bool.and_eq_true, decide_eq_true_eq] at h
  have hpow : (2 : Int) ^ (w - 1) = ((2 ^ (w - 1) : Nat) : Int) := by push_cast; rfl
  have hle : 2 ^ (w - 1) ≤ 2 ^ w - 1 := by
    have : 2 ^ w = 2 * 2 ^ (w - 1) := by rw [← Nat.pow_succ']; congr 1; omega
    have : 0 < 2 ^ (w - 1) := Nat.pos_pow_of_pos _ (by decide)
    omega
  by_cases hi : i < 0
  · have hn : i.natAbs ≤ 2 ^ (w - 1) := by omega
    have hd : parseUintCapped w (Nat.toDigits 10 i.natAbs) = (.ok i.natAbs, 0) :=
      parseUintCapped_toDigits (by omega)
    simp [parseInt, formatInt, hi, leadingSign, formatUint_data, hd, Nat.not_lt.2 hn]
    rw [abs_of_neg hi, neg_neg]
  · obtain ⟨c, cs, hc, hdig, -⟩ := toDigits_cons i.toNat
    have hn : i.toNat < 2 ^ (w - 1) := by omega
    have hd : parseUintCapped w (c :: cs) = (.ok i.toNat, 0) := by
      rw [← hc]; exact parseUintCapped_toDigits (by omega)
    simp [parseInt, formatInt, hi, formatUint_data, hc, leadingSign_digit cs hdig, hd,
      Nat.not_le.2 hn]
    omega

theorem parseUintResult_formatUint {w n : Nat} (h : n < 2 ^ w) :
    parseUintResult w (formatUint n) = (n, none) := by
  rw [parseUintResult, formatUint_data, parseUintCapped_toDigits h]

theorem parseIntResult_formatInt {w : Nat} {i : Int} (hw : 0 < w) (h : fitsSigned w i = true) :
    parseIntResult w (formatInt i) = (i, none) := by
  rw [parseIntResult, parseInt_formatInt hw h]

end Go
end Xredis
