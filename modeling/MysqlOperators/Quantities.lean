import MysqlOperators.Python
import Mathlib.Data.Rat.Floor
import Mathlib.Tactic.Linarith
import Mathlib.Tactic.Positivity

/-!
Quantities as Kubernetes writes them: a decimal number, and nothing, a suffix or an
exponent after it. A quantity is its spelling; what it stands for is a rational number.
-/
namespace MysqlOperators.Quantities
open MysqlOperators.Python

/-! ### The grammar -/

def digitsText (digits : List (Fin 10)) : List Char := digits.map (fun d => digitChar d.val)

/-- The number that digits stand for. -/
def natOf (digits : List (Fin 10)) : Nat := digits.foldl (fun n d => 10 * n + d.val) 0

inductive Sign where
  | absent
  | plus
  | minus
deriving DecidableEq, Repr

def Sign.text : Sign → List Char
  | absent => []
  | plus => ['+']
  | minus => ['-']

inductive Suffix where
  | plain
  | milli
  | kilo
  | mega
  | giga
  | tera
  | peta
  | exa
  | kibi
  | mebi
  | gibi
  | tebi
  | pebi
  | exbi
  | exponent (capital : Bool) (sign : Sign) (first : Fin 10) (more : List (Fin 10))
deriving DecidableEq, Repr

namespace Suffix

def text : Suffix → List Char
  | plain => []
  | milli => ['m']
  | kilo => ['k']
  | mega => ['M']
  | giga => ['G']
  | tera => ['T']
  | peta => ['P']
  | exa => ['E']
  | kibi => ['K','i']
  | mebi => ['M','i']
  | gibi => ['G','i']
  | tebi => ['T','i']
  | pebi => ['P','i']
  | exbi => ['E','i']
  | exponent capital sign first more =>
    (if capital then 'E' else 'e') :: (sign.text ++ digitsText (first :: more))

def factor : Suffix → ℚ
  | plain => 1
  | milli => 1 / 1000
  | kilo => 1000
  | mega => 1000^2
  | giga => 1000^3
  | tera => 1000^4
  | peta => 1000^5
  | exa => 1000^6
  | kibi => 1024
  | mebi => 1024^2
  | gibi => 1024^3
  | tebi => 1024^4
  | pebi => 1024^5
  | exbi => 1024^6
  | exponent _ .minus first more => 1 / 10^natOf (first :: more)
  | exponent _ _ first more => 10^natOf (first :: more)

end Suffix

/-- At least one digit stands before or after the point. -/
structure Quantity where
  whole : List (Fin 10)
  fraction : Option (List (Fin 10))
  suffix : Suffix
  digits : whole ++ fraction.getD [] ≠ []
deriving DecidableEq, Repr

namespace Quantity
variable (q : Quantity)

def pointText : Option (List (Fin 10)) → List Char
  | none => []
  | some digits => '.' :: digitsText digits

def text : List Char := digitsText q.whole ++ (pointText q.fraction ++ q.suffix.text)

def number : ℚ := natOf q.whole + natOf (q.fraction.getD []) / 10^(q.fraction.getD []).length

def value : ℚ := q.number * q.suffix.factor

end Quantity

/-! ### Digits -/

theorem isDigit_digitChar (d : Fin 10) : (digitChar d).isDigit = true := by
  revert d
  decide

theorem toNat_digitChar (d : Fin 10) : (digitChar d).toNat - '0'.toNat = d.val := by
  revert d
  decide

theorem all_digitsText (digits : List (Fin 10)) : (digitsText digits).all Char.isDigit = true := by
  rw [digitsText,List.all_map,List.all_eq_true]
  exact fun d _ => isDigit_digitChar d

theorem ofDigitChars_digitsText (digits : List (Fin 10)) (n : Nat) :
    Nat.ofDigitChars 10 (digitsText digits) n = digits.foldl (fun n d => 10 * n + d.val) n := by
  induction digits generalizing n with
  | nil => simp [digitsText]
  | cons d rest ih =>
    have step := ih (10 * n + d.val)
    rw [digitsText] at step
    rw [digitsText,List.map_cons,Nat.ofDigitChars_cons,toNat_digitChar,step]
    rfl

/-- Digits are read as their number. -/
theorem number_digitsText {digits : List (Fin 10)} (nonempty : digits ≠ []) :
    Python.number (digitsText digits) = some (natOf digits) := by
  have text : digitsText digits ≠ [] := by simpa [digitsText] using nonempty
  rw [Python.number,if_pos ⟨text,all_digitsText digits⟩,ofDigitChars_digitsText]
  rfl

theorem number_other {text : List Char} {c : Char} (member : c ∈ text) (other : c.isDigit = false) :
    Python.number text = none := by
  have some_ : ¬(text ≠ [] ∧ text.all Char.isDigit = true) := by
    rintro ⟨_,all⟩
    rw [List.all_eq_true.mp all c member] at other
    cases other
  rw [Python.number,if_neg some_]

theorem takeWhile_digitsText (digits : List (Fin 10)) {c : Char} (other : c.isDigit = false) (rest : List Char) :
    (digitsText digits ++ c :: rest).takeWhile Char.isDigit = digitsText digits ∧
      (digitsText digits ++ c :: rest).dropWhile Char.isDigit = c :: rest := by
  induction digits with
  | nil => simp [digitsText,other]
  | cons d more ih =>
    have digit := isDigit_digitChar d
    simp only [digitsText] at ih
    simp [digitsText,digit,ih]

theorem notin_digitsText {c : Char} (other : c.isDigit = false) (digits : List (Fin 10)) : c ∉ digitsText digits := by
  intro member
  rw [List.all_eq_true.mp (all_digitsText digits) c member] at other
  cases other

/-! ### Values -/

section
variable {q : Quantity}

theorem Suffix.factor_pos (s : Suffix) : 0 < s.factor := by
  cases s with
  | exponent capital sign first more => cases sign <;> simp only [Suffix.factor] <;> positivity
  | _ => norm_num [Suffix.factor]

theorem value_whole (none_ : q.fraction = none) : q.value = natOf q.whole * q.suffix.factor := by
  simp [Quantity.value,Quantity.number,none_,natOf]

theorem whole_nonempty (none_ : q.fraction = none) : q.whole ≠ [] := by
  simpa [none_] using q.digits

theorem text_whole (none_ : q.fraction = none) : q.text = digitsText q.whole ++ q.suffix.text := by
  simp [Quantity.text,Quantity.pointText,none_]

theorem text_fraction {digits : List (Fin 10)} (some_ : q.fraction = some digits) :
    q.text = digitsText q.whole ++ '.' :: (digitsText digits ++ q.suffix.text) := by
  simp [Quantity.text,Quantity.pointText,some_]

end

end MysqlOperators.Quantities
