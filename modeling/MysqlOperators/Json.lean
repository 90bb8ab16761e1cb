import Mathlib.Data.List.Basic
import Mathlib.Data.List.Chain
import Mathlib.Data.List.Nodup

/-!
Python's `json` in its default settings: what `dumps` writes and what `loads` reads.
A text that is read or written is a list of characters. A string inside a value is a
list of code points, since an escape can name a surrogate, which no character is. A
number is kept as it is spelled.
-/
namespace MysqlOperators.Json

/-- A Python string: code points, surrogates among them. -/
abbrev Text := List Nat

instance lawfulText : LawfulBEq Text := List.instLawfulBEq

def textOf (chars : List Char) : Text := chars.map Char.toNat

inductive Value where
  | null
  | bool (b : Bool)
  | number (literal : List Char)
  | string (text : Text)
  | array (items : List Value)
  | object (members : List (Text × Value))

/-! ### Writing -/

def hexDigit (n : Nat) : Char := if n < 10 then Char.ofNat (48 + n) else Char.ofNat (87 + n)

/-- `"{0:04x}"`, of a number below 2^16. -/
def hex4 (n : Nat) : List Char :=
  [hexDigit (n / 4096 % 16),hexDigit (n / 256 % 16),hexDigit (n / 16 % 16),hexDigit (n % 16)]

def unicodeEscape (n : Nat) : List Char := '\\' :: 'u' :: hex4 n

/-- The escapes of one letter, `ESCAPE_DCT`. -/
def escapes : List (Nat × Char) := [(34,'"'),(92,'\\'),(8,'b'),(12,'f'),(10,'n'),(13,'r'),(9,'t')]

/-- One code point in `py_encode_basestring_ascii`. -/
def escape (n : Nat) : List Char :=
  match escapes.lookup n with
  | some letter => ['\\',letter]
  | none =>
    if 32 ≤ n ∧ n ≤ 126 then [Char.ofNat n]
    else if n < 65536 then unicodeEscape n
    else unicodeEscape (55296 + (n - 65536) / 1024 % 1024) ++ unicodeEscape (56320 + (n - 65536) % 1024)

def quoted (text : Text) : List Char := '"' :: (text.flatMap escape ++ ['"'])

mutual

def dumps : Value → List Char
  | .null => "null".toList
  | .bool true => "true".toList
  | .bool false => "false".toList
  | .number literal => literal
  | .string text => quoted text
  | .array items => '[' :: (dumpItems items ++ [']'])
  | .object members => '{' :: (dumpMembers members ++ ['}'])

def dumpItems : List Value → List Char
  | [] => []
  | [v] => dumps v
  | v :: w :: more => dumps v ++ ',' :: ' ' :: dumpItems (w :: more)

def dumpMembers : List (Text × Value) → List Char
  | [] => []
  | [(key,v)] => quoted key ++ ':' :: ' ' :: dumps v
  | (key,v) :: w :: more => quoted key ++ ':' :: ' ' :: (dumps v ++ ',' :: ' ' :: dumpMembers (w :: more))

end

/-! ### Reading -/

def isBlank (c : Char) : Bool := c == ' ' || c == '\t' || c == '\n' || c == '\r'

def skip (text : List Char) : List Char := text.dropWhile isBlank

def hexValue (c : Char) : Option Nat :=
  if '0' ≤ c ∧ c ≤ '9' then some (c.toNat - 48)
  else if 'a' ≤ c ∧ c ≤ 'f' then some (c.toNat - 87)
  else if 'A' ≤ c ∧ c ≤ 'F' then some (c.toNat - 55)
  else none

def readHex4 (a b c d : Char) : Option Nat := do
  let a ← hexValue a
  let b ← hexValue b
  let c ← hexValue c
  let d ← hexValue d
  return a * 4096 + b * 256 + c * 16 + d

/-- The letter after a backslash, `BACKSLASH`. -/
def letters : List (Char × Nat) :=
  [('"',34),('\\',92),('/',47),('b',8),('f',12),('n',10),('r',13),('t',9)]

/-- `scanstring` after the opening quote, before surrogates are joined. -/
def scanUnits : List Char → Option (Text × List Char)
  | [] => none
  | c :: rest =>
    if c = '"' then some ([],rest)
    else if c = '\\' then
      match rest with
      | [] => none
      | e :: more =>
        if e = 'u' then
          match more with
          | h1 :: h2 :: h3 :: h4 :: more => do
            let n ← readHex4 h1 h2 h3 h4
            let (units,left) ← scanUnits more
            return (n :: units,left)
          | _ => none
        else do
          let n ← letters.lookup e
          let (units,left) ← scanUnits more
          return (n :: units,left)
    else if c.toNat < 32 then none
    else do
      let (units,left) ← scanUnits rest
      return (c.toNat :: units,left)

def isHigh (n : Nat) : Bool := decide (55296 ≤ n ∧ n ≤ 56319)
def isLow (n : Nat) : Bool := decide (56320 ≤ n ∧ n ≤ 57343)

/-- Only escapes name surrogates, so that a pair of them is always two escapes in a row. -/
def join : Text → Text
  | [] => []
  | [n] => [n]
  | n :: m :: rest =>
    if isHigh n ∧ isLow m then (65536 + (n - 55296) * 1024 + (m - 56320)) :: join rest
    else n :: join (m :: rest)

def scanString (text : List Char) : Option (Text × List Char) := do
  let (units,rest) ← scanUnits text
  return (join units,rest)

def isDigit (c : Char) : Bool := decide ('0' ≤ c ∧ c ≤ '9')

def scanInteger (text : List Char) : Option (List Char × List Char) :=
  match text with
  | [] => none
  | c :: rest =>
    if c = '0' then some (['0'],rest)
    else if isDigit c then some (c :: rest.takeWhile isDigit,rest.dropWhile isDigit)
    else none

def scanSigned (text : List Char) : Option (List Char × List Char) :=
  match text with
  | [] => none
  | c :: rest =>
    if c = '-' then (scanInteger rest).map (fun part => ('-' :: part.1,part.2))
    else scanInteger (c :: rest)

/-- Digits after what introduces them, or nothing at all. -/
def scanDigits (introduction text : List Char) (otherwise : List Char) : List Char × List Char :=
  if text.takeWhile isDigit = [] then ([],otherwise)
  else (introduction ++ text.takeWhile isDigit,text.dropWhile isDigit)

def scanFraction (text : List Char) : List Char × List Char :=
  match text with
  | [] => ([],[])
  | c :: rest => if c = '.' then scanDigits ['.'] rest text else ([],text)

def scanExponent (text : List Char) : List Char × List Char :=
  match text with
  | [] => ([],[])
  | c :: rest =>
    if c = 'e' ∨ c = 'E' then
      match rest with
      | [] => ([],text)
      | sign :: more =>
        if sign = '+' ∨ sign = '-' then scanDigits [c,sign] more text else scanDigits [c] rest text
    else ([],text)

/-- `NUMBER_RE` at the beginning of a text. -/
def scanNumber (text : List Char) : Option (List Char × List Char) := do
  let (whole,rest) ← scanSigned text
  let (fraction,rest) := scanFraction rest
  let (exponent,rest) := scanExponent rest
  return (whole ++ fraction ++ exponent,rest)

def constants : List (List Char × Value) :=
  [("null".toList,.null),("true".toList,.bool true),("false".toList,.bool false)]

/-- The numbers that only Python writes. -/
def specials : List (List Char × Value) :=
  ["NaN","Infinity","-Infinity"].map (fun name => (name.toList,.number name.toList))

def scanName (names : List (List Char × Value)) (text : List Char) : Option (Value × List Char) :=
  names.findSome? (fun name => if name.1.isPrefixOf text then some (name.2,text.drop name.1.length) else none)

def scanScalar (text : List Char) : Option (Value × List Char) :=
  scanName constants text <|> (scanNumber text).map (fun part => (.number part.1,part.2)) <|> scanName specials text

/-- `dict` on pairs in order: the last value of a key, at the place of the first. -/
def insert (members : List (Text × Value)) (key : Text) (v : Value) : List (Text × Value) :=
  if key ∈ members.map Prod.fst then members.map (fun entry => if entry.1 = key then (key,v) else entry)
  else members ++ [(key,v)]

mutual

/-- `scan_once`. Every value takes a character at least, which bounds the depth. -/
def scanOnce : Nat → List Char → Option (Value × List Char)
  | 0, _ => none
  | _ + 1, [] => none
  | depth + 1, c :: rest =>
    if c = '"' then (scanString rest).map (fun part => (.string part.1,part.2))
    else if c = '{' then
      match skip rest with
      | [] => none
      | d :: more =>
        if d = '}' then some (.object [],more)
        else (scanMembers depth [] (d :: more)).map (fun part => (.object part.1,part.2))
    else if c = '[' then
      match skip rest with
      | [] => none
      | d :: more =>
        if d = ']' then some (.array [],more)
        else (scanItems depth [] (d :: more)).map (fun part => (.array part.1,part.2))
    else scanScalar (c :: rest)

/-- The items of an array, after those that have been read. -/
def scanItems : Nat → List Value → List Char → Option (List Value × List Char)
  | 0, _, _ => none
  | depth + 1, done, text => do
    let (v,rest) ← scanOnce depth text
    match skip rest with
    | [] => none
    | c :: more =>
      if c = ']' then some (done ++ [v],more)
      else if c = ',' then scanItems depth (done ++ [v]) (skip more)
      else none

def scanMembers : Nat → List (Text × Value) → List Char → Option (List (Text × Value) × List Char)
  | 0, _, _ => none
  | _ + 1, _, [] => none
  | depth + 1, done, q :: text =>
    if q = '"' then do
      let (key,rest) ← scanString text
      match skip rest with
      | [] => none
      | colon :: rest =>
        if colon = ':' then do
          let (v,rest) ← scanOnce depth (skip rest)
          match skip rest with
          | [] => none
          | c :: more =>
            if c = '}' then some (insert done key v,more)
            else if c = ',' then scanMembers depth (insert done key v) (skip more)
            else none
        else none
    else none

end

/-- None stands for a `JSONDecodeError`. -/
def loads (text : List Char) : Option Value :=
  if text.head? = some (Char.ofNat 65279) then none
  else do
    let (v,rest) ← scanOnce (text.length + 1) (skip text)
    if skip rest = [] then some v else none

/-! ### Strings -/

/-- A string that is read back as it was: no surrogates that an escape would join. -/
structure Readable (text : Text) : Prop where
  bounded : ∀ n ∈ text, n < 1114112
  unpaired : text.IsChain (fun n m => ¬ (isHigh n = true ∧ isLow m = true))

theorem toNat_scalar (c : Char) : c.toNat < 1114112 ∧ isHigh c.toNat = false := by
  have valid : c.toNat.isValidChar := c.valid
  simp only [Nat.isValidChar] at valid
  refine ⟨by omega,?_⟩
  simp only [isHigh,decide_eq_false_iff_not]
  omega

theorem readable_textOf (chars : List Char) : Readable (textOf chars) := by
  refine ⟨fun n member => ?_,?_⟩
  · obtain ⟨c,_,rfl⟩ := List.mem_map.mp member
    exact (toNat_scalar c).1
  · induction chars with
    | nil => exact List.IsChain.nil
    | cons c chars ih =>
      cases chars with
      | nil => exact List.IsChain.singleton _
      | cons d chars =>
        refine List.IsChain.cons_cons (fun pair => ?_) ih
        rw [(toNat_scalar c).2] at pair
        cases pair.1

theorem hexValue_hexDigit {n : Nat} (digit : n < 16) : hexValue (hexDigit n) = some n := by
  have all : ∀ n < 16, hexValue (hexDigit n) = some n := by decide
  exact all n digit

theorem readHex4_hex4 {n : Nat} (bounded : n < 65536) :
    readHex4 (hexDigit (n / 4096 % 16)) (hexDigit (n / 256 % 16)) (hexDigit (n / 16 % 16)) (hexDigit (n % 16)) =
      some n := by
  have below (m : Nat) : m % 16 < 16 := Nat.mod_lt _ (by omega)
  simp only [readHex4,hexValue_hexDigit (below _),Option.bind_eq_bind,Option.bind_some,Option.pure_def,
    Option.some.injEq]
  omega

/-- Units in front of what a scan has found. -/
def before (units : Text) (found : Text × List Char) : Text × List Char := (units ++ found.1,found.2)

theorem scanUnits_unicodeEscape {n : Nat} (bounded : n < 65536) (rest : List Char) :
    scanUnits (unicodeEscape n ++ rest) = (scanUnits rest).map (before [n]) := by
  simp only [unicodeEscape,hex4,List.cons_append,List.nil_append]
  rw [scanUnits.eq_def]
  simp only [show ¬ '\\' = '"' by decide,if_false,if_true,readHex4_hex4 bounded,Option.bind_eq_bind,Option.bind_some]
  cases scanUnits rest <;> rfl

/-- The units that stand for a code point. -/
def units (n : Nat) : Text :=
  if n < 65536 then [n] else [55296 + (n - 65536) / 1024 % 1024,56320 + (n - 65536) % 1024]

theorem scanUnits_letter {n : Nat} {letter : Char} (known : letters.lookup letter = some n) (rest : List Char) :
    scanUnits ('\\' :: letter :: rest) = (scanUnits rest).map (before [n]) := by
  have other : letter ≠ 'u' := by rintro rfl; cases known
  rw [scanUnits.eq_def]
  simp only [show ¬ '\\' = '"' by decide,if_false,if_true,other,known,Option.bind_eq_bind,Option.bind_some]
  cases scanUnits rest <;> rfl

theorem scanUnits_plain {c : Char} (opens : c ≠ '"') (plain : c ≠ '\\') (visible : 32 ≤ c.toNat) (rest : List Char) :
    scanUnits (c :: rest) = (scanUnits rest).map (before [c.toNat]) := by
  rw [scanUnits.eq_def]
  simp only [opens,plain,if_false,show ¬ c.toNat < 32 by omega,Option.bind_eq_bind]
  cases scanUnits rest <;> rfl

theorem letters_escapes {n : Nat} {letter : Char} (short : escapes.lookup n = some letter) :
    letters.lookup letter = some n ∧ n < 65536 := by
  have all : ∀ entry ∈ escapes, letters.lookup entry.2 = some entry.1 ∧ entry.1 < 65536 := by decide
  obtain ⟨front,back,found,_⟩ := List.lookup_eq_some_iff.mp short
  exact all (n,letter) (by rw [found]; exact List.mem_append_right _ List.mem_cons_self)

theorem toNat_ofNat {n : Nat} (ascii : n < 128) : (Char.ofNat n).toNat = n := by
  have all : ∀ n < 128, (Char.ofNat n).toNat = n := by decide
  exact all n ascii

theorem scanUnits_escape {n : Nat} (bounded : n < 1114112) (rest : List Char) :
    scanUnits (escape n ++ rest) = (scanUnits rest).map (before (units n)) := by
  cases short : escapes.lookup n with
  | some letter =>
    obtain ⟨known,below⟩ := letters_escapes short
    have written : escape n = ['\\',letter] := by simp only [escape,short]
    rw [written,units,if_pos below]
    exact scanUnits_letter known rest
  | none =>
    simp only [escape,short]
    by_cases visible : 32 ≤ n ∧ n ≤ 126
    · have value := toNat_ofNat (n := n) (by omega)
      have other {c : Char} (same : Char.ofNat n = c) : n = c.toNat := by rw [← same,value]
      have plain : n ≠ 34 ∧ n ≠ 92 := by constructor <;> (rintro rfl; revert short; decide)
      rw [if_pos visible,units,if_pos (by omega),List.singleton_append,
        scanUnits_plain (fun same => plain.1 (other same)) (fun same => plain.2 (other same)) (by omega),value]
    · rw [if_neg visible]
      by_cases basic : n < 65536
      · rw [if_pos basic,units,if_pos basic]
        exact scanUnits_unicodeEscape basic rest
      · rw [if_neg basic,units,if_neg basic,List.append_assoc,scanUnits_unicodeEscape (by omega),
          scanUnits_unicodeEscape (by omega),Option.map_map]
        rfl

theorem scanUnits_quoted {text : Text} (bounded : ∀ n ∈ text, n < 1114112) (rest : List Char) :
    scanUnits (text.flatMap escape ++ '"' :: rest) = some (text.flatMap units,rest) := by
  induction text with
  | nil =>
    rw [List.flatMap_nil,List.nil_append,scanUnits.eq_def]
    rfl
  | cons n text ih =>
    obtain ⟨first,more⟩ := List.forall_mem_cons.mp bounded
    rw [List.flatMap_cons,List.append_assoc,scanUnits_escape first,ih more]
    rfl

theorem units_head (m : Nat) : ∃ h more, units m = h :: more ∧ (isLow h = true → h = m) := by
  unfold units
  by_cases basic : m < 65536
  · exact ⟨m,[],if_pos basic,fun _ => rfl⟩
  · refine ⟨_,_,if_neg basic,fun low => ?_⟩
    simp only [isLow,decide_eq_true_eq] at low
    omega

/-- Only the two units of one code point are joined. -/
theorem join_units {text : Text} (readable : Readable text) : join (text.flatMap units) = text := by
  induction text with
  | nil => rfl
  | cons n text ih =>
    obtain ⟨bounded,unpaired⟩ := readable
    obtain ⟨first,more⟩ := List.forall_mem_cons.mp bounded
    have later := ih ⟨more,unpaired.tail⟩
    rw [List.flatMap_cons,units]
    by_cases basic : n < 65536
    · rw [if_pos basic,List.singleton_append]
      cases text with
      | nil => rfl
      | cons m text =>
        obtain ⟨h,others,found,low⟩ := units_head m
        rw [List.flatMap_cons,found,List.cons_append] at later ⊢
        have apart : ¬ (isHigh n = true ∧ isLow h = true) := by
          rintro ⟨high,follows⟩
          rw [low follows] at follows
          exact (List.isChain_cons_cons.mp unpaired).1 ⟨high,follows⟩
        rw [join,if_neg apart,later]
    · have pair : isHigh (55296 + (n - 65536) / 1024 % 1024) = true ∧ isLow (56320 + (n - 65536) % 1024) = true := by
        simp only [isHigh,isLow,decide_eq_true_eq]
        omega
      have value : 65536 + (55296 + (n - 65536) / 1024 % 1024 - 55296) * 1024 +
          (56320 + (n - 65536) % 1024 - 56320) = n := by omega
      rw [if_neg basic,List.cons_append,List.singleton_append,join,if_pos pair,later,value]

theorem scanString_quoted {text : Text} (readable : Readable text) (rest : List Char) :
    scanString (text.flatMap escape ++ '"' :: rest) = some (text,rest) := by
  simp [scanString,scanUnits_quoted readable.bounded,join_units readable]

/-! ### Numbers -/

/-- What may follow a value inside another one. -/
def Ends (rest : List Char) : Prop := ∀ c ∈ rest.head?, c = ',' ∨ c = ']' ∨ c = '}'

section Follow
variable {rest : List Char} (ends : Ends rest)
include ends

theorem ends_cons {c : Char} {more : List Char} (eq : rest = c :: more) : c = ',' ∨ c = ']' ∨ c = '}' :=
  ends c (by rw [eq]; rfl)

theorem takeWhile_ends (text : List Char) :
    (text ++ rest).takeWhile isDigit = text.takeWhile isDigit ∧
      (text ++ rest).dropWhile isDigit = text.dropWhile isDigit ++ rest := by
  induction text with
  | nil =>
    cases rest with
    | nil => exact ⟨rfl,rfl⟩
    | cons c more =>
      have other : isDigit c = false := by rcases ends_cons ends rfl with rfl | rfl | rfl <;> rfl
      simp [other]
  | cons c text ih =>
    by_cases digit : isDigit c = true
    · simp [digit,ih.1,ih.2]
    · simp [digit]

theorem scanInteger_ends {text whole left : List Char} (scanned : scanInteger text = some (whole,left)) :
    scanInteger (text ++ rest) = some (whole,left ++ rest) := by
  cases text with
  | nil => cases scanned
  | cons c text =>
    simp only [scanInteger,List.cons_append] at scanned ⊢
    by_cases zero : c = '0'
    · rw [if_pos zero] at scanned ⊢
      cases scanned
      rfl
    · rw [if_neg zero] at scanned ⊢
      by_cases digit : isDigit c = true
      · rw [if_pos digit] at scanned ⊢
        cases scanned
        rw [(takeWhile_ends ends text).1,(takeWhile_ends ends text).2]
      · rw [if_neg digit] at scanned
        cases scanned

theorem scanSigned_ends {text whole left : List Char} (scanned : scanSigned text = some (whole,left)) :
    scanSigned (text ++ rest) = some (whole,left ++ rest) := by
  cases text with
  | nil => cases scanned
  | cons c text =>
    simp only [scanSigned,List.cons_append] at scanned ⊢
    by_cases minus : c = '-'
    · rw [if_pos minus] at scanned ⊢
      obtain ⟨⟨part,after⟩,found,same⟩ := Option.map_eq_some_iff.mp scanned
      cases same
      rw [scanInteger_ends ends found]
      rfl
    · rw [if_neg minus] at scanned ⊢
      exact scanInteger_ends ends scanned

theorem scanDigits_ends (introduction text otherwise : List Char) :
    scanDigits introduction (text ++ rest) (otherwise ++ rest) =
      ((scanDigits introduction text otherwise).1,(scanDigits introduction text otherwise).2 ++ rest) := by
  simp only [scanDigits,(takeWhile_ends ends text).1,(takeWhile_ends ends text).2]
  split <;> rfl

theorem scanFraction_ends (text : List Char) :
    scanFraction (text ++ rest) = ((scanFraction text).1,(scanFraction text).2 ++ rest) := by
  cases text with
  | nil =>
    cases rest with
    | nil => rfl
    | cons c more =>
      have other : c ≠ '.' := by rcases ends_cons ends rfl with rfl | rfl | rfl <;> decide
      simp [scanFraction,other]
  | cons c text =>
    by_cases dot : c = '.'
    · simpa [scanFraction,dot] using scanDigits_ends ends ['.'] text (c :: text)
    · simp [scanFraction,dot]

theorem scanExponent_ends (text : List Char) :
    scanExponent (text ++ rest) = ((scanExponent text).1,(scanExponent text).2 ++ rest) := by
  cases text with
  | nil =>
    cases rest with
    | nil => rfl
    | cons c more =>
      have other : ¬ (c = 'e' ∨ c = 'E') := by rcases ends_cons ends rfl with rfl | rfl | rfl <;> decide
      simp [scanExponent,other]
  | cons c text =>
    by_cases letter : c = 'e' ∨ c = 'E'
    · simp only [scanExponent,List.cons_append,letter,if_true]
      cases text with
      | nil =>
        cases rest with
        | nil => rfl
        | cons d more =>
          have other : ¬ (d = '+' ∨ d = '-') ∧ isDigit d = false := by
            rcases ends_cons ends rfl with rfl | rfl | rfl <;> decide
          simp [other.1,other.2,scanDigits]
      | cons sign more =>
        simp only [List.cons_append]
        split
        · exact scanDigits_ends ends [c,sign] more (c :: sign :: more)
        · exact scanDigits_ends ends [c] (sign :: more) (c :: sign :: more)
    · simp [scanExponent,letter]

theorem scanNumber_ends {text number left : List Char} (scanned : scanNumber text = some (number,left)) :
    scanNumber (text ++ rest) = some (number,left ++ rest) := by
  simp only [scanNumber,Option.bind_eq_bind] at scanned ⊢
  obtain ⟨⟨whole,after⟩,found,same⟩ := Option.bind_eq_some_iff.mp scanned
  rw [scanSigned_ends ends found]
  simp only [Option.pure_def,Option.some.injEq,Prod.mk.injEq,Option.bind_some] at same ⊢
  rw [scanFraction_ends ends,scanExponent_ends ends]
  exact ⟨same.1,by rw [← same.2]⟩

end Follow

theorem number_cons {c : Char} {literal : List Char} {part : List Char × List Char}
    (scanned : scanNumber (c :: literal) = some part) : c = '-' ∨ isDigit c = true := by
  by_cases minus : c = '-'
  · exact Or.inl minus
  · by_cases digit : isDigit c = true
    · exact Or.inr digit
    · have other : c ≠ '0' := by rintro rfl; exact digit rfl
      simp [scanNumber,scanSigned,scanInteger,minus,other,digit] at scanned

/-! ### Values -/

mutual

/-- The values that `dumps` writes so that `loads` reads the same: texts without split
    surrogates, numbers as JSON spells them, and each key of a dictionary once. -/
def Sound : Value → Prop
  | .null | .bool _ => True
  | .number literal => scanNumber literal = some (literal,[])
  | .string text => Readable text
  | .array items => SoundItems items
  | .object members => (members.map Prod.fst).Nodup ∧ SoundMembers members

def SoundItems : List Value → Prop
  | [] => True
  | v :: items => Sound v ∧ SoundItems items

def SoundMembers : List (Text × Value) → Prop
  | [] => True
  | (key,v) :: members => Readable key ∧ Sound v ∧ SoundMembers members

end

/-- A character that no blank precedes and that closes nothing. -/
def Begins (c : Char) : Prop := isBlank c = false ∧ c ≠ ']' ∧ c ≠ '}' ∧ c ≠ Char.ofNat 65279

theorem begins_number {c : Char} (first : c = '-' ∨ isDigit c = true) : Begins c := by
  rcases first with rfl | digit
  · unfold Begins; decide
  · refine ⟨?_,?_,?_,?_⟩
    · by_contra blank
      simp only [isBlank,Bool.not_eq_false,Bool.or_eq_true,beq_iff_eq] at blank
      rcases blank with ((rfl | rfl) | rfl) | rfl <;> cases digit
    all_goals rintro rfl; revert digit; decide

theorem dumps_begins {v : Value} (sound : Sound v) : ∃ c more, dumps v = c :: more ∧ Begins c := by
  cases v with
  | null => exact ⟨'n',_,rfl,by unfold Begins; decide⟩
  | bool b =>
    cases b with
    | false => exact ⟨'f',_,rfl,by unfold Begins; decide⟩
    | true => exact ⟨'t',_,rfl,by unfold Begins; decide⟩
  | number literal =>
    rw [Sound] at sound
    cases literal with
    | nil => cases sound
    | cons c literal => exact ⟨c,literal,by rw [dumps],begins_number (number_cons sound)⟩
  | string text => exact ⟨'"',_,by rw [dumps,quoted],by unfold Begins; decide⟩
  | array items => exact ⟨'[',_,by rw [dumps],by unfold Begins; decide⟩
  | object members => exact ⟨'{',_,by rw [dumps],by unfold Begins; decide⟩

theorem skip_begins {c : Char} (begins : Begins c) (rest : List Char) : skip (c :: rest) = c :: rest := by
  simp [skip,begins.1]

theorem skip_dumps {v : Value} (sound : Sound v) (rest : List Char) : skip (dumps v ++ rest) = dumps v ++ rest := by
  obtain ⟨c,more,eq,begins⟩ := dumps_begins sound
  rw [eq,List.cons_append,skip_begins begins]

theorem scanName_other {names : List (List Char × Value)} {c : Char}
    (other : ∀ name ∈ names, name.1.head? ≠ some c ∧ name.1 ≠ []) (rest : List Char) :
    scanName names (c :: rest) = none := by
  apply List.findSome?_eq_none_iff.mpr
  intro name member
  obtain ⟨head,nonempty⟩ := other name member
  cases eq : name.1 with
  | nil => exact absurd eq nonempty
  | cons d more =>
    have differs : d ≠ c := by
      rintro rfl
      exact head (by rw [eq]; rfl)
    simp [differs]

theorem scanScalar_number {literal rest : List Char} (sound : scanNumber literal = some (literal,[]))
    (ends : Ends rest) : scanScalar (literal ++ rest) = some (.number literal,rest) := by
  have scanned := scanNumber_ends ends sound
  cases literal with
  | nil => cases sound
  | cons c literal =>
    have none_ : scanName constants (c :: (literal ++ rest)) = none := by
      apply scanName_other
      intro name member
      simp only [constants,List.mem_cons,List.not_mem_nil,or_false] at member
      rcases number_cons sound with rfl | digit
      · rcases member with rfl | rfl | rfl <;> decide
      · rcases member with rfl | rfl | rfl <;> refine ⟨?_,by decide⟩ <;>
          · rintro same
            cases same
            cases digit
    rw [List.cons_append] at scanned ⊢
    rw [scanScalar,none_,scanned]
    rfl

theorem scanOnce_scalar {depth : Nat} {c : Char} (other : c ≠ '"' ∧ c ≠ '{' ∧ c ≠ '[') (rest : List Char) :
    scanOnce (depth + 1) (c :: rest) = scanScalar (c :: rest) := by
  rw [scanOnce,if_neg other.1,if_neg other.2.1,if_neg other.2.2]

theorem insert_new {members : List (Text × Value)} {key : Text} (new : key ∉ members.map Prod.fst) (v : Value) :
    insert members key v = members ++ [(key,v)] := if_neg new

/-- What follows an entry: the end, or a comma and the other entries. -/
def following (close : Char) (others : List Char) (rest : List Char) : List Char :=
  if others = [] then close :: rest else ',' :: ' ' :: (others ++ close :: rest)

theorem ends_following {close : Char} (closes : close = ']' ∨ close = '}') (others rest : List Char) :
    Ends (following close others rest) := by
  intro c first
  unfold following at first
  by_cases last : others = []
  · rw [if_pos last] at first
    cases first
    exact Or.inr closes
  · rw [if_neg last] at first
    cases first
    exact Or.inl rfl

theorem dumpItems_begins {v : Value} {items : List Value} (sound : Sound v) :
    ∃ c more, dumpItems (v :: items) = c :: more ∧ Begins c := by
  obtain ⟨c,more,eq,begins⟩ := dumps_begins sound
  cases items with
  | nil => exact ⟨c,more,by rw [dumpItems,eq],begins⟩
  | cons w items => exact ⟨c,_,by rw [dumpItems,eq,List.cons_append],begins⟩

theorem dumpMembers_begins (entry : Text × Value) (members : List (Text × Value)) :
    ∃ more, dumpMembers (entry :: members) = '"' :: more := by
  obtain ⟨key,v⟩ := entry
  cases members with
  | nil => exact ⟨_,by rw [dumpMembers,quoted,List.cons_append]⟩
  | cons w members => exact ⟨_,by rw [dumpMembers,quoted,List.cons_append]⟩

theorem dumpItems_cons {v : Value} {items : List Value} (sound : SoundItems (v :: items)) (rest : List Char) :
    dumpItems (v :: items) ++ ']' :: rest = dumps v ++ following ']' (dumpItems items) rest := by
  cases items with
  | nil => simp [dumpItems,following]
  | cons w items =>
    obtain ⟨c,more,eq,_⟩ := @dumpItems_begins _ items sound.2.1
    have nonempty : dumpItems (w :: items) ≠ [] := by rw [eq]; exact List.cons_ne_nil _ _
    rw [dumpItems,following,if_neg nonempty,List.append_assoc]
    rfl

theorem dumpMembers_cons (key : Text) (v : Value) (members : List (Text × Value)) (rest : List Char) :
    dumpMembers ((key,v) :: members) ++ '}' :: rest =
      quoted key ++ ':' :: ' ' :: (dumps v ++ following '}' (dumpMembers members) rest) := by
  cases members with
  | nil => simp [dumpMembers,following]
  | cons w members =>
    obtain ⟨more,eq⟩ := dumpMembers_begins w members
    have nonempty : dumpMembers (w :: members) ≠ [] := by rw [eq]; exact List.cons_ne_nil _ _
    rw [dumpMembers,following,if_neg nonempty]
    simp

/-- What a depth is enough for. -/
structure Reads (depth : Nat) : Prop where
  value : ∀ v rest, Sound v → Ends rest → (dumps v).length ≤ depth →
    scanOnce depth (dumps v ++ rest) = some (v,rest)
  items : ∀ items done rest, items ≠ [] → SoundItems items → (dumpItems items).length < depth →
    scanItems depth done (dumpItems items ++ ']' :: rest) = some (done ++ items,rest)
  members : ∀ members done rest, members ≠ [] → ((done ++ members).map Prod.fst).Nodup → SoundMembers members →
    (dumpMembers members).length < depth →
    scanMembers depth done (dumpMembers members ++ '}' :: rest) = some (done ++ members,rest)

section Step
variable {depth : Nat} (reads : Reads depth)
include reads

theorem value_step (v : Value) (rest : List Char) (sound : Sound v) (ends : Ends rest)
    (room : (dumps v).length ≤ depth + 1) : scanOnce (depth + 1) (dumps v ++ rest) = some (v,rest) := by
  cases v with
  | null => rfl
  | bool b => cases b <;> rfl
  | number literal =>
    rw [Sound] at sound
    have scanned := scanScalar_number sound ends
    cases literal with
    | nil => cases sound
    | cons c literal =>
      have other : c ≠ '"' ∧ c ≠ '{' ∧ c ≠ '[' := by
        rcases number_cons sound with rfl | digit
        · decide
        · refine ⟨?_,?_,?_⟩ <;> rintro rfl <;> cases digit
      rw [dumps]
      rw [List.cons_append] at scanned ⊢
      rw [scanOnce_scalar other,scanned]
  | string text =>
    rw [dumps,quoted,List.cons_append,List.append_assoc,List.singleton_append,scanOnce,if_pos rfl,
      scanString_quoted sound]
    rfl
  | array items =>
    rw [dumps,List.cons_append,List.append_assoc,List.singleton_append,scanOnce,if_neg (by decide),if_neg (by decide),
      if_pos rfl]
    cases items with
    | nil => rfl
    | cons w items =>
      rw [Sound] at sound
      obtain ⟨c,more,eq,begins⟩ := @dumpItems_begins _ items sound.1
      have short : (dumpItems (w :: items)).length < depth := by
        rw [dumps,List.length_cons,List.length_append,List.length_singleton] at room
        omega
      have scanned := reads.items (w :: items) [] rest (List.cons_ne_nil _ _) sound short
      rw [eq,List.cons_append] at scanned ⊢
      rw [skip_begins begins]
      simp only [if_neg begins.2.1,scanned]
      rfl
  | object members =>
    rw [dumps,List.cons_append,List.append_assoc,List.singleton_append,scanOnce,if_neg (by decide),if_pos rfl]
    cases members with
    | nil => rfl
    | cons entry members =>
      rw [Sound] at sound
      obtain ⟨more,eq⟩ := dumpMembers_begins entry members
      have begins : Begins '"' := by unfold Begins; decide
      have short : (dumpMembers (entry :: members)).length < depth := by
        rw [dumps,List.length_cons,List.length_append,List.length_singleton] at room
        omega
      have scanned := reads.members (entry :: members) [] rest (List.cons_ne_nil _ _) sound.1 sound.2 short
      rw [eq,List.cons_append] at scanned ⊢
      rw [skip_begins begins]
      simp only [if_neg begins.2.2.1,scanned]
      rfl

theorem items_step (items done : List Value) (rest : List Char) (nonempty : items ≠ []) (sound : SoundItems items)
    (room : (dumpItems items).length < depth + 1) :
    scanItems (depth + 1) done (dumpItems items ++ ']' :: rest) = some (done ++ items,rest) := by
  cases items with
  | nil => exact absurd rfl nonempty
  | cons v items =>
    have lengths := congrArg List.length (dumpItems_cons sound rest)
    rw [dumpItems_cons sound,scanItems,Option.bind_eq_bind]
    simp only [List.length_append,List.length_cons] at lengths
    have follows := @ends_following ']' (Or.inl rfl) (dumpItems items) rest
    cases items with
    | nil =>
      simp only [following,dumpItems,if_true] at follows lengths ⊢
      rw [reads.value v _ sound.1 follows (by rw [dumpItems] at room; omega)]
      rfl
    | cons w items =>
      obtain ⟨c,more,eq,begins⟩ := @dumpItems_begins _ items sound.2.1
      have nonempty : dumpItems (w :: items) ≠ [] := by rw [eq]; exact List.cons_ne_nil _ _
      simp only [following,if_neg nonempty,List.length_cons,List.length_append] at follows lengths ⊢
      rw [reads.value v _ sound.1 follows (by omega)]
      have scanned := reads.items (w :: items) (done ++ [v]) rest (List.cons_ne_nil _ _) sound.2 (by omega)
      have blank : skip (' ' :: (dumpItems (w :: items) ++ ']' :: rest)) = dumpItems (w :: items) ++ ']' :: rest := by
        rw [eq,List.cons_append]
        exact skip_begins begins _
      have comma : skip (',' :: ' ' :: (dumpItems (w :: items) ++ ']' :: rest)) =
          ',' :: ' ' :: (dumpItems (w :: items) ++ ']' :: rest) := rfl
      simp only [Option.bind_some,comma,show ¬ ',' = ']' by decide,if_false,if_true,blank,scanned,List.append_assoc,
        List.singleton_append]

theorem members_step (members done : List (Text × Value)) (rest : List Char) (nonempty : members ≠ [])
    (distinct : ((done ++ members).map Prod.fst).Nodup) (sound : SoundMembers members)
    (room : (dumpMembers members).length < depth + 1) :
    scanMembers (depth + 1) done (dumpMembers members ++ '}' :: rest) = some (done ++ members,rest) := by
  cases members with
  | nil => exact absurd rfl nonempty
  | cons entry members =>
    obtain ⟨key,v⟩ := entry
    have lengths := congrArg List.length (dumpMembers_cons key v members rest)
    rw [dumpMembers_cons,quoted,List.cons_append,List.append_assoc,List.singleton_append,scanMembers,if_pos rfl,
      scanString_quoted sound.1]
    simp only [List.length_append,List.length_cons,quoted] at lengths
    have new : key ∉ done.map Prod.fst := by
      rw [List.map_append,List.map_cons,List.nodup_append] at distinct
      intro member
      exact distinct.2.2 key member key List.mem_cons_self rfl
    have follows := @ends_following '}' (Or.inr rfl) (dumpMembers members) rest
    have colon (more : List Char) : skip (':' :: ' ' :: more) = ':' :: ' ' :: more := rfl
    have blank (more : List Char) : skip (' ' :: (dumps v ++ more)) = dumps v ++ more := skip_dumps sound.2.1 more
    simp only [Option.bind_eq_bind,Option.bind_some,colon,if_true,blank]
    cases members with
    | nil =>
      simp only [dumpMembers,List.length_append,List.length_cons] at room
      simp only [following,dumpMembers,if_true] at follows ⊢
      rw [reads.value v _ sound.2.1 follows (by omega)]
      rw [← insert_new new]
      rfl
    | cons w members =>
      obtain ⟨more,eq⟩ := dumpMembers_begins w members
      have nonempty : dumpMembers (w :: members) ≠ [] := by rw [eq]; exact List.cons_ne_nil _ _
      simp only [following,if_neg nonempty,List.length_cons,List.length_append] at follows lengths ⊢
      rw [reads.value v _ sound.2.1 follows (by omega)]
      have scanned := reads.members (w :: members) (done ++ [(key,v)]) rest (List.cons_ne_nil _ _)
        (by rw [List.append_assoc]; exact distinct) sound.2.2 (by omega)
      have blank : skip (' ' :: (dumpMembers (w :: members) ++ '}' :: rest)) =
          dumpMembers (w :: members) ++ '}' :: rest := by
        rw [eq]
        rfl
      have comma : skip (',' :: ' ' :: (dumpMembers (w :: members) ++ '}' :: rest)) =
          ',' :: ' ' :: (dumpMembers (w :: members) ++ '}' :: rest) := rfl
      simp only [Option.bind_some,comma,show ¬ ',' = '}' by decide,if_false,if_true,blank,insert_new new,scanned,
        List.append_assoc,List.singleton_append]

end Step

theorem reads (depth : Nat) : Reads depth := by
  induction depth with
  | zero =>
    refine ⟨fun v rest sound ends room => ?_,fun _ _ _ _ _ room => absurd room (Nat.not_lt_zero _),
      fun _ _ _ _ _ _ room => absurd room (Nat.not_lt_zero _)⟩
    obtain ⟨c,more,eq,_⟩ := dumps_begins sound
    rw [eq,List.length_cons] at room
    omega
  | succ depth ih => exact ⟨value_step ih,items_step ih,members_step ih⟩

/-- What has been written is read back. -/
theorem loads_dumps {v : Value} (sound : Sound v) : loads (dumps v) = some v := by
  obtain ⟨c,more,eq,begins⟩ := dumps_begins sound
  have marked : (dumps v).head? ≠ some (Char.ofNat 65279) := by
    rw [eq]
    exact fun same => begins.2.2.2 (Option.some.inj same)
  have scanned := (reads ((dumps v).length + 1)).value v [] sound (fun c first => by cases first) (by omega)
  have start := skip_dumps sound []
  rw [List.append_nil] at scanned start
  rw [loads,if_neg marked,start,scanned]
  rfl

/-! ### Dictionaries and lists of texts -/

def stringOf (text : String) : Value := .string (textOf text.toList)

/-- `dict[str, str]`. -/
def dict (entries : List (String × String)) : Value :=
  .object (entries.map (fun entry => (textOf entry.1.toList,stringOf entry.2)))

def strings (texts : List String) : Value := .array (texts.map stringOf)

theorem toNat_injective : Function.Injective Char.toNat := fun a b same => by
  rw [← Char.ofNat_toNat a,same,Char.ofNat_toNat]

theorem textOf_injective {a b : String} (same : textOf a.toList = textOf b.toList) : a = b :=
  String.toList_injective (List.map_injective_iff.mpr toNat_injective same)

theorem sound_strings (texts : List String) : Sound (strings texts) := by
  rw [strings,Sound]
  induction texts with
  | nil => trivial
  | cons text texts ih => exact ⟨readable_textOf text.toList,ih⟩

theorem soundMembers_dict (entries : List (String × String)) :
    SoundMembers (entries.map (fun entry => (textOf entry.1.toList,stringOf entry.2))) := by
  induction entries with
  | nil => trivial
  | cons entry entries ih => exact ⟨readable_textOf _,readable_textOf _,ih⟩

theorem sound_dict {entries : List (String × String)} (distinct : (entries.map Prod.fst).Nodup) :
    Sound (dict entries) := by
  rw [dict,Sound]
  refine ⟨?_,soundMembers_dict entries⟩
  rw [List.map_map]
  have keys : entries.map (Prod.fst ∘ fun entry => (textOf entry.1.toList,stringOf entry.2)) =
      (entries.map Prod.fst).map (fun key => textOf key.toList) := by
    rw [List.map_map]
    rfl
  rw [keys]
  exact List.Nodup.map (fun a b same => textOf_injective same) distinct

end MysqlOperators.Json
