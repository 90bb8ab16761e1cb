import Mathlib.Data.List.Basic
import Mathlib.Data.List.DropRight

/-!
The functions of Python's standard library that the charm calls on texts: the name
of a path with its suffix and stem (`pathlib`), and dates in the one format that
the charm writes and reads (`strftime`, `strptime`). Texts are lists of characters.
-/
namespace MysqlOperators.Python

/-- `part in text`, on strings. -/
def occursIn (part : List Char) : List Char → Bool
  | [] => part.isEmpty
  | c :: rest => part.isPrefixOf (c :: rest) || occursIn part rest

/-- `text.split(separator)`, for a separator of one character. -/
def split (separator : Char) : List Char → List (List Char)
  | [] => [[]]
  | c :: rest =>
    if c = separator then [] :: split separator rest
    else match split separator rest with
      | [] => [[c]]
      | first :: more => (c :: first) :: more

theorem split_nonempty (c : Char) (text : List Char) : ∃ first more, split c text = first :: more := by
  rcases text with _ | ⟨a,rest⟩
  · exact ⟨[],[],rfl⟩
  · by_cases same : a = c
    · exact ⟨[],split c rest,by simp [split,same]⟩
    · rcases parts : split c rest with _ | ⟨first,more⟩
      · exact ⟨[a],[],by simp [split,same,parts]⟩
      · exact ⟨a :: first,more,by simp [split,same,parts]⟩

theorem split_plain {c : Char} {text : List Char} (plain : c ∉ text) : split c text = [text] := by
  induction text with
  | nil => rfl
  | cons a rest ih =>
    obtain ⟨other,plain⟩ := not_or.mp (fun member => plain (List.mem_cons.mpr member))
    simp [split,Ne.symm other,ih plain]

theorem split_between (c : Char) (before after : List Char) :
    split c (before ++ c :: after) = split c before ++ split c after := by
  induction before with
  | nil => simp [split]
  | cons a rest ih =>
    by_cases same : a = c
    · simp [split,same,ih]
    · obtain ⟨first,more,parts⟩ := split_nonempty c rest
      simp [split,same,ih,parts]

theorem split_append {c : Char} {first : List Char} (plain : c ∉ first) (rest : List Char) :
    split c (first ++ c :: rest) = first :: split c rest := by
  rw [split_between,split_plain plain]
  rfl

theorem split_eq_splitOn (c : Char) (text : List Char) : split c text = text.splitOn c := by
  induction text with
  | nil => rfl
  | cons a rest ih =>
    rw [split,List.splitOn_cons_eq_if_modifyHead,← ih]
    by_cases same : a = c
    · simp [same]
    · rw [if_neg same,if_neg (by simpa using same)]
      cases parts : split c rest with
      | nil => exact absurd (ih.symm.trans parts) (List.splitOn_ne_nil c rest)
      | cons first more => rfl

theorem split_parts_plain {c : Char} {text part : List Char} (member : part ∈ split c text) : c ∉ part := by
  induction text generalizing part with
  | nil =>
    obtain rfl := List.mem_singleton.mp member
    exact List.not_mem_nil
  | cons a rest ih =>
    rw [split] at member
    split at member
    · rcases List.mem_cons.mp member with rfl | later
      · exact List.not_mem_nil
      · exact ih later
    · rename_i other
      cases parts : split c rest with
      | nil =>
        rw [parts] at member
        obtain rfl := List.mem_singleton.mp member
        simpa using Ne.symm other
      | cons first more =>
        rw [parts] at member ih
        rcases List.mem_cons.mp member with rfl | later
        · rw [List.mem_cons,not_or]
          exact ⟨Ne.symm other,ih List.mem_cons_self⟩
        · exact ih (List.mem_cons_of_mem _ later)

/-- `separator.join(texts).split(separator)`. -/
theorem split_intercalate {c : Char} {parts : List (List Char)} (plain : ∀ part ∈ parts, c ∉ part)
    (nonempty : parts ≠ []) : split c ([c].intercalate parts) = parts := by
  rw [split_eq_splitOn,List.splitOn_intercalate c plain nonempty]

/-- `text.zfill(width)`, for a text without a sign. -/
def zfill (width : Nat) (text : List Char) : List Char := List.replicate (width - text.length) '0' ++ text

/-- `c.isspace()`. -/
def isSpace (c : Char) : Bool :=
  let n := c.toNat
  (9 ≤ n && n ≤ 13) || (0x1c ≤ n && n ≤ 0x20) || n = 0x85 || n = 0xa0 || n = 0x1680 || (0x2000 ≤ n && n ≤ 0x200a) ||
    n = 0x2028 || n = 0x2029 || n = 0x202f || n = 0x205f || n = 0x3000

def isSlash (c : Char) : Bool := c == '/'

/-- `text.strip()` for the characters that are spaces, `text.strip("/")` for slashes. -/
def strip (drops : Char → Bool) (text : List Char) : List Char := (text.dropWhile drops).rdropWhile drops

theorem mem_of_mem_strip {drops : Char → Bool} {text : List Char} {c : Char} (member : c ∈ strip drops text) :
    c ∈ text :=
  (List.dropWhile_sublist drops).subset ((List.rdropWhile_prefix drops _).subset member)

theorem dropWhile_around {drops : Char → Bool} (before : List Char) {c : Char} (stays : drops c = false)
    (rest : List Char) : (before ++ c :: rest).dropWhile drops = before.dropWhile drops ++ c :: rest := by
  induction before with
  | nil => simp [stays]
  | cons b more ih =>
    by_cases goes : drops b = true
    · simp [goes,ih]
    · simp [goes]

theorem rdropWhile_around {drops : Char → Bool} (front : List Char) {c : Char} (stays : drops c = false)
    (after : List Char) : (front ++ c :: after).rdropWhile drops = front ++ c :: after.rdropWhile drops := by
  have reversed := dropWhile_around after.reverse stays front.reverse
  simp only [List.rdropWhile,List.reverse_append,List.reverse_cons,List.append_assoc,List.singleton_append,reversed]
  simp

/-- What surrounds a text whose ends stay is stripped, up to the first character that
    stays. -/
theorem strip_around {drops : Char → Bool} (before after : List Char) {first last : Char} {front back : List Char}
    {text : List Char} (starts : text = first :: back) (ends : text = front ++ [last]) (firstStays : drops first = false)
    (lastStays : drops last = false) :
    strip drops (before ++ (text ++ after)) = before.dropWhile drops ++ (text ++ after.rdropWhile drops) := by
  have left : (before ++ (text ++ after)).dropWhile drops = before.dropWhile drops ++ (text ++ after) := by
    rw [starts,List.cons_append,dropWhile_around before firstStays]
  have right := rdropWhile_around (before.dropWhile drops ++ front) lastStays after
  rw [strip,left,ends]
  simpa using right

/-! ### Paths -/

/-- `Path(text).name`: the last component that is not empty or a dot. -/
def pathName (text : List Char) : List Char :=
  (((split '/' text).filter (fun part => part ≠ [] ∧ part ≠ ['.'])).getLast?).getD []

/-- What stands before the last dot of a text, and the rest from the dot on. -/
def splitLastDot : List Char → Option (List Char × List Char)
  | [] => none
  | c :: rest =>
    match splitLastDot rest with
    | some (before,after) => some (c :: before,after)
    | none => if c = '.' then some ([],c :: rest) else none

/-- A dot at the beginning or the end of a name starts no suffix. -/
def splitSuffix (name : List Char) : List Char × List Char :=
  match splitLastDot name with
  | some (before,after) => if before ≠ [] ∧ after.length > 1 then (before,after) else (name,[])
  | none => (name,[])

/-- `Path(text).suffix` and `Path(text).stem`. -/
def pathSuffix (text : List Char) : List Char := (splitSuffix (pathName text)).2
def pathStem (text : List Char) : List Char := (splitSuffix (pathName text)).1

/-- `text.removesuffix(ending)`. -/
def removeSuffix (text ending : List Char) : List Char :=
  if ending.isSuffixOf text then text.take (text.length - ending.length) else text

/-- The name of a file in a folder. -/
theorem pathName_file (folder : List Char) {name : List Char} (plain : '/' ∉ name) (nonempty : name ≠ [])
    (file : name ≠ ['.']) : pathName (folder ++ '/' :: name) = name := by
  simp [pathName,split_between,split_plain plain,List.filter_append,nonempty,file]

theorem splitLastDot_none {text : List Char} (plain : '.' ∉ text) : splitLastDot text = none := by
  induction text with
  | nil => rfl
  | cons c rest ih =>
    obtain ⟨other,plain⟩ := not_or.mp (fun member => plain (List.mem_cons.mpr member))
    simp [splitLastDot,ih plain,Ne.symm other]

theorem splitLastDot_append (before : List Char) {after : List Char} (plain : '.' ∉ after) :
    splitLastDot (before ++ '.' :: after) = some (before,'.' :: after) := by
  induction before with
  | nil => simp [splitLastDot,splitLastDot_none plain]
  | cons c rest ih => simp [splitLastDot,ih]

theorem splitLastDot_eq {text before after : List Char} (parts : splitLastDot text = some (before,after)) :
    text = before ++ after := by
  induction text generalizing before after with
  | nil => cases parts
  | cons c rest ih =>
    simp only [splitLastDot] at parts
    split at parts
    · rename_i b a found
      obtain ⟨rfl,rfl⟩ := Prod.mk.inj (Option.some.inj parts)
      simp [ih found]
    · split at parts
      · obtain ⟨rfl,rfl⟩ := Prod.mk.inj (Option.some.inj parts)
        rfl
      · cases parts

/-- The stem and the suffix make up the name. -/
theorem stem_append_suffix (text : List Char) : pathStem text ++ pathSuffix text = pathName text := by
  unfold pathStem pathSuffix splitSuffix
  split
  · rename_i before after parts
    split
    · exact (splitLastDot_eq parts).symm
    · simp
  · simp

theorem splitSuffix_append {stem extension : List Char} (nonempty : stem ≠ []) (plain : '.' ∉ extension)
    (long : extension ≠ []) : splitSuffix (stem ++ '.' :: extension) = (stem,'.' :: extension) := by
  have : 0 < extension.length := List.length_pos_iff.mpr long
  simp [splitSuffix,splitLastDot_append stem plain,nonempty,this]

/-! ### Numbers -/

/-- `int(text)` of a text of ASCII digits. -/
def number (text : List Char) : Option Nat :=
  if text ≠ [] ∧ text.all Char.isDigit then some (Nat.ofDigitChars 10 text 0) else none

theorem number_toString (n : Nat) : number (toString n).toList = some n := by
  have digits : (Nat.toDigits 10 n).all Char.isDigit = true :=
    List.all_eq_true.mpr fun c member => Nat.isDigit_of_mem_toDigits (by decide) (by decide) member
  have nonempty : Nat.toDigits 10 n ≠ [] := Nat.toDigits_ne_nil
  rw [number,Nat.toString_eq_repr,Nat.toList_repr,if_pos ⟨nonempty,digits⟩,
    Nat.ofDigitChars_toDigits (by decide) (by decide)]

/-! ### Dates -/

def leapYear (year : Nat) : Bool := year % 4 = 0 && (year % 100 ≠ 0 || year % 400 = 0)

def daysIn (year month : Nat) : Nat :=
  if month = 2 then (if leapYear year then 29 else 28)
  else if month = 4 ∨ month = 6 ∨ month = 9 ∨ month = 11 then 30 else 31

/-- A moment of a clock, with a year of four digits. -/
structure Moment where
  year : Nat
  month : Nat
  day : Nat
  hour : Nat
  minute : Nat
  second : Nat
  inYear : 1000 ≤ year ∧ year ≤ 9999 ∧ 1 ≤ month ∧ month ≤ 12
  inMonth : 1 ≤ day ∧ day ≤ daysIn year month
  inDay : hour ≤ 23 ∧ minute ≤ 59 ∧ second ≤ 59
deriving DecidableEq

instance : Inhabited Moment := ⟨⟨1970,1,1,0,0,0,by decide,by decide,by decide⟩⟩

def digitChar (n : Nat) : Char := Char.ofNat (48 + n % 10)
def twoDigits (n : Nat) : List Char := [digitChar (n / 10),digitChar n]
def fourDigits (n : Nat) : List Char :=
  [digitChar (n / 1000),digitChar (n / 100),digitChar (n / 10),digitChar n]

/-- `strftime("%Y-%m-%dT%H:%M:%SZ")`. -/
def strftime (t : Moment) : List Char :=
  fourDigits t.year ++ '-' :: (twoDigits t.month ++ '-' :: (twoDigits t.day ++ 'T' :: (twoDigits t.hour ++
    ':' :: (twoDigits t.minute ++ ':' :: (twoDigits t.second ++ ['Z'])))))

/-- The zeros of the decimal digits of Unicode 15, each with nine digits after it. -/
def zeros : List Nat :=
  [0x30,0x660,0x6f0,0x7c0,0x966,0x9e6,0xa66,0xae6,0xb66,0xbe6,0xc66,0xce6,0xd66,0xde6,0xe50,0xed0,0xf20,0x1040,0x1090,
   0x17e0,0x1810,0x1946,0x19d0,0x1a80,0x1a90,0x1b50,0x1bb0,0x1c40,0x1c50,0xa620,0xa8d0,0xa900,0xa9d0,0xa9f0,0xaa50,
   0xabf0,0xff10,0x104a0,0x10d30,0x11066,0x110f0,0x11136,0x111d0,0x112f0,0x11450,0x114d0,0x11650,0x116c0,0x11730,0x118e0,
   0x11950,0x11c50,0x11d50,0x11da0,0x11f50,0x16a60,0x16ac0,0x16b50,0x1d7ce,0x1d7d8,0x1d7e2,0x1d7ec,0x1d7f6,0x1e140,
   0x1e2f0,0x1e4f0,0x1e950,0x1fbf0]

/-- The digit that a character stands for, where a pattern has `\d`. -/
def decimalOf (c : Char) : Option Nat :=
  zeros.findSome? fun first => if first ≤ c.toNat ∧ c.toNat ≤ first + 9 then some (c.toNat - first) else none

/-- The digit that a character stands for, where a pattern lists digits: these are ASCII. -/
def digitOf (c : Char) : Option Nat := if '0' ≤ c ∧ c ≤ '9' then some (c.toNat - 48) else none

/-- `1[0-2]|0[1-9]|[1-9]`, without the bounds. -/
def monthNumber : List Char → Option Nat
  | [a] => digitOf a
  | [a,b] => do
    let a ← digitOf a
    let b ← digitOf b
    some (10 * a + b)
  | _ => none

/-- `3[0-1]|[1-2]\d|0[1-9]|[1-9]| [1-9]`, without the bounds. -/
def dayNumber : List Char → Option Nat
  | [a] => digitOf a
  | [a,b] =>
    if a = ' ' then digitOf b
    else do
      let a ← digitOf a
      let b ← if a = 1 ∨ a = 2 then decimalOf b else digitOf b
      some (10 * a + b)
  | _ => none

/-- A number up to a bound: any digit may follow a first one that allows all ten, as in
    `2[0-3]|[0-1]\d|\d`, `[0-5]\d|\d` and `6[0-1]|[0-5]\d|\d`. -/
def timeNumber (most : Nat) : List Char → Option Nat
  | [a] => decimalOf a
  | [a,b] => do
    let a ← digitOf a
    let b ← if 10 * a + 9 ≤ most then decimalOf b else digitOf b
    if 10 * a + b ≤ most then some (10 * a + b) else none
  | _ => none

/-- `\d\d\d\d`. -/
def yearNumber : List Char → Option Nat
  | [a,b,c,d] => do
    let a ← decimalOf a
    let b ← decimalOf b
    let c ← decimalOf c
    let d ← decimalOf d
    some (1000 * a + 100 * b + 10 * c + d)
  | _ => none

/-- What stands before the first separator, and what follows it. -/
def upTo (separator : Char → Bool) : List Char → Option (List Char × List Char)
  | [] => none
  | c :: rest =>
    if separator c then some ([],rest)
    else match upTo separator rest with
      | some (before,after) => some (c :: before,after)
      | none => none

def isDash (c : Char) : Bool := c == '-'
def isColon (c : Char) : Bool := c == ':'
def isT (c : Char) : Bool := c == 'T' || c == 't'
def isZ (c : Char) : Bool := c == 'Z' || c == 'z'

/-- Whether `time.strptime(text,"%Y-%m-%dT%H:%M:%SZ")` accepts a text. Case does not
    matter, numbers may lack their leading zero, and a minute may have 62 seconds. -/
def strptime (text : List Char) : Option Unit := do
  let (year,text) ← upTo isDash text
  let (month,text) ← upTo isDash text
  let (day,text) ← upTo isT text
  let (hour,text) ← upTo isColon text
  let (minute,text) ← upTo isColon text
  let (second,text) ← upTo isZ text
  let year ← yearNumber year
  let month ← monthNumber month
  let day ← dayNumber day
  let _ ← timeNumber 23 hour
  let _ ← timeNumber 59 minute
  let _ ← timeNumber 61 second
  guard (1 ≤ year ∧ 1 ≤ month ∧ month ≤ 12 ∧ 1 ≤ day ∧ day ≤ daysIn year month ∧ text = [])

theorem digitOf_digitChar (n : Nat) : digitOf (digitChar n) = some (n % 10) := by
  have all : ∀ d < 10, digitOf (Char.ofNat (48 + d)) = some d := by decide
  exact all _ (Nat.mod_lt _ (by omega))

theorem decimalOf_digitChar (n : Nat) : decimalOf (digitChar n) = some (n % 10) := by
  have all : ∀ d < 10, decimalOf (Char.ofNat (48 + d)) = some d := by decide
  exact all _ (Nat.mod_lt _ (by omega))

/-- A digit is none of the separators. -/
theorem digitChar_plain (n : Nat) : ∀ c ∈ ['-','T','t',':','Z','z','.','/',' '], digitChar n ≠ c := by
  have all : (List.range 10).all (fun d => ['-','T','t',':','Z','z','.','/',' '].all (Char.ofNat (48 + d) != ·)) = true :=
    rfl
  intro c separator
  have different := List.all_eq_true.mp (List.all_eq_true.mp all (n % 10) (List.mem_range.mpr (by omega))) c separator
  exact bne_iff_ne.mp different

theorem monthNumber_twoDigits {n : Nat} (short : n < 100) : monthNumber (twoDigits n) = some n := by
  simp only [twoDigits,monthNumber,digitOf_digitChar]
  exact congrArg some (by omega)

theorem dayNumber_twoDigits {n : Nat} (short : n < 100) : dayNumber (twoDigits n) = some n := by
  have other : digitChar (n / 10) ≠ ' ' := digitChar_plain (n / 10) ' ' (by decide)
  have day : 10 * (n / 10 % 10) + n % 10 = n := by omega
  simp [twoDigits,dayNumber,other,digitOf_digitChar,decimalOf_digitChar,day]

theorem timeNumber_twoDigits {n most : Nat} (short : n < 100) (bounded : n ≤ most) :
    timeNumber most (twoDigits n) = some n := by
  have time : 10 * (n / 10 % 10) + n % 10 = n := by omega
  simp [twoDigits,timeNumber,digitOf_digitChar,decimalOf_digitChar,time,bounded]

theorem yearNumber_fourDigits {n : Nat} (short : n < 10000) : yearNumber (fourDigits n) = some n := by
  simp only [fourDigits,yearNumber,decimalOf_digitChar]
  exact congrArg some (by omega)

theorem daysIn_le (year month : Nat) : daysIn year month ≤ 31 := by
  unfold daysIn
  split
  · split <;> omega
  · split <;> omega

section
variable {separator : Char → Bool} (plain : ∀ n, separator (digitChar n) = false)
include plain

theorem upTo_twoDigits {c : Char} (found : separator c = true) (n : Nat) (rest : List Char) :
    upTo separator (twoDigits n ++ c :: rest) = some (twoDigits n,rest) := by
  simp [twoDigits,upTo,plain,found]

theorem upTo_fourDigits {c : Char} (found : separator c = true) (n : Nat) (rest : List Char) :
    upTo separator (fourDigits n ++ c :: rest) = some (fourDigits n,rest) := by
  simp [fourDigits,upTo,plain,found]

end

/-- What the charm writes as a date is read as one. -/
theorem strptime_strftime (t : Moment) : strptime (strftime t) = some () := by
  obtain ⟨year,month,day,hour,minute,second,inYear,inMonth,inDay⟩ := t
  have days := daysIn_le year month
  have dash : ∀ n, isDash (digitChar n) = false := fun n => by simp [isDash,digitChar_plain n]
  have tee : ∀ n, isT (digitChar n) = false := fun n => by simp [isT,digitChar_plain n]
  have colon : ∀ n, isColon (digitChar n) = false := fun n => by simp [isColon,digitChar_plain n]
  have zed : ∀ n, isZ (digitChar n) = false := fun n => by simp [isZ,digitChar_plain n]
  have inRange : 1 ≤ year ∧ 1 ≤ month ∧ month ≤ 12 ∧ 1 ≤ day ∧ day ≤ daysIn year month := by omega
  unfold strftime strptime
  rw [upTo_fourDigits dash rfl]
  dsimp only [Option.bind_eq_bind,Option.bind_some]
  rw [upTo_twoDigits dash rfl]
  dsimp only [Option.bind_eq_bind,Option.bind_some]
  rw [upTo_twoDigits tee rfl]
  dsimp only [Option.bind_eq_bind,Option.bind_some]
  rw [upTo_twoDigits colon rfl]
  dsimp only [Option.bind_eq_bind,Option.bind_some]
  rw [upTo_twoDigits colon rfl]
  dsimp only [Option.bind_eq_bind,Option.bind_some]
  rw [upTo_twoDigits zed rfl]
  dsimp only [Option.bind_eq_bind,Option.bind_some]
  rw [yearNumber_fourDigits (by omega),monthNumber_twoDigits (by omega),dayNumber_twoDigits (by omega),
    timeNumber_twoDigits (by omega) (by omega),timeNumber_twoDigits (by omega) (by omega),
    timeNumber_twoDigits (by omega) (by omega)]
  dsimp only [Option.bind_eq_bind,Option.bind_some]
  simp [guard,inRange]

/-- A date is a plain name: no folder, no dot. -/
theorem strftime_plain (t : Moment) : '/' ∉ strftime t ∧ '.' ∉ strftime t ∧ strftime t ≠ [] := by
  have slash : ∀ n, '/' ≠ digitChar n := fun n => (digitChar_plain n '/' (by simp)).symm
  have dot : ∀ n, '.' ≠ digitChar n := fun n => (digitChar_plain n '.' (by simp)).symm
  simp [strftime,fourDigits,twoDigits,slash,dot]

end MysqlOperators.Python
