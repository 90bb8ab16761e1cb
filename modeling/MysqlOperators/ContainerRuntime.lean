import MysqlOperators.Quantities

/-!
The cores and the memory of a container, as `ContainerRuntime` reads them from the
limits of the container and from what its node can allocate. Both are quantities of
Kubernetes, which the code reads with `int`, a division and a regular expression.
-/
namespace MysqlOperators.ContainerRuntime
open MysqlOperators.Python MysqlOperators.Quantities

/-- `ApiError`, `RuntimeError`, `ValueError` and `KeyError`. -/
inductive Fault where
  | apiError
  | runtimeError
  | valueError
  | keyError
deriving DecidableEq, Repr

/-! ### The cluster -/

abbrev Amounts := List (String × Quantity)

/-- A container with its resources, which may have no limits. -/
structure Container where
  name : String
  resources : Option (Option Amounts)

structure PodSpec where
  nodeName : Option String
  containers : List Container

structure Pod where
  spec : Option PodSpec

/-- A node with its status, which may tell nothing that can be allocated. -/
structure Node where
  status : Option (Option Amounts)

/-- What the API answers when the limits and the name of the node are looked up, with
    nothing where it answers with an error. The name of the node is asked for once. -/
structure Runtime where
  containerName : String
  cachedNodeName : Option String
  limitsPod : Option Pod
  namePod : Option Pod
  node : String → Option Node

/-! ### Reading -/

/-- `int(text)`. -/
def int (text : List Char) : Except Fault Nat :=
  match Python.number text with
  | some n => .ok n
  | none => .error .valueError

def parseProcs (procs : List Char) : Except Fault Nat := do
  let procUnits ← int ((split 'm' procs).headD [])
  pure (procUnits / 1000)

/-- `\w`, in ASCII. -/
def isWord (c : Char) : Bool := c.isAlphanum || c == '_'

/-- The groups of `^(\d+)(\w+)$` in a text without line breaks. Digits belong to the
    first group, up to one that the second group needs. -/
def memoryPattern (text : List Char) : Option (List Char × List Char) :=
  let digits := text.takeWhile Char.isDigit
  let rest := text.dropWhile Char.isDigit
  if rest ≠ [] then if digits ≠ [] ∧ rest.all isWord then some (digits,rest) else none
  else if 2 ≤ digits.length then some (digits.dropLast,digits.drop (digits.length - 1))
  else none

def memoryBytes : List (List Char × Nat) :=
  [(['K','I'],1024),(['K'],10^3),(['M','I'],1048576),(['M'],10^6),(['G','I'],1073741824),(['G'],10^9),
   (['T','I'],1099511627776),(['T'],10^12)]

def parseMemory (memory : List Char) : Except Fault Nat :=
  match memoryPattern memory with
  | none => .error .runtimeError
  | some (memoryValue,memoryUnits) => do
    let n ← int memoryValue
    match memoryBytes.lookup (memoryUnits.map Char.toUpper) with
    | none => .error .keyError
    | some bytes => pure (n * bytes)

/-- `try: int(text) / except ValueError: parse(text)`. -/
def reading (parse : List Char → Except Fault Nat) (text : List Char) : Except Fault Nat :=
  match int text with
  | .error .valueError => parse text
  | r => r

namespace Runtime
variable (r : Runtime)

/-- An answer of the API. -/
def get {α : Type} : Option α → Except Fault α
  | none => .error .apiError
  | some a => .ok a

def nodeName : Except Fault String :=
  match r.cachedNodeName with
  | some name => .ok name
  | none => do
    let pod ← get r.namePod
    match pod.spec with
    | none => .error .runtimeError
    | some spec =>
      match spec.nodeName with
      | none | some "" => .error .runtimeError
      | some name => .ok name

def limitsOf (pod : Pod) : Amounts :=
  match pod.spec with
  | none => []
  | some spec =>
    match spec.containers.find? (fun container => container.name == r.containerName && container.resources.isSome) with
    | none => []
    | some container => (container.resources.getD none).getD []

def getContainerLimits : Except Fault Amounts := do
  let pod ← get r.limitsPod
  pure (r.limitsOf pod)

/-- The limit under a key, where there is one. -/
def getContainerAmount (key : String) (parse : List Char → Except Fault Nat) : Except Fault (Option Nat) := do
  let limits ← r.getContainerLimits
  match limits.lookup key with
  | none => pure none
  | some q => do
    let n ← reading parse q.text
    pure (some n)

def getContainerCores : Except Fault (Option Nat) := r.getContainerAmount "cpu" parseProcs
def getContainerMemory : Except Fault (Option Nat) := r.getContainerAmount "memory" parseMemory

def allocatable (node : Node) : Amounts := (node.status.getD none).getD []

/-- The amount that the node can allocate, where it tells one. -/
def getNodeAmount (key : String) (parse : List Char → Except Fault Nat) : Except Fault (Option Nat) := do
  let name ← r.nodeName
  let node ← get (r.node name)
  match (allocatable node).lookup key with
  | none => pure none
  | some q => do
    let n ← reading parse q.text
    pure (some n)

def getNodeCores : Except Fault (Option Nat) := r.getNodeAmount "cpu" parseProcs
def getNodeMemory : Except Fault (Option Nat) := r.getNodeAmount "memory" parseMemory

/-- `min(count for count in counts if count)`. -/
def least (counts : List (Option Nat)) : Except Fault Nat :=
  match (counts.filterMap id).filter (· ≠ 0) with
  | [] => .error .valueError
  | n :: rest => .ok (rest.foldl min n)

/-- The smaller one of two amounts, with `ApiError` turned into `RuntimeError`. -/
def smaller (container node : Except Fault (Option Nat)) : Except Fault Nat :=
  match (do let c ← container; let n ← node; pure (c,n) : Except Fault (Option Nat × Option Nat)) with
  | .error .apiError => .error .runtimeError
  | .error e => .error e
  | .ok (c,n) => least [c,n]

def getCores : Except Fault Nat := smaller r.getContainerCores r.getNodeCores
def getMemory : Except Fault Nat := smaller r.getContainerMemory r.getNodeMemory

/-! ### What is reported -/

/-- The node, if its name is known and the API answers. -/
def reachedNode : Option Node :=
  match r.nodeName with
  | .ok name => r.node name
  | .error _ => none

/-- The limit of the container and the amount of the node under a key, as far as they
    are reported. -/
def limit (key : String) : Option Quantity := r.limitsPod.bind fun pod => (r.limitsOf pod).lookup key

def nodeAmount (key : String) : Option Quantity := r.reachedNode.bind fun node => (allocatable node).lookup key

def amounts (key : String) : List Quantity := (r.limit key).toList ++ (r.nodeAmount key).toList

/-- The API has answered about the container and its node. -/
def Answered : Prop := r.limitsPod.isSome ∧ r.reachedNode.isSome

end Runtime

/-- A quantity is obtained, rounded to a number, or refused. -/
def Obtains (q : Quantity) : Except Fault Nat → Prop
  | .ok n => |(n : ℚ) - q.value| < 1
  | .error e => e = .runtimeError

/-- A result is at least one and not above any amount rounded up, or is refused. -/
def Bounded (amounts : List Quantity) : Except Fault Nat → Prop
  | .ok n => 1 ≤ n ∧ ∀ q ∈ amounts, (n : ℤ) ≤ ⌈q.value⌉
  | .error e => e = .runtimeError

structure Sound (r : Runtime) : Prop where
  cores : ∀ q ∈ r.amounts "cpu", Obtains q (reading parseProcs q.text)
  memory : ∀ q ∈ r.amounts "memory", Obtains q (reading parseMemory q.text)
  getCores : Bounded (r.amounts "cpu") r.getCores
  getMemory : Bounded (r.amounts "memory") r.getMemory

/-! ### What the code reads -/

/-- A number of cores, or of thousandths. -/
def CoresRead (q : Quantity) : Prop := q.fraction = none ∧ (q.suffix = .plain ∨ q.suffix = .milli)

/-- The exponent has a sign. -/
def signed : Suffix → Bool
  | .exponent _ sign _ _ => sign != .absent
  | _ => false

/-- What the regular expression does not match. -/
def Refused (q : Quantity) : Prop := q.fraction ≠ none ∨ signed q.suffix = true

/-- The suffixes that are in the table under their own name. -/
def known : Suffix → Bool
  | .plain | .kilo | .mega | .giga | .tera | .kibi | .mebi | .gibi | .tebi => true
  | _ => false

/-- A whole number with a suffix that is read for what it is; nothing is as much in
    thousandths as in millions. -/
def MemoryRead (q : Quantity) : Prop :=
  q.fraction = none ∧ (known q.suffix = true ∨ q.suffix = .milli ∧ natOf q.whole = 0)

/-- Some amount is a core at least, and one that is less than a core is more than
    nothing and stands next to less than two cores. -/
def EnoughCores (amounts : List Quantity) : Prop :=
  (∃ q ∈ amounts, 1 ≤ q.value) ∧ ∀ q ∈ amounts, q.value < 1 → 0 < q.value ∧ ∀ q' ∈ amounts, q'.value < 2

/-- Some amount is refused, or there is one and none is nothing. -/
def EnoughMemory (amounts : List Quantity) : Prop :=
  (∃ q ∈ amounts, Refused q) ∨ amounts ≠ [] ∧ ∀ q ∈ amounts, 0 < q.value

/-- What the readings and the two minima need. -/
structure Met (r : Runtime) : Prop where
  cores : ∀ q ∈ r.amounts "cpu", CoresRead q
  memory : ∀ q ∈ r.amounts "memory", Refused q ∨ MemoryRead q
  enoughCores : r.Answered → EnoughCores (r.amounts "cpu")
  enoughMemory : r.Answered → EnoughMemory (r.amounts "memory")

/-! ### One quantity -/

section
variable {q : Quantity}

/-- A suffix begins with a character that is no digit. -/
theorem suffix_cons {s : Suffix} (some_ : s ≠ .plain) : ∃ c rest, s.text = c :: rest ∧ c.isDigit = false := by
  cases s with
  | plain => exact absurd rfl some_
  | exponent capital sign first more => cases capital <;> exact ⟨_,_,rfl,rfl⟩
  | _ => exact ⟨_,_,rfl,rfl⟩

theorem notin_suffix {s : Suffix} (other : s ≠ .milli) : 'm' ∉ s.text := by
  cases s with
  | milli => exact absurd rfl other
  | exponent capital sign first more =>
    have digits := notin_digitsText (c := 'm') rfl (first :: more)
    cases capital <;> cases sign <;> simp [Suffix.text,Sign.text,digits]
  | _ => decide

theorem int_text_other (other : q.fraction ≠ none ∨ q.suffix ≠ .plain) : int q.text = .error .valueError := by
  have none_ : Python.number q.text = none := by
    cases fraction : q.fraction with
    | some digits =>
      have point : '.' ∈ q.text := by simp [text_fraction fraction]
      exact number_other point rfl
    | none =>
      obtain ⟨c,rest,text,digit⟩ := suffix_cons (other.resolve_left (fun h => h fraction))
      have member : c ∈ q.text := by simp [text_whole fraction,text]
      exact number_other member digit
  simp [int,none_]

theorem int_digits {digits : List (Fin 10)} (nonempty : digits ≠ []) :
    int (digitsText digits) = .ok (natOf digits) := by
  simp [int,number_digitsText nonempty]

/-- Without thousandths, the whole text is to be a number. -/
theorem parseProcs_other (other : q.suffix ≠ .milli) (spelled : q.fraction ≠ none ∨ q.suffix ≠ .plain) :
    parseProcs q.text = .error .valueError := by
  have absent : 'm' ∉ q.text := by
    have suffix := notin_suffix other
    have whole := notin_digitsText (c := 'm') rfl q.whole
    cases fraction : q.fraction with
    | none => simp [text_whole fraction,suffix,whole]
    | some digits =>
      have part := notin_digitsText (c := 'm') rfl digits
      simp [text_fraction fraction,suffix,whole,part]
  rw [parseProcs,split_plain absent,List.headD_cons,int_text_other spelled]
  rfl

theorem cores_of_read (read : CoresRead q) :
    ∃ n : Nat, reading parseProcs q.text = .ok n ∧ (n : ℚ) ≤ q.value ∧ q.value < n + 1 := by
  obtain ⟨fraction,suffix⟩ := read
  have number := int_digits (whole_nonempty fraction)
  rcases suffix with plain | milli
  · refine ⟨natOf q.whole,?_,?_,?_⟩
    · have text : q.text = digitsText q.whole := by simp [text_whole fraction,plain,Suffix.text]
      rw [reading,text,number]
    · simp [value_whole fraction,plain,Suffix.factor]
    · simp [value_whole fraction,plain,Suffix.factor]
  · refine ⟨natOf q.whole / 1000,?_,?_,?_⟩
    · have text : q.text = digitsText q.whole ++ 'm' :: [] := by simp [text_whole fraction,milli,Suffix.text]
      have units : (split 'm' q.text).headD [] = digitsText q.whole := by
        rw [text,split_append (notin_digitsText rfl _)]
        rfl
      rw [reading,int_text_other (.inr (by simp [milli]))]
      simp only [parseProcs,units,number]
      rfl
    · have below : natOf q.whole / 1000 * 1000 ≤ natOf q.whole := Nat.div_mul_le_self _ _
      have cast : ((natOf q.whole / 1000 : Nat) : ℚ) * 1000 ≤ natOf q.whole := by exact_mod_cast below
      simp only [value_whole fraction,milli,Suffix.factor]
      linarith
    · have above : natOf q.whole < (natOf q.whole / 1000 + 1) * 1000 := by omega
      have cast : (natOf q.whole : ℚ) < ((natOf q.whole / 1000 : Nat) + 1) * 1000 := by exact_mod_cast above
      simp only [value_whole fraction,milli,Suffix.factor]
      linarith

/-- Everything else raises. -/
theorem cores_of_not_read (other : ¬ CoresRead q) : reading parseProcs q.text = .error .valueError := by
  by_cases milli : q.suffix = .milli
  · have fraction : q.fraction ≠ none := fun none_ => other ⟨none_,.inr milli⟩
    obtain ⟨digits,some_⟩ := Option.ne_none_iff_exists'.mp fraction
    have text : q.text = (digitsText q.whole ++ '.' :: digitsText digits) ++ 'm' :: [] := by
      simp [text_fraction some_,milli,Suffix.text]
    have absent : 'm' ∉ digitsText q.whole ++ '.' :: digitsText digits := by
      have whole := notin_digitsText (c := 'm') rfl q.whole
      have part := notin_digitsText (c := 'm') rfl digits
      simp [whole,part]
    have number : Python.number (digitsText q.whole ++ '.' :: digitsText digits) = none :=
      number_other (c := '.') (by simp) rfl
    rw [reading,int_text_other (.inl fraction)]
    simp only [parseProcs,text,split_append absent,List.headD_cons,int,number]
    rfl
  · have spelled : q.fraction ≠ none ∨ q.suffix ≠ .plain := by
      by_contra both
      obtain ⟨fraction,plain⟩ := not_or.mp both
      exact other ⟨not_not.mp fraction,.inl (not_not.mp plain)⟩
    rw [reading,int_text_other spelled]
    exact parseProcs_other milli spelled

theorem obtains_cores_iff : Obtains q (reading parseProcs q.text) ↔ CoresRead q := by
  constructor
  · intro obtains
    by_contra other
    rw [cores_of_not_read other] at obtains
    cases obtains
  · intro read
    obtain ⟨n,result,below,above⟩ := cores_of_read read
    rw [result]
    exact abs_lt.mpr ⟨by linarith,by linarith⟩

/-! ### Memory -/

theorem isWord_digits (digits : List (Fin 10)) : (digitsText digits).all isWord = true := by
  refine List.all_eq_true.mpr fun c member => ?_
  have digit := List.all_eq_true.mp (all_digitsText digits) c member
  simp [isWord,Char.isAlphanum,digit]

/-- The pattern cuts a text after its digits. -/
theorem memoryPattern_cons (digits : List (Fin 10)) {c : Char} (other : c.isDigit = false) (rest : List Char) :
    memoryPattern (digitsText digits ++ c :: rest) =
      if digits ≠ [] ∧ (c :: rest).all isWord then some (digitsText digits,c :: rest) else none := by
  obtain ⟨front,back⟩ := takeWhile_digitsText digits other rest
  have nonempty : digitsText digits ≠ [] ↔ digits ≠ [] := by simp [digitsText]
  simp only [memoryPattern,front,back,nonempty]
  simp

theorem memory_of_refused (refused : Refused q) : reading parseMemory q.text = .error .runtimeError := by
  have pattern : memoryPattern q.text = none := by
    cases fraction : q.fraction with
    | some digits =>
      rw [text_fraction fraction,memoryPattern_cons _ rfl,if_neg]
      simp [isWord]
    | none =>
      have sign := refused.resolve_left (fun h => h fraction)
      rw [text_whole fraction]
      cases suffix : q.suffix with
      | exponent capital s first more =>
        rw [suffix] at sign
        have letter : (if capital then 'E' else 'e' : Char).isDigit = false := by cases capital <;> rfl
        rw [Suffix.text,memoryPattern_cons _ letter,if_neg]
        cases s with
        | absent => cases sign
        | plus => simp [Sign.text,isWord]
        | minus => simp [Sign.text,isWord]
      | _ =>
        rw [suffix] at sign
        cases sign
  have spelled : q.fraction ≠ none ∨ q.suffix ≠ .plain := by
    refine refused.imp_right fun sign plain => ?_
    rw [plain] at sign
    cases sign
  rw [reading,int_text_other spelled]
  simp only [parseMemory,pattern]

/-- A whole number is multiplied by what the table has for its suffix. -/
theorem parseMemory_whole (fraction : q.fraction = none) (unsigned : signed q.suffix = false)
    (some_ : q.suffix ≠ .plain) :
    reading parseMemory q.text = match memoryBytes.lookup (q.suffix.text.map Char.toUpper) with
      | none => .error .keyError
      | some bytes => .ok (natOf q.whole * bytes) := by
  obtain ⟨c,rest,text,digit⟩ := suffix_cons some_
  have words : (c :: rest).all isWord = true := by
    rw [← text]
    cases suffix : q.suffix with
    | exponent capital s first more =>
      rw [suffix] at unsigned
      cases s with
      | absent =>
        have digits := isWord_digits (first :: more)
        cases capital <;> simpa [Suffix.text,Sign.text,isWord] using digits
      | _ => cases unsigned
    | _ => rfl
  have nonempty := whole_nonempty fraction
  have pattern : memoryPattern q.text = some (digitsText q.whole,q.suffix.text) := by
    rw [text_whole fraction,text,memoryPattern_cons _ digit,if_pos ⟨nonempty,words⟩]
  rw [reading,int_text_other (.inr some_)]
  simp only [parseMemory,pattern,int_digits nonempty]
  cases memoryBytes.lookup (q.suffix.text.map Char.toUpper) <;> rfl

theorem lookup_known {s : Suffix} (known_ : known s = true) (some_ : s ≠ .plain) :
    ∃ bytes, memoryBytes.lookup (s.text.map Char.toUpper) = some bytes ∧ (bytes : ℚ) = s.factor := by
  cases s with
  | plain => exact absurd rfl some_
  | milli | peta | exa | pebi | exbi => cases known_
  | exponent capital sign first more => cases known_
  | _ => exact ⟨_,rfl,by norm_num [Suffix.factor]⟩

theorem lookup_unknown {s : Suffix} (unknown : known s = false) (other : s ≠ .milli) :
    memoryBytes.lookup (s.text.map Char.toUpper) = none := by
  cases s with
  | milli => exact absurd rfl other
  | exponent capital sign first more => cases capital <;> rfl
  | peta | exa | pebi | exbi => rfl
  | _ => cases unknown

theorem memory_of_read (read : MemoryRead q) : ∃ n : Nat, reading parseMemory q.text = .ok n ∧ (n : ℚ) = q.value := by
  obtain ⟨fraction,recognised⟩ := read
  by_cases plain : q.suffix = .plain
  · refine ⟨natOf q.whole,?_,?_⟩
    · have text : q.text = digitsText q.whole := by simp [text_whole fraction,plain,Suffix.text]
      rw [reading,text,int_digits (whole_nonempty fraction)]
    · simp [value_whole fraction,plain,Suffix.factor]
  · rcases recognised with known_ | ⟨milli,zero⟩
    · have unsigned : signed q.suffix = false := by
        cases suffix : q.suffix with
        | exponent capital sign first more =>
          rw [suffix] at known_
          cases known_
        | _ => rfl
      obtain ⟨bytes,found,factor⟩ := lookup_known known_ plain
      refine ⟨natOf q.whole * bytes,?_,?_⟩
      · rw [parseMemory_whole fraction unsigned plain,found]
      · rw [value_whole fraction,Nat.cast_mul,factor]
    · refine ⟨0,?_,?_⟩
      · have unsigned : signed q.suffix = false := by rw [milli]; rfl
        have found : memoryBytes.lookup (q.suffix.text.map Char.toUpper) = some (10^6) := by rw [milli]; rfl
        rw [parseMemory_whole fraction unsigned plain,found,zero]
        rfl
      · rw [value_whole fraction,zero,Nat.cast_zero,zero_mul]

/-- Thousandths are read as millions, and what is not in the table raises. -/
theorem not_obtains_memory (accepted : ¬ Refused q) (other : ¬ MemoryRead q) :
    ¬ Obtains q (reading parseMemory q.text) := by
  obtain ⟨fraction,sign⟩ := not_or.mp accepted
  have fraction : q.fraction = none := not_not.mp fraction
  have unsigned : signed q.suffix = false := by simpa using sign
  have unknown : known q.suffix = false := by
    by_contra known_
    exact other ⟨fraction,.inl (by simpa using known_)⟩
  have some_ : q.suffix ≠ .plain := by
    intro plain
    rw [plain] at unknown
    cases unknown
  rw [parseMemory_whole fraction unsigned some_]
  by_cases milli : q.suffix = .milli
  · have positive : 1 ≤ natOf q.whole := by
      have nonzero : natOf q.whole ≠ 0 := fun zero => other ⟨fraction,.inr ⟨milli,zero⟩⟩
      omega
    have cast : (1 : ℚ) ≤ natOf q.whole := by exact_mod_cast positive
    have found : memoryBytes.lookup (q.suffix.text.map Char.toUpper) = some (10^6) := by rw [milli]; rfl
    rw [found]
    intro obtains
    have near := (abs_lt.mp obtains).2
    simp only [value_whole fraction,milli,Suffix.factor] at near
    push_cast at near
    linarith
  · rw [lookup_unknown unknown milli]
    rintro ⟨⟩

theorem obtains_memory_iff : Obtains q (reading parseMemory q.text) ↔ Refused q ∨ MemoryRead q := by
  constructor
  · intro obtains
    by_contra neither
    obtain ⟨accepted,other⟩ := not_or.mp neither
    exact not_obtains_memory accepted other obtains
  · rintro (refused | read)
    · rw [memory_of_refused refused]
      rfl
    · obtain ⟨n,result,value⟩ := memory_of_read read
      rw [result]
      show |(n : ℚ) - q.value| < 1
      rw [value,sub_self,abs_zero]
      exact one_pos

end

/-! ### The two amounts -/

/-- The reading of an amount that may be absent. -/
def readingOf (parse : List Char → Except Fault Nat) : Option Quantity → Except Fault (Option Nat)
  | none => .ok none
  | some q => (reading parse q.text).map some

section
variable {r : Runtime} {parse : List Char → Except Fault Nat} {key : String}

theorem getContainerAmount_eq : r.getContainerAmount key parse =
    if r.limitsPod.isSome then readingOf parse (r.limit key) else .error .apiError := by
  unfold Runtime.getContainerAmount Runtime.getContainerLimits Runtime.limit
  cases r.limitsPod with
  | none => rfl
  | some pod =>
    show (match (r.limitsOf pod).lookup key with | none => _ | some q => _) =
      readingOf parse ((r.limitsOf pod).lookup key)
    cases (r.limitsOf pod).lookup key with
    | none => rfl
    | some q => cases reading parse q.text <;> rfl

theorem nodeName_error {e : Fault} (failed : r.nodeName = .error e) : e = .apiError ∨ e = .runtimeError := by
  unfold Runtime.nodeName at failed
  split at failed
  · cases failed
  · cases pod : r.namePod with
    | none =>
      rw [pod] at failed
      cases failed
      exact .inl rfl
    | some p =>
      rw [pod] at failed
      change (match p.spec with | none => _ | some spec => _) = _ at failed
      split at failed
      · cases failed
        exact .inr rfl
      · split at failed
        · cases failed
          exact .inr rfl
        · cases failed
          exact .inr rfl
        · cases failed

theorem getNodeAmount_eq : ∃ e, (e = .apiError ∨ e = .runtimeError) ∧ r.getNodeAmount key parse =
    if r.reachedNode.isSome then readingOf parse (r.nodeAmount key) else .error e := by
  unfold Runtime.getNodeAmount Runtime.reachedNode Runtime.nodeAmount Runtime.reachedNode
  cases named : r.nodeName with
  | error e => exact ⟨e,nodeName_error named,rfl⟩
  | ok name =>
    refine ⟨.apiError,.inl rfl,?_⟩
    cases found : r.node name with
    | none => simp [Runtime.get,found,bind,Except.bind]
    | some node =>
      cases listed : (Runtime.allocatable node).lookup key with
      | none => simp [Runtime.get,found,bind,Except.bind,listed,readingOf,pure,Except.pure]
      | some q =>
        cases result : reading parse q.text <;>
          simp [Runtime.get,found,bind,Except.bind,listed,readingOf,result,pure,Except.pure,Except.map]

/-- Until the API has answered, what is read is obtained or refused. -/
theorem smaller_unanswered (unanswered : ¬ r.Answered) (fine : ∀ q ∈ r.amounts key, ∀ e,
    reading parse q.text = .error e → e = .runtimeError) :
    Runtime.smaller (r.getContainerAmount key parse) (r.getNodeAmount key parse) = .error .runtimeError := by
  obtain ⟨e,kind,node⟩ := @getNodeAmount_eq r parse key
  rw [getContainerAmount_eq,node]
  by_cases limits : r.limitsPod.isSome = true
  · have reached : ¬ r.reachedNode.isSome = true := fun reached => unanswered ⟨limits,reached⟩
    rw [if_pos limits,if_neg reached]
    have failed : Runtime.smaller (.ok none) (.error e) = .error .runtimeError ∧
        ∀ n, Runtime.smaller (.ok (some n)) (.error e) = .error .runtimeError := by
      rcases kind with rfl | rfl <;> exact ⟨rfl,fun _ => rfl⟩
    cases amount : r.limit key with
    | none => exact failed.1
    | some q =>
      have member : q ∈ r.amounts key := by simp [Runtime.amounts,amount]
      cases result : reading parse q.text with
      | error e' =>
        rw [fine q member e' result] at result
        simp [readingOf,result,Except.map,Runtime.smaller,bind,Except.bind]
      | ok n =>
        simp only [readingOf,result,Except.map]
        exact failed.2 n
  · rw [if_neg limits]
    rfl

theorem smaller_answered (answered : r.Answered) :
    Runtime.smaller (r.getContainerAmount key parse) (r.getNodeAmount key parse) =
      Runtime.smaller (readingOf parse (r.limit key)) (readingOf parse (r.nodeAmount key)) := by
  obtain ⟨e,_,node⟩ := @getNodeAmount_eq r parse key
  rw [getContainerAmount_eq,node,if_pos answered.1,if_pos answered.2]

end

/-! ### The minimum -/

/-- The least of two counts that are not zero. -/
def leastOf (m n : Nat) : Except Fault Nat :=
  if m = 0 then if n = 0 then .error .valueError else .ok n else if n = 0 then .ok m else .ok (min m n)

theorem least_pair (m n : Nat) : Runtime.least [some m,some n] = leastOf m n := by
  by_cases zero : m = 0 <;> by_cases zero' : n = 0 <;> simp [Runtime.least,leastOf,zero,zero']

theorem least_first (m : Nat) : Runtime.least [some m,none] = leastOf m 0 := by
  by_cases zero : m = 0 <;> simp [Runtime.least,leastOf,zero]

theorem least_second (n : Nat) : Runtime.least [none,some n] = leastOf 0 n := by
  by_cases zero : n = 0 <;> simp [Runtime.least,leastOf,zero]

theorem le_ceil_iff {n : Nat} {value : ℚ} : (n : ℤ) ≤ ⌈value⌉ ↔ (n : ℚ) < value + 1 := by
  rw [Int.le_ceil_iff]
  push_cast
  constructor <;> intro bound <;> linarith

/-- A count that is not zero is one at least, as a rational number too. -/
theorem one_le_cast {n : Nat} (nonzero : n ≠ 0) : 1 ≤ n ∧ (1 : ℚ) ≤ n := by
  have one : 1 ≤ n := Nat.one_le_iff_ne_zero.mpr nonzero
  exact ⟨one,by exact_mod_cast one⟩

section
variable {q q' : Quantity} {m n : Nat} {parse : List Char → Except Fault Nat}

theorem mem_swap (p : Quantity) : p ∈ [q,q'] ↔ p ∈ [q',q] := by simp [or_comm]

theorem bounded_swap {result : Except Fault Nat} : Bounded [q,q'] result ↔ Bounded [q',q] result := by
  cases result with
  | error e => rfl
  | ok n => simp only [Bounded,@mem_swap q q']

theorem enoughCores_swap : EnoughCores [q,q'] ↔ EnoughCores [q',q] := by simp only [EnoughCores,@mem_swap q q']

theorem leastOf_comm : leastOf m n = leastOf n m := by
  unfold leastOf
  split <;> split <;> simp [min_comm]

theorem leastOf_nonzero (nonzero : m ≠ 0) (nonzero' : n ≠ 0) :
    leastOf m n = .ok (min m n) ∧ 1 ≤ min m n ∧ ((min m n : Nat) : ℚ) ≤ m ∧ ((min m n : Nat) : ℚ) ≤ n := by
  refine ⟨by simp [leastOf,nonzero,nonzero'],?_,?_,?_⟩
  · exact le_min (one_le_cast nonzero).1 (one_le_cast nonzero').1
  · exact_mod_cast min_le_left m n
  · exact_mod_cast min_le_right m n

theorem smaller_container (result : reading parse q.text = .ok n) :
    Runtime.smaller (readingOf parse (some q)) (readingOf parse none) = leastOf n 0 := by
  rw [readingOf,readingOf,result,← least_first]
  rfl

theorem smaller_node (result : reading parse q.text = .ok n) :
    Runtime.smaller (readingOf parse none) (readingOf parse (some q)) = leastOf n 0 := by
  rw [readingOf,readingOf,result,leastOf_comm,← least_second]
  rfl

theorem smaller_both (result : reading parse q.text = .ok m) (result' : reading parse q'.text = .ok n) :
    Runtime.smaller (readingOf parse (some q)) (readingOf parse (some q')) = leastOf m n := by
  rw [readingOf,readingOf,result,result',← least_pair]
  rfl

theorem bounded_one (below : (n : ℚ) ≤ q.value) (above : q.value < n + 1) :
    Bounded [q] (leastOf n 0) ↔ EnoughCores [q] := by
  simp only [EnoughCores,List.mem_singleton,exists_eq_left,forall_eq]
  by_cases zero : n = 0
  · subst zero
    constructor
    · intro bounded
      cases bounded
    · rintro ⟨one,_⟩
      push_cast at above
      linarith
  · obtain ⟨one,cast⟩ := one_le_cast zero
    have result : leastOf n 0 = .ok n := by simp [leastOf,zero]
    rw [result]
    constructor
    · exact fun _ => ⟨by linarith,fun less => by linarith⟩
    · intro _
      refine ⟨one,fun p member => ?_⟩
      rw [List.mem_singleton.mp member,le_ceil_iff]
      linarith

/-- A count that is zero, next to one that is not. -/
theorem bounded_zero (below : (n : ℚ) ≤ q'.value) (above : q'.value < n + 1) (less : q.value < 1) (nonzero : n ≠ 0) :
    Bounded [q,q'] (.ok n) ↔ EnoughCores [q,q'] := by
  obtain ⟨one,cast⟩ := one_le_cast nonzero
  simp only [Bounded,EnoughCores,List.mem_cons,List.not_mem_nil,or_false,forall_eq_or_imp,forall_eq,exists_eq_or_imp,
    exists_eq_left,le_ceil_iff]
  constructor
  · rintro ⟨_,near,_⟩
    have small : (n : ℚ) < 2 := by linarith
    have single : n = 1 := by
      have two : n < 2 := by exact_mod_cast small
      omega
    subst single
    push_cast at above near
    exact ⟨.inr (by linarith),fun _ => ⟨by linarith,by linarith,by linarith⟩,fun less' => by linarith⟩
  · rintro ⟨_,first,_⟩
    obtain ⟨positive,_,small⟩ := first less
    have single : n = 1 := by
      have cast : (n : ℚ) < 2 := by linarith
      have two : n < 2 := by exact_mod_cast cast
      omega
    subst single
    push_cast
    exact ⟨trivial,by linarith,by linarith⟩

theorem bounded_two (below : (m : ℚ) ≤ q.value) (above : q.value < m + 1) (below' : (n : ℚ) ≤ q'.value)
    (above' : q'.value < n + 1) : Bounded [q,q'] (leastOf m n) ↔ EnoughCores [q,q'] := by
  by_cases zero : m = 0
  · subst zero
    have less : q.value < 1 := by simpa using above
    by_cases zero' : n = 0
    · subst zero'
      have less' : q'.value < 1 := by simpa using above'
      constructor
      · intro bounded
        cases bounded
      · rintro ⟨⟨p,member,one⟩,_⟩
        rcases List.mem_cons.mp member with rfl | last
        · linarith
        · rw [List.mem_singleton.mp last] at one
          linarith
    · have result : leastOf 0 n = .ok n := by simp [leastOf,zero']
      rw [result]
      exact bounded_zero below' above' less zero'
  · by_cases zero' : n = 0
    · subst zero'
      have less' : q'.value < 1 := by simpa using above'
      have result : leastOf m 0 = .ok m := by simp [leastOf,zero]
      rw [result,bounded_swap,enoughCores_swap]
      exact bounded_zero below above less' zero
    · obtain ⟨_,cast⟩ := one_le_cast zero
      obtain ⟨_,cast'⟩ := one_le_cast zero'
      obtain ⟨result,least,left,right⟩ := leastOf_nonzero zero zero'
      rw [result]
      simp only [Bounded,EnoughCores,List.mem_cons,List.not_mem_nil,or_false,forall_eq_or_imp,forall_eq,
        exists_eq_or_imp,exists_eq_left,le_ceil_iff]
      constructor
      · exact fun _ => ⟨.inl (by linarith),fun less => by linarith,fun less => by linarith⟩
      · exact fun _ => ⟨least,by linarith,by linarith⟩

/-- A count that is exact stands for nothing only where it is zero. -/
theorem bounded_exact (exact_ : (n : ℚ) = q.value) : Bounded [q] (leastOf n 0) ↔ 0 < q.value := by
  by_cases zero : n = 0
  · subst zero
    constructor
    · intro bounded
      cases bounded
    · intro positive
      rw [← exact_] at positive
      exact absurd positive (by simp)
  · obtain ⟨one,cast⟩ := one_le_cast zero
    have result : leastOf n 0 = .ok n := by simp [leastOf,zero]
    rw [result]
    refine ⟨fun _ => by linarith,fun _ => ⟨one,fun p member => ?_⟩⟩
    rw [List.mem_singleton.mp member,le_ceil_iff]
    linarith

theorem bounded_exact_two (exact_ : (m : ℚ) = q.value) (exact' : (n : ℚ) = q'.value) :
    Bounded [q,q'] (leastOf m n) ↔ 0 < q.value ∧ 0 < q'.value := by
  have zero_least {m n : Nat} {q q' : Quantity} (none_ : q.value = 0) : ¬ Bounded [q,q'] (leastOf 0 n) := by
    by_cases zero : n = 0
    · subst zero
      intro bounded
      cases bounded
    · have result : leastOf 0 n = .ok n := by simp [leastOf,zero]
      rw [result]
      rintro ⟨one,bounds⟩
      have bound := le_ceil_iff.mp (bounds q (List.mem_cons_self ..))
      rw [none_] at bound
      have cast := (one_le_cast zero).2
      linarith
  by_cases zero : m = 0
  · subst zero
    have none_ : q.value = 0 := by simpa using exact_.symm
    refine iff_of_false (@zero_least 0 n q q' none_) fun both => ?_
    rw [none_] at both
    exact lt_irrefl _ both.1
  · by_cases zero' : n = 0
    · subst zero'
      have none_ : q'.value = 0 := by simpa using exact'.symm
      rw [leastOf_comm,bounded_swap]
      refine iff_of_false (@zero_least 0 m q' q none_) fun both => ?_
      rw [none_] at both
      exact lt_irrefl _ both.2
    · obtain ⟨_,cast⟩ := one_le_cast zero
      obtain ⟨_,cast'⟩ := one_le_cast zero'
      obtain ⟨result,least,left,right⟩ := leastOf_nonzero zero zero'
      rw [result]
      simp only [Bounded,List.mem_cons,List.not_mem_nil,or_false,forall_eq_or_imp,forall_eq,le_ceil_iff]
      exact ⟨fun _ => ⟨by linarith,by linarith⟩,fun _ => ⟨least,by linarith,by linarith⟩⟩

end

/-! ### Cores and memory -/

theorem bounded_cores_iff {container node : Option Quantity}
    (read : ∀ q ∈ container.toList ++ node.toList, CoresRead q) :
    Bounded (container.toList ++ node.toList)
        (Runtime.smaller (readingOf parseProcs container) (readingOf parseProcs node)) ↔
      EnoughCores (container.toList ++ node.toList) := by
  cases container with
  | none =>
    cases node with
    | none =>
      refine iff_of_false (fun bounded => ?_) fun enough => ?_
      · cases bounded
      · obtain ⟨⟨_,member,_⟩,_⟩ := enough
        cases member
    | some q =>
      obtain ⟨n,result,below,above⟩ := cores_of_read (read q (by simp))
      rw [smaller_node result]
      exact bounded_one below above
  | some q =>
    obtain ⟨m,result,below,above⟩ := cores_of_read (read q (by simp))
    cases node with
    | none =>
      rw [smaller_container result]
      exact bounded_one below above
    | some q' =>
      obtain ⟨n,result',below',above'⟩ := cores_of_read (read q' (by simp))
      rw [smaller_both result result']
      exact bounded_two below above below' above'

/-- What a memory amount is read as. -/
theorem memory_reading {q : Quantity} (fine : Refused q ∨ MemoryRead q) :
    (Refused q ∧ reading parseMemory q.text = .error .runtimeError) ∨
      (¬ Refused q ∧ ∃ n : Nat, reading parseMemory q.text = .ok n ∧ (n : ℚ) = q.value) := by
  by_cases refused : Refused q
  · exact .inl ⟨refused,memory_of_refused refused⟩
  · exact .inr ⟨refused,memory_of_read (fine.resolve_left refused)⟩

theorem bounded_memory_iff {container node : Option Quantity}
    (fine : ∀ q ∈ container.toList ++ node.toList, Refused q ∨ MemoryRead q) :
    Bounded (container.toList ++ node.toList)
        (Runtime.smaller (readingOf parseMemory container) (readingOf parseMemory node)) ↔
      EnoughMemory (container.toList ++ node.toList) := by
  have single {q : Quantity} (accepted : ¬ Refused q) : EnoughMemory [q] ↔ 0 < q.value := by
    simp [EnoughMemory,accepted]
  cases container with
  | none =>
    cases node with
    | none =>
      refine iff_of_false (fun bounded => ?_) fun enough => ?_
      · cases bounded
      · simp [EnoughMemory] at enough
    | some q =>
      rcases memory_reading (fine q (by simp)) with ⟨refused,result⟩ | ⟨accepted,n,result,exact_⟩
      · refine iff_of_true ?_ (.inl ⟨q,by simp,refused⟩)
        rw [readingOf,readingOf,result]
        rfl
      · rw [smaller_node result]
        exact (bounded_exact exact_).trans (single accepted).symm
  | some q =>
    rcases memory_reading (fine q (by simp)) with ⟨refused,result⟩ | ⟨accepted,m,result,exact_⟩
    · refine iff_of_true ?_ (.inl ⟨q,by simp,refused⟩)
      rw [readingOf,result]
      rfl
    · cases node with
      | none =>
        rw [smaller_container result]
        exact (bounded_exact exact_).trans (single accepted).symm
      | some q' =>
        rcases memory_reading (fine q' (by simp)) with ⟨refused,result'⟩ | ⟨accepted',n,result',exact'⟩
        · refine iff_of_true ?_ (.inl ⟨q',by simp,refused⟩)
          rw [readingOf,readingOf,result,result']
          rfl
        · have both : EnoughMemory [q,q'] ↔ 0 < q.value ∧ 0 < q'.value := by simp [EnoughMemory,accepted,accepted']
          rw [smaller_both result result']
          exact (bounded_exact_two exact_ exact').trans both.symm

/-- What the readings do not obtain they refuse, so a bound is asked for only once
    the API has answered. -/
theorem bounded_iff_answered {r : Runtime} {key : String} {parse : List Char → Except Fault Nat} {enough : Prop}
    (raises : ∀ q ∈ r.amounts key, ∀ e, reading parse q.text = .error e → e = .runtimeError)
    (bounded : Bounded (r.amounts key)
      (Runtime.smaller (readingOf parse (r.limit key)) (readingOf parse (r.nodeAmount key))) ↔ enough) :
    Bounded (r.amounts key) (Runtime.smaller (r.getContainerAmount key parse) (r.getNodeAmount key parse)) ↔
      (r.Answered → enough) := by
  by_cases answered : r.Answered
  · rw [smaller_answered answered]
    exact bounded.trans ⟨fun holds _ => holds,fun holds => holds answered⟩
  · rw [smaller_unanswered answered raises]
    exact iff_of_true rfl fun ok => absurd ok answered

/-- Quantities are read at their value and the minima are sound exactly where the
    amounts are spelled as the code expects and are large enough. -/
theorem sound_iff (r : Runtime) : Sound r ↔ Met r := by
  have cores : (∀ q ∈ r.amounts "cpu", Obtains q (reading parseProcs q.text)) ↔ ∀ q ∈ r.amounts "cpu", CoresRead q := by
    simp only [obtains_cores_iff]
  have memory : (∀ q ∈ r.amounts "memory", Obtains q (reading parseMemory q.text)) ↔
      ∀ q ∈ r.amounts "memory", Refused q ∨ MemoryRead q := by
    simp only [obtains_memory_iff]
  have coresBounded (read : ∀ q ∈ r.amounts "cpu", CoresRead q) :
      Bounded (r.amounts "cpu") r.getCores ↔ (r.Answered → EnoughCores (r.amounts "cpu")) := by
    refine bounded_iff_answered (fun q member e failed => ?_) (bounded_cores_iff read)
    obtain ⟨n,ok,_⟩ := cores_of_read (read q member)
    rw [ok] at failed
    cases failed
  have memoryBounded (fine : ∀ q ∈ r.amounts "memory", Refused q ∨ MemoryRead q) :
      Bounded (r.amounts "memory") r.getMemory ↔ (r.Answered → EnoughMemory (r.amounts "memory")) := by
    refine bounded_iff_answered (fun q member e failed => ?_) (bounded_memory_iff fine)
    rcases memory_reading (fine q member) with ⟨_,refused⟩ | ⟨_,n,ok,_⟩
    · rw [refused] at failed
      cases failed
      rfl
    · rw [ok] at failed
      cases failed
  constructor
  · rintro ⟨read,fine,bounded,bounded'⟩
    have read := cores.mp read
    have fine := memory.mp fine
    exact ⟨read,fine,(coresBounded read).mp bounded,(memoryBounded fine).mp bounded'⟩
  · rintro ⟨read,fine,enough,enough'⟩
    exact ⟨cores.mpr read,memory.mpr fine,(coresBounded read).mpr enough,(memoryBounded fine).mpr enough'⟩

/-- A pod without limits, on a node with four cores and so many thousandths of a byte. -/
def thousandths : Runtime where
  containerName := "mysql"
  cachedNodeName := none
  limitsPod := some ⟨some ⟨some "node",[⟨"mysql",none⟩]⟩⟩
  namePod := some ⟨some ⟨some "node",[⟨"mysql",none⟩]⟩⟩
  node _ := some ⟨some (some [("cpu",⟨[4],none,.plain,by simp⟩),
    ("memory",⟨[1,2,8,9,7,4,8,4,8,0,0,0],none,.milli,by simp⟩)])⟩

/-- Its memory is read as a thousand million times as much. -/
theorem thousandths_magnified : thousandths.getMemory = .ok (128974848000 * 10^6) ∧ ¬ Sound thousandths := by
  have read : thousandths.getMemory = .ok (128974848000 * 10^6) := by decide +kernel
  refine ⟨read,fun sound => ?_⟩
  have bounded := sound.getMemory
  rw [read] at bounded
  obtain ⟨_,bounds⟩ := bounded
  have bound := le_ceil_iff.mp (bounds ⟨[1,2,8,9,7,4,8,4,8,0,0,0],none,.milli,by simp⟩ (by decide +kernel))
  norm_num [Quantity.value,Quantity.number,natOf,Suffix.factor] at bound

end MysqlOperators.ContainerRuntime
