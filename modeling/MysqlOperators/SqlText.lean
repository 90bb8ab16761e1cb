import Mathlib.Data.List.Infix

/-!
The lexical rules of MySQL: how a text is read as statements, each a list of tokens.
A semicolon ends a statement unless it stands in a string, a quoted name or a comment.
In a string the quote is doubled or escaped, and a backslash changes the meaning of
the next character.
-/
namespace MysqlOperators.SqlText

def quote : Char := Char.ofNat 39
def doubleQuote : Char := Char.ofNat 34
def backquote : Char := Char.ofNat 96
def backslash : Char := Char.ofNat 92

/-- Words are in capitals: keywords may be in any case. -/
inductive Token where
  | word (text : List Char)
  | name (text : List Char)
  | string (value : List Char)
  | symbol (c : Char)
deriving DecidableEq, Repr

/-- Where in a token or a comment the reader is. After the quote that may end a
    string it is `closing`, since another one would double it. -/
inductive Mode where
  | blank
  | word (text : List Char)
  | quoted (q : Char) (value : List Char)
  | escaped (q : Char) (value : List Char)
  | closing (q : Char) (value : List Char)
  | dash
  | dashes
  | line
  | slash
  | opened
  | block
  | star
deriving DecidableEq, Repr

/-- The statements read so far, and the tokens of the next one. -/
structure Reader where
  statements : List (List Token)
  current : List Token
  mode : Mode
deriving DecidableEq, Repr

def isBlank (c : Char) : Bool := c == ' ' || (decide (9 ≤ c.toNat) && decide (c.toNat ≤ 13))

def isWord (c : Char) : Bool := c.isAlphanum || c == '_' || c == '$' || decide (128 ≤ c.toNat)

/-- What a backslash and the next character stand for. Before a wildcard of `LIKE` the
    backslash stays. -/
def escape (c : Char) : List Char :=
  if c = '0' then [Char.ofNat 0]
  else if c = 'b' then [Char.ofNat 8]
  else if c = 't' then [Char.ofNat 9]
  else if c = 'n' then [Char.ofNat 10]
  else if c = 'r' then [Char.ofNat 13]
  else if c = 'Z' then [Char.ofNat 26]
  else if c = '%' ∨ c = '_' then [backslash,c]
  else [c]

namespace Reader

def emit (r : Reader) (t : Token) : Reader := { r with current := r.current ++ [t] }

def enter (r : Reader) (m : Mode) : Reader := { r with mode := m }

/-- The end of a statement; empty ones do not count. -/
def close (r : Reader) : Reader :=
  if r.current.isEmpty then r else { r with statements := r.statements ++ [r.current],current := [] }

def emitQuoted (r : Reader) (q : Char) (value : List Char) : Reader :=
  r.emit (if q = backquote then .name value else .string value)

def emitWord (r : Reader) (text : List Char) : Reader := r.emit (.word (text.map Char.toUpper))

/-- A character between two tokens. -/
def begin_ (r : Reader) (c : Char) : Reader :=
  if isBlank c then r.enter .blank
  else if c = ';' then r.close.enter .blank
  else if c = '#' then r.enter .line
  else if c = '-' then r.enter .dash
  else if c = '/' then r.enter .slash
  else if c = quote ∨ c = doubleQuote ∨ c = backquote then r.enter (.quoted c [])
  else if isWord c then r.enter (.word [c])
  else (r.emit (.symbol c)).enter .blank

def step (r : Reader) (c : Char) : Reader :=
  match r.mode with
  | .blank => r.begin_ c
  | .word text => if isWord c then r.enter (.word (text ++ [c])) else (r.emitWord text).begin_ c
  | .quoted q value =>
    if c = backslash ∧ q ≠ backquote then r.enter (.escaped q value)
    else if c = q then r.enter (.closing q value)
    else r.enter (.quoted q (value ++ [c]))
  | .escaped q value => r.enter (.quoted q (value ++ escape c))
  | .closing q value => if c = q then r.enter (.quoted q (value ++ [q])) else (r.emitQuoted q value).begin_ c
  | .dash => if c = '-' then r.enter .dashes else (r.emit (.symbol '-')).begin_ c
  -- two dashes begin a comment only before a blank or a control character
  | .dashes =>
    if c = Char.ofNat 10 then r.enter .blank
    else if c = ' ' ∨ c.toNat < 32 then r.enter .line
    else ((r.emit (.symbol '-')).emit (.symbol '-')).begin_ c
  | .line => if c = Char.ofNat 10 then r.enter .blank else r
  | .slash => if c = '*' then r.enter .opened else (r.emit (.symbol '/')).begin_ c
  -- the contents of a comment with an exclamation mark are executed
  | .opened =>
    if c = '!' then (((r.emit (.symbol '/')).emit (.symbol '*')).emit (.symbol '!')).enter .blank
    else if c = '*' then r.enter .star
    else r.enter .block
  | .block => if c = '*' then r.enter .star else r
  | .star => if c = '/' then r.enter .blank else if c = '*' then r else r.enter .block

def run (r : Reader) (text : List Char) : Reader := text.foldl step r

/-- The statements at the end of the text, unless it ends in a string or a comment. -/
def finish (r : Reader) : Option (List (List Token)) :=
  match r.mode with
  | .blank | .line | .dashes => some r.close.statements
  | .word text => some (r.emitWord text).close.statements
  | .closing q value => some (r.emitQuoted q value).close.statements
  | .dash => some (r.emit (.symbol '-')).close.statements
  | .slash => some (r.emit (.symbol '/')).close.statements
  | .quoted _ _ | .escaped _ _ | .opened | .block | .star => none

end Reader

def start : Reader := ⟨[],[],.blank⟩

def statementsOf (text : List Char) : Option (List (List Token)) := (start.run text).finish

@[simp] theorem run_nil (r : Reader) : r.run [] = r := rfl
@[simp] theorem run_cons (r : Reader) (c : Char) (text : List Char) : r.run (c :: text) = (r.step c).run text := rfl
@[simp] theorem run_append (r : Reader) (s t : List Char) : r.run (s ++ t) = (r.run s).run t :=
  List.foldl_append ..

/-! ### Strings -/

/-- A text between the quotes of a string, and its value. -/
inductive Spells (q : Char) : List Char → List Char → Prop
  | nil : Spells q [] []
  | plain {c : Char} {w v : List Char} (other : c ≠ q) (unescaped : c ≠ backslash) :
      Spells q w v → Spells q (c :: w) (c :: v)
  | doubled {w v : List Char} : Spells q w v → Spells q (q :: q :: w) (q :: v)
  | escaped {c : Char} {w v : List Char} : Spells q w v → Spells q (backslash :: c :: w) (escape c ++ v)

/-- The text stands for itself: it lacks the quote, and every backslash in it is one
    that stays. -/
def isPlain (q : Char) : List Char → Bool
  | [] => true
  | c :: rest =>
    (if c = backslash then
      match rest with
      | d :: _ => d == '%' || d == '_'
      | [] => false
    else c != q) && isPlain q rest

/-- The quotes of a string. -/
def IsQuote (q : Char) : Prop := q = quote ∨ q = doubleQuote

theorem ne_backslash {q : Char} (h : IsQuote q) : q ≠ backslash ∧ q ≠ backquote ∧ q ≠ '%' ∧ q ≠ '_' := by
  rcases h with rfl | rfl <;> decide

theorem run_spells {q : Char} (h : IsQuote q) {w v : List Char} (spells : Spells q w v)
    (statements : List (List Token)) (current : List Token) (value : List Char) :
    Reader.run ⟨statements,current,.quoted q value⟩ w = ⟨statements,current,.quoted q (value ++ v)⟩ := by
  obtain ⟨unescaped,unnamed,_,_⟩ := ne_backslash h
  induction spells generalizing value with
  | nil => simp
  | plain other plain _ ih => simp [Reader.step,Reader.enter,other,plain,ih]
  | doubled _ ih => simp [Reader.step,Reader.enter,unescaped,ih]
  | escaped _ ih => simp [Reader.step,Reader.enter,unnamed,ih]

theorem escape_wildcard {c : Char} (wildcard : c = '%' ∨ c = '_') : escape c = [backslash,c] := by
  rcases wildcard with rfl | rfl <;> rfl

theorem length_escape {c : Char} (other : ¬ (c = '%' ∨ c = '_')) : (escape c).length = 1 := by
  unfold escape
  repeat' split
  all_goals rfl

theorem isPlain_escaped (q d : Char) (rest : List Char) (wildcard : d = '%' ∨ d = '_') :
    isPlain q (backslash :: d :: rest) = isPlain q (d :: rest) := by
  rcases wildcard with rfl | rfl <;> simp [isPlain]

theorem isPlain_other {q c : Char} (unescaped : c ≠ backslash) (rest : List Char) :
    isPlain q (c :: rest) = (c != q && isPlain q rest) := by
  rw [isPlain.eq_def]
  simp only [if_neg unescaped]

/-- A plain text spells itself. -/
theorem spells_of_isPlain {q : Char} : ∀ {w : List Char}, isPlain q w = true → Spells q w w
  | [], _ => .nil
  | [c], plain => by
    by_cases same : c = backslash
    · simp [isPlain,same] at plain
    · exact .plain (by simpa [isPlain,same] using plain) same .nil
  | c :: d :: rest, plain => by
    by_cases same : c = backslash
    · subst same
      have wildcard : d = '%' ∨ d = '_' := by
        rw [isPlain,if_pos rfl,Bool.and_eq_true_iff] at plain
        simpa using plain.1
      have unescaped : d ≠ backslash := by rcases wildcard with rfl | rfl <;> decide
      rw [isPlain_escaped q d rest wildcard,isPlain_other unescaped,Bool.and_eq_true_iff] at plain
      have spells := Spells.escaped (c := d) (spells_of_isPlain plain.2)
      rwa [escape_wildcard wildcard] at spells
    · rw [isPlain_other same,Bool.and_eq_true_iff] at plain
      exact .plain (by simpa using plain.1) same (spells_of_isPlain plain.2)

/-- A value that is as long as its text is the text. -/
theorem length_spells {q : Char} (h : IsQuote q) {w v : List Char} (spells : Spells q w v) :
    v.length < w.length ∨ v = w ∧ isPlain q w = true := by
  obtain ⟨_,_,percent,underscore⟩ := ne_backslash h
  induction spells with
  | nil => exact .inr ⟨rfl,rfl⟩
  | plain other unescaped _ ih =>
    rcases ih with shorter | ⟨rfl,plain⟩
    · exact .inl (Nat.succ_lt_succ shorter)
    · refine .inr ⟨rfl,?_⟩
      rw [isPlain_other unescaped,plain]
      simpa using other
  | @doubled w v _ ih =>
    left
    have within : v.length ≤ w.length := ih.elim Nat.le_of_lt fun same => by rw [same.1]
    simp only [List.length_cons]
    omega
  | @escaped c w v _ ih =>
    by_cases wildcard : c = '%' ∨ c = '_'
    · rw [escape_wildcard wildcard]
      rcases ih with shorter | ⟨rfl,plain⟩
      · left
        simp only [List.length_append,List.length_cons,List.length_nil]
        omega
      · refine .inr ⟨rfl,?_⟩
        have unescaped : c ≠ backslash := by rcases wildcard with rfl | rfl <;> decide
        have other : c ≠ q := by rcases wildcard with rfl | rfl <;> first | exact percent.symm | exact underscore.symm
        rw [isPlain_escaped q c v wildcard,isPlain_other unescaped,plain]
        simpa using other
    · left
      have within : v.length ≤ w.length := ih.elim Nat.le_of_lt fun same => by rw [same.1]
      simp only [List.length_append,length_escape wildcard,List.length_cons]
      omega

/-- A string either ends somewhere, or the text ends in it. -/
theorem ends_or_open {q : Char} (h : IsQuote q) : ∀ (text : List Char) (statements : List (List Token))
    (current : List Token) (value : List Char),
    (∃ w v rest, text = w ++ q :: rest ∧ rest.head? ≠ some q ∧ Spells q w v) ∨
      (Reader.run ⟨statements,current,.quoted q value⟩ text).finish = none
  | [], _, _, _ => .inr rfl
  | [c], statements, current, value => by
    obtain ⟨unescaped,unnamed,_,_⟩ := ne_backslash h
    by_cases same : c = backslash
    · right
      simp [Reader.step,Reader.enter,same,unnamed,Reader.finish]
    · by_cases ends : c = q
      · exact .inl ⟨[],[],[],by simp [ends],by simp,.nil⟩
      · right
        simp [Reader.step,Reader.enter,same,ends,Reader.finish]
  | c :: d :: rest, statements, current, value => by
    obtain ⟨unescaped,unnamed,_,_⟩ := ne_backslash h
    by_cases same : c = backslash
    · subst same
      rcases ends_or_open h rest statements current (value ++ escape d) with ⟨w,v,rest',rfl,last,spells⟩ | never
      · exact .inl ⟨backslash :: d :: w,escape d ++ v,rest',rfl,last,.escaped spells⟩
      · right
        simpa [Reader.step,Reader.enter,unnamed] using never
    · by_cases ends : c = q
      · subst ends
        by_cases doubled : d = c
        · subst doubled
          rcases ends_or_open h rest statements current (value ++ [d]) with ⟨w,v,rest',rfl,last,spells⟩ | never
          · exact .inl ⟨d :: d :: w,d :: v,rest',rfl,last,.doubled spells⟩
          · right
            simpa [Reader.step,Reader.enter,unescaped] using never
        · exact .inl ⟨[],[],d :: rest,rfl,by simpa using doubled,.nil⟩
      · rcases ends_or_open h (d :: rest) statements current (value ++ [c]) with ⟨w,v,rest',whole,last,spells⟩ | never
        · exact .inl ⟨c :: w,c :: v,rest',by rw [whole]; rfl,last,.plain ends same spells⟩
        · right
          simpa [Reader.step,Reader.enter,same,ends] using never

/-! ### The first statement -/

/-- The first statement begins with some tokens. -/
def Opens (first : List Token) (r : Reader) : Prop :=
  match r.statements with
  | [] => first <+: r.current
  | s :: _ => first <+: s

section
variable {first : List Token} {r : Reader}

theorem opens_enter (opens : Opens first r) (m : Mode) : Opens first (r.enter m) := opens

theorem opens_emit (opens : Opens first r) (t : Token) : Opens first (r.emit t) := by
  obtain ⟨statements,current,mode⟩ := r
  cases statements with
  | nil => exact opens.trans (List.prefix_append _ _)
  | cons s rest => exact opens

theorem opens_close (some_ : first ≠ []) (opens : Opens first r) :
    Opens first r.close ∧ ∃ s rest, r.close.statements = s :: rest ∧ first <+: s := by
  obtain ⟨statements,current,mode⟩ := r
  cases statements with
  | nil =>
    have read : current ≠ [] := by
      rintro rfl
      exact some_ (List.prefix_nil.mp opens)
    have closed : Reader.close ⟨[],current,mode⟩ = ⟨[current],[],mode⟩ := by simp [Reader.close,read]
    rw [closed]
    exact ⟨opens,current,[],rfl,opens⟩
  | cons s rest =>
    cases current with
    | nil => exact ⟨opens,s,rest,rfl,opens⟩
    | cons t more => exact ⟨opens,s,rest ++ [t :: more],rfl,opens⟩

theorem opens_begin (some_ : first ≠ []) (opens : Opens first r) (c : Char) : Opens first (r.begin_ c) := by
  unfold Reader.begin_
  repeat' split
  all_goals first
    | exact opens_enter opens _
    | exact opens_enter (opens_close some_ opens).1 _
    | exact opens_enter (opens_emit opens _) _

theorem opens_step (some_ : first ≠ []) (opens : Opens first r) (c : Char) : Opens first (r.step c) := by
  unfold Reader.step
  repeat' split
  all_goals first
    | exact opens
    | exact opens_enter opens _
    | exact opens_begin some_ opens _
    | exact opens_begin some_ (opens_emit opens _) _
    | exact opens_begin some_ (opens_emit (opens_emit opens _) _) _
    | exact opens_enter (opens_emit (opens_emit (opens_emit opens _) _) _) _

theorem opens_run (some_ : first ≠ []) (text : List Char) :
    ∀ {r : Reader}, Opens first r → Opens first (r.run text) := by
  induction text with
  | nil => exact fun opens => opens
  | cons c rest ih => exact fun opens => ih (opens_step some_ opens c)

/-- What the first statement begins with, it begins with at the end of the text. -/
theorem opens_finish (some_ : first ≠ []) (opens : Opens first r) {statements : List (List Token)}
    (ends : r.finish = some statements) : ∃ s rest, statements = s :: rest ∧ first <+: s := by
  have closed : ∀ {r : Reader}, Opens first r → some r.close.statements = some statements →
      ∃ s rest, statements = s :: rest ∧ first <+: s := by
    intro r opens same
    rw [← Option.some.inj same]
    exact (opens_close some_ opens).2
  unfold Reader.finish at ends
  split at ends
  · exact closed opens ends
  · exact closed opens ends
  · exact closed opens ends
  · exact closed (opens_emit opens _) ends
  · exact closed (opens_emit opens _) ends
  · exact closed (opens_emit opens _) ends
  · exact closed (opens_emit opens _) ends
  all_goals cases ends

end

/-- A string that has ended is in the first statement, if that has not ended. -/
theorem opens_closing {q : Char} (unnamed : q ≠ backquote) {current : List Token} {value rest : List Char}
    (last : rest.head? ≠ some q) {statements : List (List Token)}
    (ends : (Reader.run ⟨[],current,.closing q value⟩ rest).finish = some statements) :
    ∃ s more, statements = s :: more ∧ current ++ [.string value] <+: s := by
  have some_ : current ++ [Token.string value] ≠ [] := by simp
  have emitted : Opens (current ++ [.string value]) (Reader.emitQuoted ⟨[],current,.closing q value⟩ q value) := by
    simp [Opens,Reader.emitQuoted,Reader.emit,unnamed]
  cases rest with
  | nil =>
    obtain ⟨s,more,closed,begins⟩ := (opens_close some_ emitted).2
    exact ⟨s,more,(Option.some.inj ends).symm.trans closed,begins⟩
  | cons c rest =>
    have other : c ≠ q := by simpa using last
    have stepped : Reader.step ⟨[],current,.closing q value⟩ c =
        (Reader.emitQuoted ⟨[],current,.closing q value⟩ q value).begin_ c := if_neg other
    rw [run_cons,stepped] at ends
    exact opens_finish some_ (opens_run some_ rest (opens_begin some_ emitted c)) ends

/-! ### Earlier statements -/

/-- A reader that has read other statements before. -/
def Reader.after (r : Reader) (earlier : List (List Token)) : Reader :=
  { r with statements := earlier ++ r.statements }

section
variable (r : Reader) (earlier : List (List Token))

@[simp] theorem after_mode : (r.after earlier).mode = r.mode := rfl
@[simp] theorem after_enter (m : Mode) : (r.after earlier).enter m = (r.enter m).after earlier := rfl
@[simp] theorem after_emit (t : Token) : (r.after earlier).emit t = (r.emit t).after earlier := rfl
@[simp] theorem after_emitWord (text : List Char) :
    (r.after earlier).emitWord text = (r.emitWord text).after earlier := rfl
@[simp] theorem after_emitQuoted (q : Char) (value : List Char) :
    (r.after earlier).emitQuoted q value = (r.emitQuoted q value).after earlier := rfl

@[simp] theorem after_close : (r.after earlier).close = r.close.after earlier := by
  obtain ⟨statements,current,mode⟩ := r
  cases current with
  | nil => rfl
  | cons t rest => simp [Reader.close,Reader.after]

@[simp] theorem after_begin (c : Char) : (r.after earlier).begin_ c = (r.begin_ c).after earlier := by
  simp only [Reader.begin_,after_enter,after_emit,after_close]
  repeat' split
  all_goals rfl

theorem after_step (c : Char) : (r.after earlier).step c = (r.step c).after earlier := by
  simp only [Reader.step,after_mode,after_enter,after_emit,after_emitWord,after_emitQuoted,after_begin]
  repeat' split
  all_goals rfl

theorem after_run (text : List Char) : (r.after earlier).run text = (r.run text).after earlier := by
  induction text generalizing r with
  | nil => rfl
  | cons c rest ih => rw [run_cons,run_cons,after_step,ih]

/-- What has been read before comes first. -/
theorem after_finish : (r.after earlier).finish = r.finish.map (earlier ++ ·) := by
  simp only [Reader.finish,after_mode,after_close,after_emit,after_emitWord,after_emitQuoted]
  split <;> rfl

end

end MysqlOperators.SqlText
