import Mathlib.Logic.Nontrivial.Defs
import Mathlib.Data.List.Basic

/-!
Quoted names and the patterns of SQL. A quoted name ends at a quote that is not
doubled. A pattern is a list of pieces, and the words that it matches are a
property of the pieces; the text of a pattern spells them with `_`, `%` and a
backslash that takes the next character as it is.
-/
namespace MysqlOperators.Wildcards
universe u

section
variable {α : Type u}

/-! ### Patterns -/

inductive Piece (α : Type u) where
  | exactly (a : α)
  | one
  | many
deriving DecidableEq, Repr

/-- A word is matched piece by piece. -/
def Matches : List (Piece α) → List α → Prop
  | [], word => word = []
  | .exactly a :: pieces, word => ∃ rest, word = a :: rest ∧ Matches pieces rest
  | .one :: pieces, word => ∃ a rest, word = a :: rest ∧ Matches pieces rest
  | .many :: pieces, word => ∃ first rest, word = first ++ rest ∧ Matches pieces rest

/-- Where a word matches after some of its items. -/
theorem matches_many {pieces : List (Piece α)} {word : List α} :
    Matches (.many :: pieces) word ↔ ∃ i ∈ List.range (word.length+1), Matches pieces (word.drop i) := by
  constructor
  · rintro ⟨first,rest,rfl,matched⟩
    exact ⟨first.length,List.mem_range.mpr (by rw [List.length_append]; omega),by simpa using matched⟩
  · rintro ⟨i,_,matched⟩
    exact ⟨word.take i,word.drop i,(List.take_append_drop i word).symm,matched⟩

instance decidableMatches [DecidableEq α] : ∀ (pieces : List (Piece α)) (word : List α), Decidable (Matches pieces word)
  | [], word => inferInstanceAs (Decidable (word = []))
  | .exactly _ :: _, [] => isFalse (by rintro ⟨_,same,_⟩; cases same)
  | .exactly a :: pieces, b :: rest =>
    have := decidableMatches pieces rest
    decidable_of_iff (b = a ∧ Matches pieces rest)
      ⟨by rintro ⟨rfl,matched⟩; exact ⟨rest,rfl,matched⟩,by rintro ⟨_,same,matched⟩; cases same; exact ⟨rfl,matched⟩⟩
  | .one :: _, [] => isFalse (by rintro ⟨_,_,same,_⟩; cases same)
  | .one :: pieces, b :: rest =>
    have := decidableMatches pieces rest
    decidable_of_iff (Matches pieces rest)
      ⟨fun matched => ⟨b,rest,rfl,matched⟩,by rintro ⟨_,_,same,matched⟩; cases same; exact matched⟩
  | .many :: pieces, word =>
    have := decidableMatches pieces
    decidable_of_iff _ matches_many.symm

/-- Patterns one after the other match words one after the other. -/
theorem matches_append {first second : List (Piece α)} {word rest : List α} (matched : Matches first word)
    (matched' : Matches second rest) : Matches (first ++ second) (word ++ rest) := by
  induction first generalizing word with
  | nil =>
    have empty : word = [] := matched
    simpa [empty] using matched'
  | cons piece pieces ih =>
    cases piece with
    | exactly a =>
      obtain ⟨later,rfl,matched⟩ := matched
      exact ⟨later ++ rest,rfl,ih matched⟩
    | one =>
      obtain ⟨a,later,rfl,matched⟩ := matched
      exact ⟨a,later ++ rest,rfl,ih matched⟩
    | many =>
      obtain ⟨skipped,later,rfl,matched⟩ := matched
      exact ⟨skipped,later ++ rest,List.append_assoc .. ,ih matched⟩

theorem matches_literal (word other : List α) : Matches (word.map .exactly) other ↔ other = word := by
  induction word generalizing other with
  | nil => exact Iff.rfl
  | cons a rest ih =>
    constructor
    · rintro ⟨later,rfl,matched⟩
      rw [(ih later).mp matched]
    · rintro rfl
      exact ⟨rest,rfl,(ih rest).mpr rfl⟩

/-- A pattern with a wildcard matches a second word, which is no shorter. -/
theorem matches_second [Nontrivial α] {pieces : List (Piece α)} {word : List α} (matched : Matches pieces word)
    (wild : .one ∈ pieces ∨ .many ∈ pieces) :
    ∃ other, other ≠ word ∧ word.length ≤ other.length ∧ Matches pieces other := by
  induction pieces generalizing word with
  | nil => simp at wild
  | cons piece pieces ih =>
    cases piece with
    | exactly a =>
      obtain ⟨rest,rfl,matched⟩ := matched
      obtain ⟨other,different,long,matched'⟩ := ih matched (by simpa using wild)
      refine ⟨a :: other,?_,?_,other,rfl,matched'⟩
      · simpa using different
      · simpa using long
    | one =>
      obtain ⟨a,rest,rfl,matched⟩ := matched
      obtain ⟨b,different⟩ := exists_ne a
      exact ⟨b :: rest,by simp [different],by simp,b,rest,rfl,matched⟩
    | many =>
      obtain ⟨first,rest,rfl,matched⟩ := matched
      obtain ⟨a,_,_⟩ := exists_pair_ne α
      refine ⟨a :: first ++ rest,?_,?_,a :: first,rest,rfl,matched⟩
      · intro same
        have := congrArg List.length same
        simp at this
      · simp

/-- A pattern without wildcards is a word. -/
theorem literal_of_tame {pieces : List (Piece α)} (one : .one ∉ pieces) (many : .many ∉ pieces) :
    ∃ word : List α, pieces = word.map .exactly := by
  induction pieces with
  | nil => exact ⟨[],rfl⟩
  | cons piece pieces ih =>
    simp only [List.mem_cons,not_or] at one many
    obtain ⟨word,rfl⟩ := ih one.2 many.2
    cases piece with
    | exactly a => exact ⟨a :: word,rfl⟩
    | one => exact absurd rfl one.1
    | many => exact absurd rfl many.1

/-- A pattern that matches one word among those that are no shorter is that word. -/
theorem literal_of_exact [Nontrivial α] {pieces : List (Piece α)} {word : List α} (matched : Matches pieces word)
    (exact_ : ∀ other, word.length ≤ other.length → Matches pieces other → other = word) :
    pieces = word.map .exactly := by
  by_cases wild : .one ∈ pieces ∨ .many ∈ pieces
  · obtain ⟨other,different,long,matched'⟩ := matches_second matched wild
    exact absurd (exact_ other long matched') different
  · obtain ⟨one,many⟩ := not_or.mp wild
    obtain ⟨literal,rfl⟩ := literal_of_tame one many
    rw [(matches_literal literal word).mp matched]

/-! ### Quoted names -/

variable [DecidableEq α]

/-- The name up to the closing quote, and what follows it. -/
def readQuoted (quote : α) : List α → Option (List α × List α)
  | [] => none
  | [a] => if a = quote then some ([],[]) else none
  | a :: b :: rest =>
    if a = quote then
      if b = quote then (readQuoted quote rest).map (fun read => (quote :: read.1,read.2))
      else some ([],b :: rest)
    else (readQuoted quote (b :: rest)).map (fun read => (a :: read.1,read.2))

/-- A name without quotes is read as it is written. -/
theorem readQuoted_plain {quote : α} {name rest : List α} (plain : quote ∉ name) (closed : rest.head? ≠ some quote) :
    readQuoted quote (name ++ quote :: rest) = some (name,rest) := by
  induction name with
  | nil =>
    rcases rest with _ | ⟨b,rest⟩
    · simp [readQuoted]
    · have other : b ≠ quote := by simpa using closed
      simp [readQuoted,other]
  | cons a name ih =>
    obtain ⟨other,plain⟩ := not_or.mp (fun member => plain (List.mem_cons.mpr member))
    rcases name with _ | ⟨b,name⟩
    · simpa [readQuoted,Ne.symm other] using ih plain
    · simpa [readQuoted,Ne.symm other] using ih plain

/-- The spelling of a name is no shorter than the name, and it is the name where it
    is as long. -/
theorem readQuoted_source {quote : α} {text name rest : List α} (read : readQuoted quote text = some (name,rest)) :
    ∃ source, text = source ++ quote :: rest ∧ name.length ≤ source.length ∧
      (source.length = name.length → source = name ∧ quote ∉ name) := by
  induction text using readQuoted.induct quote generalizing name with
  | case1 => cases read
  | case2 =>
    simp only [readQuoted,if_true,Option.some.injEq,Prod.mk.injEq] at read
    exact ⟨[],by simp [← read.2],by simp [← read.1],by simp [← read.1]⟩
  | case3 a other => simp [readQuoted,other] at read
  | case4 rest' ih =>
    simp only [readQuoted,if_true,Option.map_eq_some_iff] at read
    obtain ⟨⟨name',rest''⟩,read',same⟩ := read
    simp only [Prod.mk.injEq] at same
    obtain ⟨rfl,rfl⟩ := same
    obtain ⟨source,rfl,short,_⟩ := ih read'
    refine ⟨quote :: quote :: source,by simp,by simp; omega,fun same => ?_⟩
    simp at same
    omega
  | case5 b rest' other =>
    simp only [readQuoted,if_true,if_neg other,Option.some.injEq,Prod.mk.injEq] at read
    exact ⟨[],by simp [← read.2],by simp [← read.1],by simp [← read.1]⟩
  | case6 a b rest' other ih =>
    simp only [readQuoted,if_neg other,Option.map_eq_some_iff] at read
    obtain ⟨⟨name',rest''⟩,read',same⟩ := read
    simp only [Prod.mk.injEq] at same
    obtain ⟨rfl,rfl⟩ := same
    obtain ⟨source,text,short,exact_⟩ := ih read'
    refine ⟨a :: source,by simp [text],by simpa using short,fun same => ?_⟩
    obtain ⟨rfl,plain⟩ := exact_ (by simpa using same)
    exact ⟨rfl,by simp [Ne.symm other,plain]⟩

end

/-! ### The text of a pattern -/

/-- The pieces that a text spells. A backslash at its end stands for itself. -/
def pieces : List Char → List (Piece Char)
  | [] => []
  | ['\\'] => [.exactly '\\']
  | '\\' :: c :: rest => .exactly c :: pieces rest
  | c :: rest => (if c = '_' then .one else if c = '%' then .many else .exactly c) :: pieces rest

/-- What a character other than a backslash spells. -/
def charPiece (c : Char) : Piece Char := if c = '_' then .one else if c = '%' then .many else .exactly c

theorem pieces_cons {c : Char} (other : c ≠ '\\') (rest : List Char) :
    pieces (c :: rest) = charPiece c :: pieces rest := by
  rw [pieces]
  · rfl
  · rintro rfl
    exact absurd rfl other
  · rintro d more rfl
    exact absurd rfl other

theorem charPiece_exactly {c a : Char} (spelled : charPiece c = .exactly a) : c = a := by
  unfold charPiece at spelled
  split at spelled
  · cases spelled
  · split at spelled
    · cases spelled
    · exact Piece.exactly.inj spelled

/-- What the last case of `pieces` knows of the first character. -/
theorem not_backslash {c : Char} {rest : List Char} (single : c = '\\' → rest = [] → False)
    (escaped : ∀ d more, c = '\\' → rest = d :: more → False) : c ≠ '\\' := by
  intro same
  cases rest with
  | nil => exact single same rfl
  | cons d more => exact escaped d more same rfl

/-- A text without wildcards and without a backslash before another character. -/
def Plain (text : List Char) : Prop := '_' ∉ text ∧ '%' ∉ text ∧ '\\' ∉ text.dropLast

/-- The text of a word is no shorter than the word, and it is the word where it is
    as long. -/
theorem pieces_literal {text word : List Char} (literal : pieces text = word.map .exactly) :
    word.length ≤ text.length ∧ (text.length = word.length → text = word) := by
  induction text using pieces.induct generalizing word with
  | case1 =>
    have : word = [] := by simpa [pieces] using literal.symm
    simp [this]
  | case2 =>
    rcases word with _ | ⟨a,word⟩
    · cases literal
    · simp only [pieces,List.map_cons,List.cons.injEq,Piece.exactly.injEq] at literal
      have : word = [] := by simpa using literal.2.symm
      simp [this,← literal.1]
  | case3 c rest ih =>
    rcases word with _ | ⟨a,word⟩
    · cases literal
    · simp only [pieces,List.map_cons,List.cons.injEq] at literal
      have short := (ih literal.2).1
      exact ⟨by simp; omega,fun same => by simp at same; omega⟩
  | case4 c rest single escaped ih =>
    rw [pieces_cons (not_backslash single escaped)] at literal
    rcases word with _ | ⟨a,word⟩
    · cases literal
    · simp only [List.map_cons,List.cons.injEq] at literal
      obtain ⟨short,exact_⟩ := ih literal.2
      have same := charPiece_exactly literal.1
      exact ⟨by simpa using short,fun long => by rw [same,exact_ (by simpa using long)]⟩

/-- The texts that spell themselves. -/
theorem pieces_plain_iff (text : List Char) : pieces text = text.map .exactly ↔ Plain text := by
  induction text using pieces.induct with
  | case1 => simp [pieces,Plain]
  | case2 => simp [pieces,Plain]
  | case3 c rest ih =>
    refine iff_of_false (fun literal => ?_) (fun plain => ?_)
    · simp only [pieces,List.map_cons,List.cons.injEq] at literal
      have spelled : pieces rest = (c :: rest).map .exactly := literal.2
      have long := (pieces_literal spelled).1
      simp only [List.length_cons] at long
      omega
    · exact plain.2.2 (by simp)
  | case4 c rest single escaped ih =>
    have other := not_backslash single escaped
    have tail : '\\' ∈ (c :: rest).dropLast ↔ '\\' ∈ rest.dropLast := by
      rcases rest with _ | ⟨d,rest⟩
      · simp
      · simp [Ne.symm other]
    rw [pieces_cons other,List.map_cons,List.cons.injEq,ih,Plain,Plain,tail,charPiece]
    by_cases one : c = '_'
    · simp [one]
    by_cases many : c = '%'
    · simp [many]
    · simp [one,many,Ne.symm one,Ne.symm many]

theorem matches_charPiece (c : Char) : Matches [charPiece c] [c] := by
  unfold charPiece
  by_cases one : c = '_'
  · rw [if_pos one]
    exact ⟨c,[],rfl,rfl⟩
  · rw [if_neg one]
    by_cases many : c = '%'
    · rw [if_pos many]
      exact ⟨[c],[],rfl,rfl⟩
    · rw [if_neg many]
      exact ⟨[],rfl,rfl⟩

/-- A text without a backslash spells its characters one by one. -/
theorem pieces_unescaped {text : List Char} (unescaped : '\\' ∉ text) (rest : List Char) :
    pieces (text ++ rest) = text.map charPiece ++ pieces rest := by
  induction text with
  | nil => rfl
  | cons c text ih =>
    obtain ⟨other,unescaped⟩ := not_or.mp (fun member => unescaped (List.mem_cons.mpr member))
    rw [List.cons_append,pieces_cons (Ne.symm other),ih unescaped,List.map_cons,List.cons_append]

/-- The pieces that a text spells match the text. -/
theorem matches_spelling (text : List Char) : Matches (text.map charPiece) text := by
  induction text with
  | nil => exact rfl
  | cons c text ih => exact matches_append (matches_charPiece c) ih

end MysqlOperators.Wildcards
