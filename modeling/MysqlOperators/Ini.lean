import MysqlOperators.Python

/-!
Configuration files as `configparser` writes and reads them with its defaults: no
interpolation, values over several lines, full-line comments, and strict about what
is given twice. A file that it refuses is read as nothing. The section of defaults is
left out.
-/
namespace MysqlOperators.Ini
open MysqlOperators.Python

/-- An option with its value. -/
abbrev Entry := List Char × List Char

/-! ### Writing -/

/-- `optionxform`, for a key in ASCII. -/
def optionxform (key : List Char) : List Char := key.map Char.toLower

/-- A line break in a value is followed by a tab. -/
def valueText (value : List Char) : List Char := value.flatMap (fun c => if c = '\n' then ['\n','\t'] else [c])

def entryText (entry : Entry) : List Char := optionxform entry.1 ++ (' ' :: '=' :: ' ' :: valueText entry.2 ++ ['\n'])

/-- A file with one section. -/
def sectionText (name : List Char) (entries : List Entry) : List Char :=
  '[' :: (name ++ ']' :: '\n' :: (entries.flatMap entryText ++ ['\n']))

/-- `parser[name] = entries` and `parser.write`. An option is not given twice. -/
def write (name : List Char) (entries : List Entry) : Option (List Char) :=
  if (entries.map (fun entry => optionxform entry.1)).Nodup then some (sectionText name entries) else none

/-! ### Reading -/

/-- The sections seen, the options that are complete with the lines of their values,
    and the option that more lines may belong to. -/
structure State where
  header : Option (List Char)
  headers : List (List Char)
  complete : List (List Char × List Char × List (List Char))
  current : Option (List Char × List (List Char))
  indent : Nat
deriving DecidableEq, Repr

def initial : State := ⟨none,[],[],none,0⟩

namespace State

/-- All options so far. -/
def options (s : State) : List (List Char × List Char × List (List Char)) :=
  match s.header,s.current with
  | some header,some option => s.complete ++ [(header,option)]
  | _,_ => s.complete

def continued (s : State) (line : List Char) : State :=
  { s with current := s.current.map fun option => (option.1,option.2 ++ [line]) }

end State

def isDelimiter (c : Char) : Bool := c == '=' || c == ':'

def commented (line : List Char) : Bool :=
  match line.dropWhile isSpace with
  | c :: _ => c == '#' || c == ';'
  | [] => false

/-- What stands before the last closing bracket. -/
def upToBracket : List Char → Option (List Char)
  | [] => none
  | c :: rest =>
    match upToBracket rest with
    | some before => some (c :: before)
    | none => if c = ']' then some [] else none

/-- The name in a section header. -/
def headerOf : List Char → Option (List Char)
  | '[' :: rest =>
    match upToBracket rest with
    | some (c :: name) => some (c :: name)
    | _ => none
  | _ => none

/-- The option of a line and the first line of its value. -/
def optionOf (line : List Char) : Option (List Char × List Char) :=
  match upTo isDelimiter line with
  | none => none
  | some (before,after) =>
    let key := before.rdropWhile isSpace
    if key = [] then none else some (optionxform key,strip isSpace after)

/-- A line that continues no value. -/
def item (s : State) (indent : Nat) (line : List Char) : Option State :=
  match headerOf line with
  | some name =>
    if name ∈ s.headers then none
    else some ⟨some name,s.headers ++ [name],s.options,none,indent⟩
  | none =>
    match s.header with
    | none => none
    | some header =>
      match optionOf line with
      | none => none
      | some (key,value) =>
        if s.options.any (fun option => option.1 == header && option.2.1 == key) then none
        else some { s with complete := s.options, current := some (key,[value]), indent := indent }

def step (s : State) (line : List Char) : Option State :=
  let value := if commented line then [] else strip isSpace line
  if value = [] then some (if commented line then s else s.continued [])
  else
    let indent := (line.takeWhile isSpace).length
    if s.current.isSome ∧ s.indent < indent then some (s.continued value) else item s indent value

/-- The lines of a file; the last one is empty after its line break. -/
def fileLines (text : List Char) : List (List Char) :=
  let parts := split '\n' text
  if parts.getLast? = some [] then parts.dropLast else parts

/-- The value that lines make up. -/
def joined (lines : List (List Char)) : List Char := (['\n'].intercalate lines).rdropWhile isSpace

/-- The options of a section with their values. -/
def State.values (s : State) (name : List Char) : List Entry :=
  (s.options.filter (fun option => option.1 == name)).map fun option => (option.2.1,joined option.2.2)

def parse (text : List Char) : Option State := (fileLines text).foldlM step initial

/-- `dict(parser[name])` for a file. -/
def read (text : List Char) (name : List Char) : Option (List Entry) :=
  match parse text with
  | none => none
  | some s =>
    if name ∈ s.headers then some (s.values name) else none

/-! ### What survives -/

/-- A name of lower-case characters that starts neither a comment nor a section. -/
structure PlainKey (key : List Char) : Prop where
  nonempty : key ≠ []
  solid : ∀ c ∈ key, isSpace c = false ∧ isDelimiter c = false ∧ c.toLower = c
  start : ∀ c ∈ key.head?, c ≠ '#' ∧ c ≠ ';' ∧ c ≠ '['

/-- A text on one line, without blanks around it. -/
structure PlainValue (value : List Char) : Prop where
  oneLine : '\n' ∉ value
  starts : ∀ c ∈ value.head?, isSpace c = false
  ends : ∀ c ∈ value.getLast?, isSpace c = false

structure PlainName (name : List Char) : Prop where
  nonempty : name ≠ []
  oneLine : '\n' ∉ name

/-- Whether a key is plain. -/
def plainKey (key : List Char) : Bool :=
  !key.isEmpty && key.all (fun c => !isSpace c && !isDelimiter c && c.toLower == c) &&
    key.head?.all (fun c => c != '#' && c != ';' && c != '[')

theorem plain_of_plainKey {key : List Char} (plain : plainKey key = true) : PlainKey key := by
  simp only [plainKey,Bool.and_eq_true,List.all_eq_true,Option.all_eq_true_iff_get,Bool.not_eq_true'] at plain
  obtain ⟨⟨nonempty,solid⟩,start⟩ := plain
  refine ⟨by simpa using nonempty,fun c member => ?_,fun c first => ?_⟩
  · have here := solid c member
    simpa [and_assoc] using here
  · have here := start (by simp [Option.mem_def.mp first])
    simpa [Option.mem_def.mp first,and_assoc] using here

/-- The line of an entry. -/
def line (entry : Entry) : List Char := entry.1 ++ (' ' :: '=' :: ' ' :: entry.2)

theorem optionxform_plain {key : List Char} (plain : PlainKey key) : optionxform key = key := by
  refine (List.map_congr_left fun c member => ?_).trans (List.map_id _)
  exact (plain.solid c member).2.2

theorem valueText_plain {value : List Char} (plain : PlainValue value) : valueText value = value := by
  have same : ∀ c ∈ value, (if c = '\n' then ['\n','\t'] else [c]) = [c] := by
    intro c member
    have other : c ≠ '\n' := by
      rintro rfl
      exact plain.oneLine member
    rw [if_neg other]
  rw [valueText,List.flatMap_congr same]
  simp

/-- A file consists of the header, a line for each entry, and an empty line. -/
theorem fileLines_sectionText {name : List Char} (named : PlainName name) {entries : List Entry}
    (plain : ∀ entry ∈ entries, PlainKey entry.1 ∧ PlainValue entry.2) :
    fileLines (sectionText name entries) = ('[' :: (name ++ [']'])) :: (entries.map line ++ [[]]) := by
  have rest : split '\n' (entries.flatMap entryText ++ ['\n']) = entries.map line ++ [[],[]] := by
    induction entries with
    | nil => rfl
    | cons entry entries ih =>
      obtain ⟨key,value⟩ := plain entry (List.mem_cons_self ..)
      have text : entryText entry = line entry ++ ['\n'] := by
        simp [entryText,line,optionxform_plain key,valueText_plain value]
      have oneLine : '\n' ∉ line entry := by
        have solid : '\n' ∉ entry.1 := by
          intro member
          exact absurd (key.solid _ member).1 (by decide)
        simp [line,solid,value.oneLine]
      have later := ih fun other member => plain other (List.mem_cons_of_mem _ member)
      rw [List.flatMap_cons,text,List.append_assoc,List.append_assoc,List.singleton_append]
      rw [split_append oneLine,later]
      rfl
  have first : '\n' ∉ '[' :: (name ++ [']']) := by simp [named.oneLine]
  have whole : sectionText name entries =
      ('[' :: (name ++ [']'])) ++ '\n' :: (entries.flatMap entryText ++ ['\n']) := by
    simp [sectionText]
  have parts : split '\n' (sectionText name entries) =
      (('[' :: (name ++ [']'])) :: (entries.map line ++ [[]])) ++ [[]] := by
    rw [whole,split_append first,rest]
    simp
  rw [fileLines,parts]
  simp only [List.getLast?_concat,List.dropLast_concat,if_true]

/-! ### Line by line -/

section
variable {key value : List Char}

/-- A key begins with a character that starts neither a comment nor a section. -/
theorem key_cons (plain : PlainKey key) :
    ∃ c rest, key = c :: rest ∧ isSpace c = false ∧ c ≠ '#' ∧ c ≠ ';' ∧ c ≠ '[' := by
  obtain ⟨c,rest,rfl⟩ := List.exists_cons_of_ne_nil plain.nonempty
  exact ⟨c,rest,rfl,(plain.solid c (List.mem_cons_self ..)).1,plain.start c rfl⟩

theorem key_concat (plain : PlainKey key) : ∃ front c, key = front ++ [c] ∧ isSpace c = false := by
  refine ⟨key.dropLast,key.getLast plain.nonempty,(List.dropLast_concat_getLast _).symm,?_⟩
  exact (plain.solid _ (List.getLast_mem _)).1

theorem strip_plain (plain : PlainValue value) : strip isSpace value = value := by
  cases value with
  | nil => rfl
  | cons c rest =>
    have nonempty : c :: rest ≠ [] := nofun
    have ends := plain.ends _ (List.getLast?_eq_some_getLast nonempty)
    have around := strip_around [] [] rfl (List.dropLast_concat_getLast nonempty).symm (plain.starts c rfl) ends
    simpa using around

/-- What follows the delimiter in the line of an entry. -/
def rest (value : List Char) : List Char := if value = [] then [] else ' ' :: value

theorem strip_rest (plain : PlainValue value) : strip isSpace (rest value) = value := by
  by_cases empty : value = []
  · simp [rest,empty,strip]
  · have blank : (' ' :: value).dropWhile isSpace = value.dropWhile isSpace := by simp [isSpace]
    have stripped := strip_plain plain
    rw [rest,if_neg empty,strip,blank]
    exact stripped

/-- The blank after the delimiter is stripped when there is no value. -/
theorem strip_line (plain : PlainKey key) (plainValue : PlainValue value) :
    strip isSpace (line (key,value)) = key ++ (' ' :: '=' :: rest value) := by
  obtain ⟨c,more,starts,solid,_⟩ := key_cons plain
  by_cases empty : value = []
  · have text : key ++ [' ','='] = c :: (more ++ [' ','=']) := by simp [starts]
    have ends : key ++ [' ','='] = (key ++ [' ']) ++ ['='] := by simp
    have blank : [' '].rdropWhile isSpace = [] := rfl
    have around := strip_around [] [' '] text ends solid (by decide)
    simpa [line,rest,empty,blank] using around
  · have text : line (key,value) = c :: (more ++ ' ' :: '=' :: ' ' :: value) := by simp [line,starts]
    have ends : line (key,value) = (key ++ ' ' :: '=' :: ' ' :: value.dropLast) ++ [value.getLast empty] := by
      simp [line,List.dropLast_concat_getLast]
    have last := plainValue.ends _ (List.getLast?_eq_some_getLast empty)
    have around := strip_around [] [] text ends solid last
    simpa [line,rest,empty] using around

theorem upTo_append {separator : Char → Bool} {before : List Char} (none_ : ∀ c ∈ before, separator c = false)
    {c : Char} (found : separator c = true) (after : List Char) :
    upTo separator (before ++ c :: after) = some (before,after) := by
  induction before with
  | nil => simp [upTo,found]
  | cons b before ih =>
    have later := ih fun d member => none_ d (List.mem_cons_of_mem _ member)
    simp [upTo,none_ b (List.mem_cons_self ..),later]

theorem optionOf_line (plain : PlainKey key) (plainValue : PlainValue value) :
    optionOf (key ++ (' ' :: '=' :: rest value)) = some (key,value) := by
  have before : ∀ c ∈ key ++ [' '], isDelimiter c = false := by
    intro c member
    rcases List.mem_append.mp member with inKey | blank
    · exact (plain.solid c inKey).2.1
    · rw [List.mem_singleton.mp blank]
      decide
  have parts := upTo_append before (c := '=') rfl (rest value)
  obtain ⟨front,c,ends,solid⟩ := key_concat plain
  have trimmed : (key ++ [' ']).rdropWhile isSpace = key := by
    rw [ends,List.append_assoc,List.singleton_append,rdropWhile_around front solid]
    rfl
  rw [List.append_assoc,List.singleton_append] at parts
  simp only [optionOf,parts,trimmed,if_neg plain.nonempty,optionxform_plain plain,strip_rest plainValue]

theorem headerOf_line (plain : PlainKey key) (more : List Char) : headerOf (key ++ more) = none := by
  obtain ⟨c,tail,rfl,_,_,_,other⟩ := key_cons plain
  unfold headerOf
  split
  · rename_i heads
    cases heads
    exact absurd rfl other
  · rfl

end

/-! ### The whole file -/

/-- The state after the header and some entries. -/
structure After (name : List Char) (done : List Entry) (s : State) : Prop where
  header : s.header = some name
  headers : s.headers = [name]
  options : s.options = done.map (fun entry => (name,entry.1,[entry.2]))
  lines : ∀ option, s.current = some option → option.2 ≠ []
  indent : s.indent = 0

section
variable {name : List Char} {done : List Entry} {s : State}

theorem step_header (named : PlainName name) :
    step initial ('[' :: (name ++ [']'])) = some ⟨some name,[name],[],none,0⟩ := by
  have stripped : strip isSpace ('[' :: (name ++ [']'])) = '[' :: (name ++ [']']) := by
    have starts : '[' :: (name ++ [']']) = '[' :: (name ++ [']']) := rfl
    have ends : '[' :: (name ++ [']']) = ('[' :: name) ++ [']'] := rfl
    have opens : isSpace '[' = false := rfl
    have around := strip_around [] [] starts ends opens rfl
    simpa using around
  have before : ∀ name : List Char, upToBracket (name ++ [']']) = some name := by
    intro name
    induction name with
    | nil => rfl
    | cons c name ih => simp [upToBracket,ih]
  have found : headerOf ('[' :: (name ++ [']'])) = some name := by
    have found := before name
    obtain ⟨c,rest,rfl⟩ := List.exists_cons_of_ne_nil named.nonempty
    rw [headerOf,found]
  have plain : commented ('[' :: (name ++ [']'])) = false := by simp [commented,isSpace]
  have head : isSpace '[' = false := rfl
  simp [step,plain,stripped,item,found,initial,State.options,head]

theorem step_line (after : After name done s) {key value : List Char} (plain : PlainKey key)
    (plainValue : PlainValue value) (new : key ∉ done.map Prod.fst) :
    ∃ s', step s (line (key,value)) = some s' ∧ After name (done ++ [(key,value)]) s' := by
  obtain ⟨c,more,starts,solid,noComment,noComment',_⟩ := key_cons plain
  have plainLine : commented (line (key,value)) = false := by simp [commented,line,starts,solid,noComment,noComment']
  have indent : (line (key,value)).takeWhile isSpace = [] := by simp [line,starts,solid]
  have nonempty : key ++ (' ' :: '=' :: rest value) ≠ [] := by simp
  have unseen : s.options.any (fun option => option.1 == name && option.2.1 == key) = false := by
    rw [after.options]
    simp only [List.any_map,List.any_eq_false]
    intro entry member both
    have same : entry.1 = key := by simpa using both
    exact new (same ▸ List.mem_map_of_mem member)
  refine ⟨⟨some name,[name],s.options,some (key,[value]),0⟩,?_,rfl,rfl,?_,?_,rfl⟩
  · have stays : ¬(s.current.isSome = true ∧ s.indent < 0) := by omega
    simp only [step,plainLine,strip_line plain plainValue,Bool.false_eq_true,if_false,if_neg nonempty,indent,
      List.length_nil,if_neg stays,item,headerOf_line plain,after.header,optionOf_line plain plainValue,unseen,
      after.headers]
  · have options : (State.options ⟨some name,[name],s.options,some (key,[value]),0⟩) =
        s.options ++ [(name,key,[value])] := rfl
    rw [options,after.options,List.map_append]
    rfl
  · intro option same
    cases same
    nofun

theorem foldlM_lines (entries : List Entry) (after : After name done s)
    (plain : ∀ entry ∈ entries, PlainKey entry.1 ∧ PlainValue entry.2)
    (distinct : ((done ++ entries).map Prod.fst).Nodup) :
    ∃ s', (entries.map line).foldlM step s = some s' ∧ After name (done ++ entries) s' := by
  induction entries generalizing done s with
  | nil => exact ⟨s,rfl,by simpa using after⟩
  | cons entry entries ih =>
    obtain ⟨key,value⟩ := plain entry (List.mem_cons_self ..)
    have new : entry.1 ∉ done.map Prod.fst := by
      intro member
      rw [List.map_append] at distinct
      exact (List.nodup_append.mp distinct).2.2 _ member _ (List.mem_cons_self ..) rfl
    obtain ⟨s₁,steps,after₁⟩ := step_line after key value new
    have later : ((done ++ [entry] ++ entries).map Prod.fst).Nodup := by simpa using distinct
    obtain ⟨s₂,folds,after₂⟩ := ih after₁ (fun other member => plain other (List.mem_cons_of_mem _ member)) later
    refine ⟨s₂,?_,by simpa using after₂⟩
    rw [List.map_cons,List.foldlM_cons,steps]
    exact folds

/-- An empty line adds nothing to a value. -/
theorem joined_blank {lines : List (List Char)} (nonempty : lines ≠ []) : joined (lines ++ [[]]) = joined lines := by
  have text : ['\n'].intercalate (lines ++ [[]]) = ['\n'].intercalate lines ++ ['\n'] := by
    induction lines with
    | nil => exact absurd rfl nonempty
    | cons first more ih =>
      cases more with
      | nil => simp [List.intercalate]
      | cons second more =>
        have later := ih nofun
        simp [List.intercalate] at later ⊢
        exact later
  rw [joined,text,joined]
  simp [List.rdropWhile,isSpace]

theorem values_blank (after : After name done s) : (s.continued []).values name = s.values name := by
  obtain ⟨header,headers,complete,current,indent⟩ := s
  cases current with
  | none => rfl
  | some option =>
    have lines := joined_blank (after.lines option rfl)
    cases after.header
    simp [State.values,State.options,State.continued,lines]

theorem values_after (after : After name done s) (plain : ∀ entry ∈ done, PlainValue entry.2) :
    s.values name = done := by
  have value : ∀ entry ∈ done, (entry.1,joined [entry.2]) = entry := by
    intro entry member
    have stripped : entry.2.rdropWhile isSpace = entry.2 := by
      refine List.rdropWhile_eq_self_iff.mpr fun nonempty => ?_
      simpa using (plain entry member).ends _ (List.getLast?_eq_some_getLast nonempty)
    simp [joined,stripped]
  rw [State.values,after.options]
  simpa [List.filter_map,Function.comp_def] using List.map_congr_left value

/-- What is written is read back. -/
theorem read_write (named : PlainName name) {entries : List Entry}
    (plain : ∀ entry ∈ entries, PlainKey entry.1 ∧ PlainValue entry.2) (distinct : (entries.map Prod.fst).Nodup) :
    ∃ text, write name entries = some text ∧ read text name = some entries := by
  have keys : entries.map (fun entry => optionxform entry.1) = entries.map Prod.fst :=
    List.map_congr_left fun entry member => optionxform_plain (plain entry member).1
  have start : After name [] ⟨some name,[name],[],none,0⟩ := ⟨rfl,rfl,rfl,nofun,rfl⟩
  obtain ⟨s,folds,after⟩ := foldlM_lines entries start plain distinct
  have blank : step s [] = some (s.continued []) := rfl
  have parsed : parse (sectionText name entries) = some (s.continued []) := by
    rw [parse,fileLines_sectionText named plain,List.foldlM_cons,step_header named]
    simp [folds,blank]
  refine ⟨sectionText name entries,if_pos (keys ▸ distinct),?_⟩
  have listed : name ∈ (s.continued []).headers := by simp [State.continued,after.headers]
  simp only [read,parsed,if_pos listed,values_blank after]
  rw [values_after after fun entry member => (plain entry member).2]
  rfl

end

end MysqlOperators.Ini
