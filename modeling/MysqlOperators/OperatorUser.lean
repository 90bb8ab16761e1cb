import MysqlOperators.SqlText
import MysqlOperators.Helpers

/-!
The file with which the server creates the operator user at its first start. The
password is what set-password has stored: any text.
-/
namespace MysqlOperators.OperatorUser
open MysqlOperators.Program MysqlOperators.Program.Prog MysqlOperators.External
open MysqlOperators.Workload MysqlOperators.Helpers MysqlOperators.SqlText

/-! ### The statements -/

/-- What a statement does. -/
inductive Statement where
  | createUser (username host password : List Char)
  | grantAll (username host : List Char)
  | other (tokens : List Token)
deriving DecidableEq, Repr

def createUserTokens (username host password : List Char) : List Token :=
  [.word "CREATE".toList,.word "USER".toList,.string username,.symbol '@',.string host,.word "IDENTIFIED".toList,
   .word "BY".toList,.string password]

def grantAllTokens (username host : List Char) : List Token :=
  [.word "GRANT".toList,.word "ALL".toList,.word "ON".toList,.symbol '*',.symbol '.',.symbol '*',.word "TO".toList,
   .string username,.symbol '@',.string host,.word "WITH".toList,.word "GRANT".toList,.word "OPTION".toList]

def Statement.ofTokens (tokens : List Token) : Statement :=
  match tokens with
  | [_,_,.string username,_,.string host,_,_,.string password] =>
    if tokens = createUserTokens username host password then .createUser username host password else .other tokens
  | [_,_,_,_,_,_,_,.string username,_,.string host,_,_,_] =>
    if tokens = grantAllTokens username host then .grantAll username host else .other tokens
  | _ => .other tokens

/-- The statements of a text. -/
def statements (text : String) : Option (List Statement) :=
  (statementsOf text.toList).map (List.map Statement.ofTokens)

/-- The text that a program first writes to a file. -/
def firstWritten {α : Type} (file : String) : Hook α → Option String
  | .call (.writeText path text) _ => if path = file then some text else none
  | _ => none

/-- The text that `_set_operator_user` writes creates the user with its password,
    grants it everything, and does nothing else. -/
def InjectionFree (s : Substrate) (username password : String) : Prop :=
  ((firstWritten (operatorUserFile s) (ServerService.setOperatorUser s username password)).bind
    statements) = some [.createUser username.toList ['%'] password.toList,.grantAll username.toList ['%']]

theorem firstWritten_setOperatorUser (s : Substrate) (username password : String) :
    firstWritten (operatorUserFile s) (ServerService.setOperatorUser s username password) =
      some (ServerService.operatorUserSql username password) := by
  simp [ServerService.setOperatorUser,bind_eq,perform,firstWritten]

/-! ### The text around the password -/

def before : List Char := "CREATE USER 'charmed-operator'@'%' IDENTIFIED BY '".toList

def after : List Char := ";\nGRANT ALL ON *.* TO 'charmed-operator'@'%' WITH GRANT OPTION;".toList

theorem toList_operatorUserSql (password : String) :
    (ServerService.operatorUserSql usernameOperator password).toList =
      before ++ (password.toList ++ quote :: after) := by
  have joined : quote :: after = "';".toList ++ ("\n".toList ++ ("GRANT ALL ON *.* TO '".toList ++
      (usernameOperator.toList ++ "'@'%' WITH GRANT OPTION;".toList))) := by decide +kernel
  have opened : before = "CREATE USER '".toList ++ (usernameOperator.toList ++ "'@'%' IDENTIFIED BY '".toList) := by
    decide +kernel
  have lines (first second : String) : "\n".intercalate [first,second] = first ++ "\n" ++ second := rfl
  rw [joined,opened,ServerService.operatorUserSql,lines]
  simp only [String.toList_append,List.append_assoc]

def operator : List Char := usernameOperator.toList

/-- The tokens up to the password. -/
def begun : List Token :=
  [.word "CREATE".toList,.word "USER".toList,.string operator,.symbol '@',.string ['%'],.word "IDENTIFIED".toList,
   .word "BY".toList]

theorem run_before : start.run before = ⟨[],begun,.quoted quote []⟩ := by decide +kernel

/-- The statement after the password, from the end of the first one. -/
def granting : List Char := "\nGRANT ALL ON *.* TO 'charmed-operator'@'%' WITH GRANT OPTION;".toList

/-- After the password the user is granted everything. -/
theorem finish_after (password : List Char) :
    (Reader.run ⟨[],begun,.closing quote password⟩ after).finish =
      some [createUserTokens operator ['%'] password,grantAllTokens operator ['%']] := by
  have ended : after = ';' :: granting := by decide +kernel
  have closed : Reader.step ⟨[],begun,.closing quote password⟩ ';' =
      start.after [createUserTokens operator ['%'] password] := rfl
  have granted : (start.run granting).finish = some [grantAllTokens operator ['%']] := by decide +kernel
  rw [ended,run_cons,closed,after_run,after_finish,granted]
  rfl

/-- What follows a quote in a text. -/
def afterQuotes : List Char → List (List Char)
  | [] => []
  | c :: rest => if c = quote then rest :: afterQuotes rest else afterQuotes rest

theorem mem_afterQuotes (w rest : List Char) : rest ∈ afterQuotes (w ++ quote :: rest) := by
  induction w with
  | nil => simp [afterQuotes]
  | cons c w ih =>
    rw [List.cons_append,afterQuotes]
    split
    · exact List.mem_cons_of_mem _ ih
    · exact ih

/-- The quotes after the password are those of the user and its host. -/
theorem afterQuotes_after : afterQuotes after =
    ["charmed-operator'@'%' WITH GRANT OPTION;".toList,"@'%' WITH GRANT OPTION;".toList,
      "%' WITH GRANT OPTION;".toList," WITH GRANT OPTION;".toList] := by decide +kernel

/-- What a statement begins with after a part of the text, it begins with at the end. -/
theorem opens_of_part {r : Reader} {first : List Token} (some_ : first ≠ []) (part : List Char) {rest : List Char}
    (opens : Opens first (r.run part)) {read : List (List Token)} (ends : (r.run (part ++ rest)).finish = some read) :
    ∃ s more, read = s :: more ∧ first <+: s := by
  rw [run_append] at ends
  exact opens_finish some_ (opens_run some_ rest opens) ends

/-- A string that ends at one of them is followed by another token. -/
theorem overrun (value rest : List Char) (late : rest ∈ afterQuotes after) :
    ∃ t, ∀ read, (Reader.run ⟨[],begun,.closing quote value⟩ rest).finish = some read →
      ∃ s more, read = s :: more ∧ begun ++ [.string value,t] <+: s := by
  have some_ (t : Token) : begun ++ [.string value,t] ≠ [] := by simp
  rw [afterQuotes_after] at late
  simp only [List.mem_cons,List.not_mem_nil,or_false] at late
  rcases late with rfl | rfl | rfl | rfl
  · refine ⟨.word "CHARMED".toList,fun read ends => opens_of_part (some_ _) "charmed-".toList ?_ ends⟩
    exact List.prefix_rfl
  · refine ⟨.symbol '@',fun read ends => opens_of_part (some_ _) "@".toList ?_ ends⟩
    exact List.prefix_rfl
  · refine ⟨.symbol '%',fun read ends => opens_of_part (some_ _) "%".toList ?_ ends⟩
    exact List.prefix_rfl
  · refine ⟨.word "WITH".toList,fun read ends => opens_of_part (some_ _) " WITH ".toList ?_ ends⟩
    exact List.prefix_rfl

/-- The reader after a string with the password has ended. -/
theorem run_closing {w v : List Char} (spells : Spells quote w v) (rest : List Char) :
    Reader.run ⟨[],begun,.quoted quote []⟩ (w ++ quote :: rest) = Reader.run ⟨[],begun,.closing quote v⟩ rest := by
  rw [run_append,run_spells (.inl rfl) spells]
  rfl

theorem begun_append (password : List Char) : begun ++ [.string password] = createUserTokens operator ['%'] password :=
  rfl

/-- The text creates the user with the password and grants it everything, and has no
    other statements, exactly when the password is plain. -/
theorem finish_iff (password : List Char) :
    statementsOf (before ++ (password ++ quote :: after)) =
        some [createUserTokens operator ['%'] password,grantAllTokens operator ['%']] ↔
      isPlain quote password = true := by
  rw [statementsOf,run_append,run_before]
  constructor
  · intro read
    rcases ends_or_open (.inl rfl) (password ++ quote :: after) [] begun [] with ⟨w,v,rest,whole,last,spells⟩ | never
    · rw [whole,run_closing spells] at read
      obtain ⟨s,more,same,begins⟩ := opens_closing (by decide) last read
      obtain ⟨rfl,_⟩ := List.cons.inj same
      have value : v = password := by
        rw [begun_append] at begins
        have tokens := begins.eq_of_length rfl
        simpa [createUserTokens] using tokens
      subst value
      rcases length_spells (.inl rfl) spells with shorter | ⟨rfl,plain⟩
      · -- the string has gone past the quote that was to end it
        have late : rest ∈ afterQuotes after := by
          obtain ⟨w',longer,passed⟩ | ⟨w',longer,_⟩ := List.append_eq_append_iff.mp whole
          · cases w' with
            | nil => simp [longer] at shorter
            | cons q w' =>
              rw [(List.cons.inj passed).2]
              exact mem_afterQuotes w' rest
          · rw [longer,List.length_append] at shorter
            omega
        obtain ⟨t,next⟩ := overrun v rest late
        obtain ⟨s,more,same,another⟩ := next _ read
        obtain ⟨rfl,_⟩ := List.cons.inj same
        have longer := another.length_le
        simp [begun,createUserTokens] at longer
      · exact plain
    · rw [never] at read
      cases read
  · intro plain
    rw [run_closing (spells_of_isPlain plain)]
    exact finish_after password

/-! ### The effects -/

theorem ofTokens_createUser_iff {tokens : List Token} {username host password : List Char} :
    Statement.ofTokens tokens = .createUser username host password ↔
      tokens = createUserTokens username host password := by
  constructor
  · intro creates
    unfold Statement.ofTokens at creates
    split at creates
    · split at creates
      · rename_i read
        cases creates
        exact read
      · cases creates
    · split at creates <;> cases creates
    · cases creates
  · rintro rfl
    exact if_pos rfl

theorem ofTokens_grantAll_iff {tokens : List Token} {username host : List Char} :
    Statement.ofTokens tokens = .grantAll username host ↔ tokens = grantAllTokens username host := by
  constructor
  · intro grants
    unfold Statement.ofTokens at grants
    split at grants
    · split at grants <;> cases grants
    · split at grants
      · rename_i read
        cases grants
        exact read
      · cases grants
    · cases grants
  · rintro rfl
    exact if_pos rfl

/-- On both substrates, for every password. -/
theorem injectionFree_iff (s : Substrate) (password : String) :
    InjectionFree s usernameOperator password ↔ isPlain quote password.toList = true := by
  rw [← finish_iff,InjectionFree,firstWritten_setOperatorUser,Option.bind_some,statements,toList_operatorUserSql]
  constructor
  · intro same
    obtain ⟨read,found,effects⟩ := Option.map_eq_some_iff.mp same
    obtain ⟨first,rest,rfl,creates,others⟩ := List.map_eq_cons_iff.mp effects
    obtain ⟨second,last,rfl,grants,none⟩ := List.map_eq_cons_iff.mp others
    rw [List.map_eq_nil_iff] at none
    rw [found,ofTokens_createUser_iff.mp creates,ofTokens_grantAll_iff.mp grants,none]
    rfl
  · intro read
    rw [read,Option.map_some,List.map_cons,List.map_cons,List.map_nil,ofTokens_createUser_iff.mpr rfl,
      ofTokens_grantAll_iff.mpr rfl]
    rfl

/-- A password that ends the string drops the schema and creates another user. -/
def injected : String := "x'; DROP DATABASE mysql; CREATE USER 'y"

/-- The file has more statements than the two, for a password that may be set. -/
theorem injected_runs :
    ¬ ∀ (s : Substrate) (password : String), password.length ≤ 130 → InjectionFree s usernameOperator password := by
  intro always
  have free := always .k8s injected (by decide)
  rw [InjectionFree,firstWritten_setOperatorUser] at free
  exact absurd free (by decide +kernel)

end MysqlOperators.OperatorUser
