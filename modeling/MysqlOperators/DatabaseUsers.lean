import MysqlOperators.Clients
import MysqlOperators.Scripted
import MysqlOperators.Wildcards

/-!
The users of the database relation. The script that creates one is read as MySQL
reads it: statements that grant something on a quoted pattern to a quoted user.
Text that is no such statement is not read, so a script that contains it grants
nothing by these rules.
-/
namespace MysqlOperators.DatabaseUsers
open MysqlOperators.Program MysqlOperators.Program.Prog MysqlOperators.External MysqlOperators.Clients
open MysqlOperators.Scripted MysqlOperators.Wildcards

/-! ### The names -/

/-- The quote of a name. -/
def backtick : Char := Char.ofNat 96

/-- `_build_database_relation_username`. -/
def buildDatabaseRelationUsername (modelUuid : String) (relation : Nat) : String :=
  String.ofList (("relation-" ++ toString relation ++ "_" ++
    String.ofList (modelUuid.toList.filter (· != '-'))).toList.take 26)

/-- The name of a database; the handler refuses a request without one. -/
structure DatabaseName where
  name : String
  nonempty : name.toList ≠ []

/-- The name of a user. -/
structure Username where
  name : String
  plain : backtick ∉ name.toList

/-- The identifier of a model, in hexadecimal digits and dashes. -/
structure ModelUuid where
  text : String
  hexadecimal : text.toList.all (fun c => c.isAlphanum || c == '-') = true

/-- The users that the handler creates have no backtick in their names. -/
def relationUser (model : ModelUuid) (relation : Nat) : Username where
  name := buildDatabaseRelationUsername model.text relation
  plain := by
    have digits : backtick ∉ Nat.toDigits 10 relation := by
      intro member
      have digit : backtick.isDigit = true := Nat.isDigit_of_mem_toDigits (by decide) (by decide) member
      revert digit
      decide
    have hexadecimal : backtick ∉ model.text.toList := by
      intro member
      have allowed := List.all_eq_true.mp model.hexadecimal backtick member
      revert allowed
      decide
    simp only [buildDatabaseRelationUsername,String.toList_ofList]
    refine mt (fun member => List.mem_of_mem_take member) ?_
    simpa [backtick] using ⟨digits,hexadecimal⟩

/-! ### The statements -/

inductive Statement where
  | usage (user : List Char)
  | allPrivileges (pattern user : List Char)
deriving DecidableEq, Repr

def usageText : List Char := "GRANT USAGE ON *.* TO `".toList
def allText : List Char := "GRANT ALL PRIVILEGES ON `".toList
def toText : List Char := ".* TO `".toList

def readStatement (text : List Char) : Option (Statement × List Char) :=
  match text.dropPrefix? usageText with
  | some rest => (readQuoted backtick rest).map (fun user => (.usage user.1,user.2))
  | none => do
    let rest ← text.dropPrefix? allText
    let (pattern,rest) ← readQuoted backtick rest
    let rest ← rest.dropPrefix? toText
    let (user,rest) ← readQuoted backtick rest
    some (.allPrivileges pattern user,rest)

/-- The statements of a script, separated by semicolons. -/
def readScript : Nat → List Char → Option (List Statement)
  | 0, _ => none
  | n+1, text =>
    match readStatement text with
    | none => none
    | some (statement,rest) =>
      match rest with
      | [] => some [statement]
      | c :: rest => if c = ';' then (readScript n rest).map (statement :: ·) else none

def statementsOf (script : String) : Option (List Statement) := readScript script.toList.length script.toList

/-- The statements give a user the privileges on a database. -/
def Privileged (statements : List Statement) (user database : String) : Prop :=
  ∃ pattern, .allPrivileges pattern user.toList ∈ statements ∧ Matches (pieces pattern) database.toList

/-! ### What the script grants -/

section
variable (database username : String)

/-- The grant of the second statement, and what follows it. -/
def grantText (database username after : List Char) : List Char :=
  allText ++ (database ++ backtick :: (toText ++ (username ++ backtick :: after)))

theorem script_text : (InstanceClient.databaseUserScript database username).toList =
    usageText ++ (username.toList ++ backtick :: ';' :: grantText database.toList username.toList []) := by
  have joined : InstanceClient.databaseUserScript database username =
      "GRANT USAGE ON *.* TO `" ++ username ++ "`" ++ ";" ++
        ("GRANT ALL PRIVILEGES ON `" ++ database ++ "`.* TO `" ++ username ++ "`") := rfl
  have quote : "`".toList = [backtick] := by decide
  have semicolon : ";".toList = [';'] := by decide
  have target : "`.* TO `".toList = backtick :: toText := by decide
  rw [joined]
  simp only [String.toList_append,List.append_assoc,quote,semicolon,target]
  rfl

variable {database username}

/-- A statement of a script that grants privileges is spelled by a part of it. -/
theorem statement_source {text rest pattern user : List Char}
    (read : readStatement text = some (.allPrivileges pattern user,rest)) :
    ∃ source target, text = grantText source target rest ∧ user.length ≤ target.length ∧
      pattern.length ≤ source.length ∧ (source.length = pattern.length → source = pattern ∧ backtick ∉ pattern) := by
  unfold readStatement at read
  split at read
  · simp only [Option.map_eq_some_iff] at read
    obtain ⟨_,_,same⟩ := read
    cases (Prod.mk.inj same).1
  · simp only [Option.bind_eq_bind,Option.bind_eq_some_iff] at read
    obtain ⟨afterAll,dropped,⟨pattern',afterPattern⟩,readPattern,afterTo,droppedTo,⟨user',rest'⟩,readUser,same⟩ := read
    simp only [Option.some.injEq,Prod.mk.injEq,Statement.allPrivileges.injEq] at same
    obtain ⟨⟨rfl,rfl⟩,rfl⟩ := same
    obtain ⟨head,rfl,isAll⟩ := List.dropPrefix?_eq_some_iff.mp dropped
    obtain ⟨source,rfl,short,exact_⟩ := readQuoted_source readPattern
    obtain ⟨middle,rfl,isTo⟩ := List.dropPrefix?_eq_some_iff.mp droppedTo
    obtain ⟨target,rfl,short',_⟩ := readQuoted_source readUser
    refine ⟨source,target,?_,short',short,exact_⟩
    rw [eq_of_beq isAll,eq_of_beq isTo]
    rfl

theorem statement_suffix {text rest : List Char} {statement : Statement}
    (read : readStatement text = some (statement,rest)) : ∃ before, text = before ++ rest := by
  cases statement with
  | allPrivileges pattern user =>
    obtain ⟨source,target,rfl,_⟩ := statement_source read
    exact ⟨allText ++ (source ++ backtick :: (toText ++ (target ++ [backtick]))),by simp [grantText]⟩
  | usage user =>
    unfold readStatement at read
    split at read
    · rename_i afterUsage dropped
      obtain ⟨⟨user',rest'⟩,readUser,same⟩ := Option.map_eq_some_iff.mp read
      obtain ⟨_,rfl⟩ := Prod.mk.inj same
      obtain ⟨head,rfl,_⟩ := List.dropPrefix?_eq_some_iff.mp dropped
      obtain ⟨source,rfl,_⟩ := readQuoted_source readUser
      exact ⟨head ++ (source ++ [backtick]),by simp⟩
    · simp only [Option.bind_eq_bind,Option.bind_eq_some_iff] at read
      obtain ⟨_,_,_,_,_,_,_,_,same⟩ := read
      simp at same

/-- The part of a script that spells one of its grants. -/
theorem script_source {n : Nat} {text : List Char} {statements : List Statement} {pattern user : List Char}
    (read : readScript n text = some statements) (member : .allPrivileges pattern user ∈ statements) :
    ∃ before source target after, text = before ++ grantText source target after ∧ user.length ≤ target.length ∧
      pattern.length ≤ source.length ∧ (source.length = pattern.length → source = pattern ∧ backtick ∉ pattern) := by
  induction n generalizing text statements with
  | zero => cases read
  | succ n ih =>
    unfold readScript at read
    split at read
    · cases read
    · rename_i statement rest first
      split at read
      · cases read
        obtain rfl := List.mem_singleton.mp member
        obtain ⟨source,target,rfl,facts⟩ := statement_source first
        exact ⟨[],source,target,[],rfl,facts⟩
      · split at read
        · rename_i c rest _
          obtain ⟨later,readLater,rfl⟩ := Option.map_eq_some_iff.mp read
          rcases List.mem_cons.mp member with rfl | inLater
          · obtain ⟨source,target,rfl,facts⟩ := statement_source first
            exact ⟨[],source,target,_,rfl,facts⟩
          · obtain ⟨before,source,target,after,rfl,facts⟩ := ih readLater inLater
            obtain ⟨skipped,rfl⟩ := statement_suffix first
            exact ⟨skipped ++ c :: before,source,target,after,by simp,facts⟩
        · cases read

theorem readStatement_usage {user rest : List Char} (plain : backtick ∉ user) :
    readStatement (usageText ++ (user ++ backtick :: ';' :: rest)) = some (.usage user,';' :: rest) := by
  have closed : (';' :: rest).head? ≠ some backtick := show some ';' ≠ some backtick by decide
  unfold readStatement
  rw [List.dropPrefix?_append_of_beq _ (by simp)]
  simp only
  rw [readQuoted_plain plain closed]
  rfl

theorem readStatement_grant {pattern user : List Char} (plain : backtick ∉ pattern) (plainUser : backtick ∉ user) :
    readStatement (grantText pattern user []) = some (.allPrivileges pattern user,[]) := by
  have other : (grantText pattern user []).dropPrefix? usageText = none := rfl
  have closed : (toText ++ (user ++ [backtick])).head? ≠ some backtick := show some '.' ≠ some backtick by decide
  unfold readStatement
  rw [other]
  simp only [grantText]
  rw [List.dropPrefix?_append_of_beq _ (by simp)]
  simp only [Option.bind_eq_bind,Option.bind_some]
  rw [readQuoted_plain plain closed]
  simp only [Option.bind_some]
  rw [List.dropPrefix?_append_of_beq _ (by simp)]
  simp only [Option.bind_some]
  rw [readQuoted_plain plainUser (by decide)]
  rfl

/-- The script of a user starts with the statement that grants nothing. -/
theorem statementsOf_script (database : String) (plain : backtick ∉ username.toList) :
    ∃ n, statementsOf (InstanceClient.databaseUserScript database username) =
      (readScript (n+1) (grantText database.toList username.toList [])).map (.usage username.toList :: ·) := by
  obtain ⟨n,long⟩ : ∃ n, (InstanceClient.databaseUserScript database username).toList.length = n+2 := by
    refine Nat.exists_eq_add_of_le' ?_
    rw [script_text]
    simp only [List.length_append,List.length_cons]
    omega
  refine ⟨n,?_⟩
  unfold statementsOf
  rw [long,script_text]
  conv => lhs; unfold readScript
  rw [readStatement_usage plain]
  rfl

end

/-! ### The privileges of one database -/

/-- The scripts among the calls of a run. -/
def scriptsOf (log : List Call) : List String :=
  log.filterMap fun
    | .executeSql _ (.script text) => some text
    | _ => none

/-- Every call succeeds. -/
def succeeding : Script Call Reply Exn := ⟨fun _ _ => .ok default,fun _ _ => false⟩

/-- The scripts that a program executes when its calls succeed. -/
def issued (p : Hook Unit) : List String := scriptsOf (play ⟨fun _ _ r => r,fun w _ _ _ => w⟩ succeeding p ()).2.log

theorem issued_createDatabaseUser (at_ : Target) (database username password : String) :
    issued (InstanceClient.createDatabaseUser at_ database username password []) =
      [InstanceClient.databaseUserScript database username] := rfl

/-- The statements issued for a user without extra roles give it the privileges on
    its database and on no other. -/
def Isolated (at_ : Target) (database : DatabaseName) (user : Username) (password : String) : Prop :=
  ∃ statements, (issued (InstanceClient.createDatabaseUser at_ database.name user.name password [])).mapM statementsOf =
      some statements ∧
    ∀ other : DatabaseName, Privileged statements.flatten user.name other.name ↔ other.name = database.name

section
variable {at_ : Target} {database : DatabaseName} {user : Username} {password : String}

/-- Only the statements of the one script count. -/
theorem isolated_script : Isolated at_ database user password ↔
    ∃ statements, statementsOf (InstanceClient.databaseUserScript database.name user.name) = some statements ∧
      ∀ other : DatabaseName, Privileged statements user.name other.name ↔ other.name = database.name := by
  unfold Isolated
  rw [issued_createDatabaseUser]
  simp only [List.mapM_cons,List.mapM_nil]
  constructor
  · rintro ⟨statements,read,exact_⟩
    simp only [Option.bind_eq_bind,Option.bind_eq_some_iff,Option.pure_def,Option.some.injEq] at read
    obtain ⟨script,readScript,rest,rfl,rfl⟩ := read
    exact ⟨script,readScript,by simpa using exact_⟩
  · rintro ⟨statements,read,exact_⟩
    exact ⟨[statements],by simp [read],by simpa using exact_⟩

/-- A script that isolates its user spells the database in full. -/
theorem plain_of_isolated (isolated : Isolated at_ database user password) :
    backtick ∉ database.name.toList ∧ Plain database.name.toList := by
  obtain ⟨statements,read,exact_⟩ := isolated_script.mp isolated
  obtain ⟨n,script⟩ := statementsOf_script database.name user.plain
  rw [script] at read
  obtain ⟨later,readGrant,rfl⟩ := Option.map_eq_some_iff.mp read
  obtain ⟨pattern,member,matched⟩ := (exact_ database).mpr rfl
  have : Nontrivial Char := ⟨'a','b',by decide⟩
  -- the pattern matches no other name, so it has no wildcards
  have literal : pieces pattern = database.name.toList.map .exactly := by
    refine literal_of_exact matched fun other long matched' => ?_
    have nonempty : other ≠ [] := fun empty =>
      database.nonempty (List.eq_nil_of_length_eq_zero (by simpa [empty] using long))
    have same := (exact_ ⟨String.ofList other,by simpa using nonempty⟩).mp ⟨pattern,member,by simpa using matched'⟩
    simpa using congrArg String.toList same
  -- and what spells it leaves no room for a quote or an escape
  have inLater : .allPrivileges pattern user.name.toList ∈ later := by
    rcases List.mem_cons.mp member with same | inLater
    · cases same
    · exact inLater
  obtain ⟨before,source,target,after,text,longUser,longSource,exactSource⟩ := script_source readGrant inLater
  have lengths := congrArg List.length text
  simp only [grantText,List.length_append,List.length_cons,List.length_nil] at lengths
  obtain ⟨long,exactPattern⟩ := pieces_literal literal
  have same : pattern = database.name.toList := exactPattern (by omega)
  obtain ⟨_,plain⟩ := exactSource (by omega)
  rw [same] at plain literal
  exact ⟨plain,(pieces_plain_iff _).mp literal⟩

theorem isolated_of_plain (unquoted : backtick ∉ database.name.toList) (plain : Plain database.name.toList) :
    Isolated at_ database user password := by
  rw [isolated_script]
  obtain ⟨n,script⟩ := statementsOf_script database.name user.plain
  refine ⟨[.usage user.name.toList,.allPrivileges database.name.toList user.name.toList],?_,fun other => ?_⟩
  · rw [script]
    unfold readScript
    rw [readStatement_grant unquoted user.plain]
    rfl
  · have only : Privileged [.usage user.name.toList,.allPrivileges database.name.toList user.name.toList] user.name
        other.name ↔ Matches (pieces database.name.toList) other.name.toList := by
      simp [Privileged]
    rw [only,(pieces_plain_iff _).mpr plain,matches_literal,String.toList_inj]

end

/-- The user of a database is isolated if and only if the name of the database has
    no quote, no wildcard, and no backslash before another character. -/
theorem isolated_iff (at_ : Target) (database : DatabaseName) (user : Username) (password : String) :
    Isolated at_ database user password ↔ backtick ∉ database.name.toList ∧ Plain database.name.toList :=
  ⟨plain_of_isolated,fun ⟨unquoted,plain⟩ => isolated_of_plain unquoted plain⟩

def appDatabase : DatabaseName := ⟨"app_1",by decide⟩

def modelUuid : ModelUuid := ⟨"3f2504e0-4f89-41d3-9a0c-0305e82c3301",rfl⟩

def appUser : Username := relationUser modelUuid 7

/-- The user of `app_1` has the privileges on `appx1` as well. -/
theorem underscore_shared : ¬ Isolated .own appDatabase appUser "password" := by
  intro isolated
  obtain ⟨statements,read,exact_⟩ := isolated_script.mp isolated
  have script : statementsOf (InstanceClient.databaseUserScript appDatabase.name appUser.name) =
      some [.usage appUser.name.toList,.allPrivileges "app_1".toList appUser.name.toList] := by decide +kernel
  rw [script] at read
  cases read
  have other : Matches (pieces "app_1".toList) "appx1".toList :=
    ⟨_,rfl,_,rfl,_,rfl,_,_,rfl,_,rfl,rfl⟩
  have same := (exact_ ⟨"appx1",by decide⟩).mp ⟨"app_1".toList,by simp,other⟩
  revert same
  decide

end MysqlOperators.DatabaseUsers
