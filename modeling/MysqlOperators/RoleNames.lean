import MysqlOperators.DatabaseServer
import Mathlib.Algebra.Group.Nat.Defs

/-!
The names of the administrator roles. Databases are created one after the other, no
role is ever deleted, and each role is numbered by how many roles its pattern matches
when it is created.
-/
namespace MysqlOperators.RoleNames
open MysqlOperators.Program MysqlOperators.Program.Prog MysqlOperators.External MysqlOperators.Clients
open MysqlOperators.Wildcards MysqlOperators.Databases MysqlOperators.DatabaseServer

/-! ### Histories -/

/-- The server on which databases with different names are created, none of them
    there before. A name has at most 64 characters. -/
structure History where
  attempt : Attempt
  calm : ∀ c, attempt.fault c = none
  host : Target
  initial : Server
  databases : List String
  distinct : databases.Nodup
  fresh : ∀ database ∈ databases, database ∉ initial.databases
  valid : ∀ database ∈ databases, database ≠ "" ∧ database.toList.length ≤ 64

namespace History
variable (h : History)

/-- The server after a database has been created. -/
def created (w : Server) (database : String) : Server :=
  (run h.attempt.respond (InstanceClient.createDatabase h.host database) w).2

/-- The databases with the server on which each is created. -/
def traceFrom (w : Server) : List String → List (Server × String)
  | [] => []
  | database :: rest => (w,database) :: traceFrom (h.created w database) rest

def trace : List (Server × String) := h.traceFrom h.initial h.databases

/-- What `_build_database_dba_role` returns each time. -/
def produced : List (Except Exn String) :=
  h.trace.map fun step => (run h.attempt.respond (InstanceClient.buildDatabaseDbaRole h.host step.2) step.1).1

/-- The names are different, and short enough for the server. -/
def NamesFit : Prop :=
  ∃ names : List String, h.produced = names.map .ok ∧ names.Nodup ∧ ∀ name ∈ names, name.toList.length ≤ 32

end History

/-- Less than a hundred roles match for a name that fills its place, and ten times as
    many for each character that it leaves free. -/
def Fits (w : Server) (database : String) : Prop :=
  (w.collisions database).length < 10 ^ (19 - (shortened database).length)

/-- Between two databases that are shortened alike, the server has got a role that the
    pattern of both matches. -/
def Separated (first second : Server × String) : Prop :=
  shortened first.2 = shortened second.2 →
    ∃ role ∈ second.1.roles, role ∉ first.1.roles ∧ like (rolePattern second.2) role = true

/-! ### Names -/

theorem zfill_injective {m n : Nat}
    (same : Python.zfill 2 (toString m).toList = Python.zfill 2 (toString n).toList) : m = n := by
  have read (k : Nat) : Nat.ofDigitChars 10 (Python.zfill 2 (toString k).toList) 0 = k := by
    rw [Nat.toString_eq_repr,Nat.toList_repr,Python.zfill]
    have zeros (z : Nat) (text : List Char) :
        Nat.ofDigitChars 10 (List.replicate z '0' ++ text) 0 = Nat.ofDigitChars 10 text 0 := by
      induction z with
      | zero => rfl
      | succ z ih => simpa [List.replicate_succ,Nat.ofDigitChars] using ih
    rw [zeros,Nat.ofDigitChars_toDigits (by decide) (by decide)]
  rw [← read m,same,read n]

theorem zfill_plain (n : Nat) : '_' ∉ Python.zfill 2 (toString n).toList := by
  intro member
  rcases List.mem_append.mp member with zero | digit
  · rw [List.mem_replicate] at zero
    exact absurd zero.2 (by decide)
  · rw [Nat.toString_eq_repr,Nat.toList_repr] at digit
    exact Nat.underscore_not_in_toDigits digit

/-- What stands before the last mark of a text and what follows it are determined. -/
theorem split_last {α : Type} {mark : α} {u v x y : List α} (same : u ++ mark :: x = v ++ mark :: y) (left : mark ∉ x)
    (right : mark ∉ y) : u = v ∧ x = y := by
  induction u generalizing v with
  | nil =>
    rcases v with _ | ⟨b,v⟩
    · exact ⟨rfl,(List.cons.inj same).2⟩
    · obtain ⟨-,rest⟩ := List.cons.inj same
      exact absurd (rest ▸ List.mem_append_right v (List.mem_cons_self ..)) left
  | cons a u ih =>
    rcases v with _ | ⟨b,v⟩
    · obtain ⟨-,rest⟩ := List.cons.inj same
      exact absurd (rest ▸ List.mem_append_right u (List.mem_cons_self ..)) right
    · obtain ⟨rfl,rest⟩ := List.cons.inj same
      obtain ⟨rfl,equal⟩ := ih rest
      exact ⟨rfl,equal⟩

theorem roleName_text (database : String) (number : Nat) : (roleName database number).toList =
    "charmed_dba_".toList ++ (shortened database ++ '_' :: Python.zfill 2 (toString number).toList) := by
  have mark : "_".toList = ['_'] := by decide
  have front : "charmed_dba_".toList = "charmed_dba".toList ++ ['_'] := by decide
  simp [roleName,mark,front]

theorem roleName_eq_iff {first second : String} {m n : Nat} :
    roleName first m = roleName second n ↔ shortened first = shortened second ∧ m = n := by
  constructor
  · intro same
    have texts := congrArg String.toList same
    rw [roleName_text,roleName_text] at texts
    obtain ⟨names,numbers⟩ := split_last (List.append_cancel_left texts) (zfill_plain m) (zfill_plain n)
    exact ⟨names,zfill_injective numbers⟩
  · rintro ⟨names,rfl⟩
    rw [roleName,roleName,names]

theorem roleName_short (w : Server) (database : String) :
    (roleName database (w.collisions database).length).toList.length ≤ 32 ↔ Fits w database := by
  have short : (shortened database).length ≤ 17 := by
    rw [shortened,List.length_take]
    omega
  have front : "charmed_dba_".toList.length = 12 := by decide
  have digits : (toString (w.collisions database).length).toList.length ≤ 19 - (shortened database).length ↔
      Fits w database := by
    rw [Nat.toString_eq_repr,Nat.toList_repr,Nat.length_toDigits_le_iff (by decide) (by omega)]
    rfl
  rw [← digits,roleName_text,List.length_append,front,List.length_append,List.length_cons,Python.zfill,
    List.length_append,List.length_replicate]
  omega

/-! ### One creation -/

section
variable {h : History} {w : Server} {database : String}

theorem produced_eq (h : History) : h.produced =
    h.trace.map fun step => .ok (roleName step.2 (step.1.collisions step.2).length) := by
  refine List.map_congr_left fun step _ => ?_
  rw [buildDatabaseDbaRole_run h.host step.2 (h.calm _)]

/-- The creation leaves the server with one more database, and with the role unless the
    name is taken. -/
theorem created_eq (h : History) (absent_ : database ∉ w.databases) :
    (h.created w database).databases = w.databases ++ [database] ∧
      (h.created w database).roles = (if roleName database (w.collisions database).length ∈ w.roles then w.roles
        else w.roles ++ [roleName database (w.collisions database).length]) := by
  have made : h.attempt.respond w (.createDatabase h.host database) = (.ok (),w.withDatabase database) := by
    simp [Attempt.respond,h.calm,Attempt.answer,absent_]
  have named := @buildDatabaseDbaRole_run h.attempt (w.withDatabase database) h.host database (h.calm _)
  have same : (w.withDatabase database).collisions database = w.collisions database := rfl
  rw [same] at named
  generalize roleName database (w.collisions database).length = name at named ⊢
  have executed : h.attempt.respond (w.withDatabase database) (.executeSql h.host (.joined (.readerRoleUpdate database)
      (.joined (.writerRoleUpdate database) (.adminRole name database)))) = (w.withDatabase database).execute
        [.readerRoleUpdate database,.writerRoleUpdate database,.adminRole name database] := by
    simp only [Attempt.respond,h.calm]
    rfl
  have ran : h.created w database = ((w.withDatabase database).execute
      [.readerRoleUpdate database,.writerRoleUpdate database,.adminRole name database]).2 := by
    simp only [History.created,InstanceClient.createDatabase,run_bind,run_perform,made,named,executed]
    cases ((w.withDatabase database).execute
      [.readerRoleUpdate database,.writerRoleUpdate database,.adminRole name database]) with
    | mk r v => cases r <;> rfl
  rw [ran]
  by_cases taken : name ∈ w.roles
  · simp [Server.execute,Server.statement,Server.withDatabase,taken,absent_]
  · simp [Server.execute,Server.statement,Server.withDatabase,taken,absent_]

/-! ### The whole history -/

/-- The roles of the first server, and others that came later. -/
def Extends (v w : Server) : Prop := ∃ new, w.roles = v.roles ++ new ∧ ∀ role ∈ new, role ∉ v.roles

theorem extends_refl (w : Server) : Extends w w := ⟨[],by simp,nofun⟩

theorem extends_trans {u v w : Server} (first : Extends u v) (second : Extends v w) : Extends u w := by
  obtain ⟨new,roles,absent_⟩ := first
  obtain ⟨new',roles',absent'⟩ := second
  refine ⟨new ++ new',by rw [roles',roles,List.append_assoc],fun role member => ?_⟩
  rcases List.mem_append.mp member with old | later
  · exact absent_ role old
  · intro inside
    exact absent' role later (roles ▸ List.mem_append_left _ inside)

theorem extends_created (absent_ : database ∉ w.databases) : Extends w (h.created w database) := by
  obtain ⟨-,roles⟩ := created_eq h absent_
  by_cases taken : roleName database (w.collisions database).length ∈ w.roles
  · rw [if_pos taken] at roles
    exact ⟨[],by rw [roles,List.append_nil],nofun⟩
  · rw [if_neg taken] at roles
    refine ⟨_,roles,fun role member => ?_⟩
    rw [List.mem_singleton.mp member]
    exact taken

/-- The rest of a history is still to be created. -/
theorem fresh_created {database : String} {rest : List String} (other : database ∉ rest)
    (fresh : ∀ d ∈ database :: rest, d ∉ w.databases) : ∀ d ∈ rest, d ∉ (h.created w database).databases := by
  intro d member inside
  rw [(created_eq h (fresh database (List.mem_cons_self ..))).1] at inside
  rcases List.mem_append.mp inside with old | same
  · exact fresh d (List.mem_cons_of_mem _ member) old
  · rw [List.mem_singleton.mp same] at member
    exact other member

/-- Every later server of a history has the roles of the earlier ones. -/
theorem trace_extends (h : History) (databases : List String) (distinct : databases.Nodup)
    (fresh : ∀ database ∈ databases, database ∉ w.databases) :
    (∀ step ∈ h.traceFrom w databases, Extends w step.1) ∧
      (h.traceFrom w databases).Pairwise (fun first second => Extends first.1 second.1) := by
  induction databases generalizing w with
  | nil => exact ⟨nofun,.nil⟩
  | cons database rest ih =>
    obtain ⟨other,distinct⟩ := List.nodup_cons.mp distinct
    have absent_ : database ∉ w.databases := fresh database (List.mem_cons_self ..)
    have later : ∀ d ∈ rest, d ∉ (h.created w database).databases := fresh_created other fresh
    obtain ⟨from_,pairs⟩ := ih distinct later
    have step := @extends_created h w database absent_
    refine ⟨fun entry member => ?_,List.pairwise_cons.mpr ⟨fun entry member => ?_,pairs⟩⟩
    · rcases List.mem_cons.mp member with rfl | member
      · exact extends_refl w
      · exact extends_trans step (from_ entry member)
    · exact extends_trans step (from_ entry member)

/-- Two names of a history differ if and only if the server has got a role for the
    second pattern in between. -/
theorem names_differ {first second : Server × String} (extends_ : Extends first.1 second.1) :
    roleName first.2 (first.1.collisions first.2).length ≠ roleName second.2 (second.1.collisions second.2).length ↔
      Separated first second := by
  obtain ⟨new,roles,absent_⟩ := extends_
  rw [Ne,roleName_eq_iff,not_and,Separated]
  refine forall_congr' fun alike => ?_
  have pattern : rolePattern first.2 = rolePattern second.2 := by rw [rolePattern,rolePattern,alike]
  have count : (second.1.collisions second.2).length =
      (first.1.collisions first.2).length + (new.filter (like (rolePattern second.2))).length := by
    rw [Server.collisions,Server.collisions,roles,List.filter_append,List.length_append,pattern]
  rw [count]
  constructor
  · intro more
    have some_ : 0 < (new.filter (like (rolePattern second.2))).length := by omega
    obtain ⟨role,member⟩ := List.exists_mem_of_length_pos some_
    obtain ⟨inside,matched⟩ := List.mem_filter.mp member
    exact ⟨role,roles ▸ List.mem_append_right _ inside,absent_ role inside,matched⟩
  · rintro ⟨role,member,later,matched⟩ none_
    rw [roles] at member
    have inside := (List.mem_append.mp member).resolve_left later
    have some_ := List.length_pos_of_mem (List.mem_filter.mpr ⟨inside,matched⟩)
    omega

theorem separated_iff (h : History) : h.trace.Pairwise Separated ↔
    (h.trace.map fun step => roleName step.2 (step.1.collisions step.2).length).Nodup := by
  have pairs := (trace_extends h h.databases h.distinct h.fresh).2
  rw [List.Nodup,List.pairwise_map]
  constructor
  · intro apart
    exact (pairs.and apart).imp fun both => (names_differ both.1).mpr both.2
  · intro apart
    exact (pairs.and apart).imp fun both => (names_differ both.1).mp both.2

theorem namesFit_of (fits : ∀ step ∈ h.trace, Fits step.1 step.2) (separated : h.trace.Pairwise Separated) :
    h.NamesFit := by
  refine ⟨_,by rw [produced_eq,List.map_map]; rfl,(separated_iff h).mp separated,fun name member => ?_⟩
  obtain ⟨step,inside,rfl⟩ := List.mem_map.mp member
  exact (roleName_short step.1 step.2).mpr (fits step inside)

end

/-- The names are different and fit if and only if at every creation the number of
    roles that match the pattern fits, and after every database that is shortened like
    this one a role has come that the pattern matches. -/
theorem namesFit_iff (h : History) : h.NamesFit ↔
    (∀ step ∈ h.trace, Fits step.1 step.2) ∧ h.trace.Pairwise Separated := by
  constructor
  · rintro ⟨names,produced,distinct,short⟩
    rw [produced_eq] at produced
    have same : names = h.trace.map fun step => roleName step.2 (step.1.collisions step.2).length := by
      have injective : Function.Injective (Except.ok : String → Except Exn String) := fun _ _ => Except.ok.inj
      refine List.map_injective_iff.mpr injective ?_
      rw [← produced,List.map_map]
      rfl
    subst same
    refine ⟨fun step member => (roleName_short step.1 step.2).mp (short _ ?_),(separated_iff h).mpr distinct⟩
    exact List.mem_map.mpr ⟨step,member,rfl⟩
  · rintro ⟨fits,separated⟩
    exact namesFit_of fits separated

/-! ### Names without a backslash -/

/-- Every role of the server that is named for a database without a backslash has a
    number below the next one. -/
def Numbered (w : Server) : Prop :=
  ∀ database, '\\' ∉ shortened database → ∀ number, roleName database number ∈ w.roles →
    number < (w.collisions database).length

section
variable {h : History} {w : Server} {database : String}

/-- Without a backslash the pattern matches the names that are built from it. -/
theorem like_roleName (plain : '\\' ∉ shortened database) (number : Nat) :
    like (rolePattern database) (roleName database number) = true := by
  have pattern : (rolePattern database).toList = ("charmed_dba_".toList ++ shortened database ++ ['_']) ++ ['%'] := by
    have marks : "_%".toList = ['_','%'] ∧ "_".toList = ['_'] := by decide
    have front : "charmed_dba_".toList = "charmed_dba".toList ++ ['_'] := by decide
    simp [rolePattern,marks,front]
  have name : (roleName database number).toList =
      ("charmed_dba_".toList ++ shortened database ++ ['_']) ++ Python.zfill 2 (toString number).toList := by
    simp [roleName_text]
  have unescaped : '\\' ∉ "charmed_dba_".toList ++ shortened database ++ ['_'] := by simp [plain]
  rw [like,decide_eq_true_iff,pattern,name,pieces_unescaped unescaped]
  exact matches_append (matches_spelling _) ⟨_,[],(List.append_nil _).symm,rfl⟩

theorem numbered_created (numbered : Numbered w) (absent_ : database ∉ w.databases) :
    Numbered (h.created w database) := by
  obtain ⟨-,roles⟩ := @created_eq w database h absent_
  intro other plain number member
  by_cases taken : roleName database (w.collisions database).length ∈ w.roles
  · rw [if_pos taken] at roles
    rw [roles] at member
    rw [Server.collisions,roles]
    exact numbered other plain number member
  · rw [if_neg taken] at roles
    rw [roles] at member
    rw [Server.collisions,roles,List.filter_append,List.length_append]
    rcases List.mem_append.mp member with old | new
    · have below := numbered other plain number old
      exact Nat.lt_add_right _ below
    · -- the new role has the number that was next, and its own pattern matches it
      have named := List.mem_singleton.mp new
      obtain ⟨alike,rfl⟩ := roleName_eq_iff.mp named
      have patterns : rolePattern other = rolePattern database := by rw [rolePattern,rolePattern,alike]
      have matched := @like_roleName other plain (w.collisions database).length
      rw [named,patterns,Server.collisions] at matched
      simp [matched,Server.collisions,patterns]

/-- So every database whose shortened name has no backslash is separated from the
    later ones. -/
theorem separated_plain (h : History) (databases : List String) (distinct : databases.Nodup)
    (fresh : ∀ database ∈ databases, database ∉ w.databases)
    (plain : ∀ database ∈ databases, '\\' ∉ shortened database) (numbered : Numbered w) :
    (h.traceFrom w databases).Pairwise Separated := by
  induction databases generalizing w with
  | nil => exact .nil
  | cons database rest ih =>
    obtain ⟨other,distinct⟩ := List.nodup_cons.mp distinct
    have absent_ : database ∉ w.databases := fresh database (List.mem_cons_self ..)
    obtain ⟨-,roles⟩ := @created_eq w database h absent_
    have later : ∀ d ∈ rest, d ∉ (h.created w database).databases := fresh_created other fresh
    have unescaped := plain database (List.mem_cons_self ..)
    have new : roleName database (w.collisions database).length ∉ w.roles := by
      intro taken
      exact absurd (numbered database unescaped _ taken) (Nat.lt_irrefl _)
    rw [if_neg new] at roles
    refine List.pairwise_cons.mpr ⟨fun step member alike => ?_,ih distinct later
      (fun d member => plain d (List.mem_cons_of_mem _ member)) (numbered_created numbered absent_)⟩
    obtain ⟨more,extended,-⟩ := (trace_extends h rest distinct later).1 step member
    refine ⟨roleName database (w.collisions database).length,?_,new,?_⟩
    · rw [extended,roles]
      simp
    · have pattern : rolePattern step.2 = rolePattern database := by
        rw [rolePattern,rolePattern,show shortened step.2 = shortened database from alike.symm]
      rw [pattern]
      exact like_roleName unescaped _

end

/-- Names without a backslash in their first characters get different roles, which fit
    as long as there are not too many of them. -/
theorem namesFit_plain (h : History) (numbered : Numbered h.initial)
    (plain : ∀ database ∈ h.databases, '\\' ∉ shortened database) (fits : ∀ step ∈ h.trace, Fits step.1 step.2) :
    h.NamesFit :=
  namesFit_of fits (separated_plain h h.databases h.distinct h.fresh plain numbered)

/-! ### A name that is given twice -/

/-- The roles that the charm creates on a new server. -/
def newServer : Server :=
  ⟨[],["charmed_backup","charmed_dba","charmed_ddl","charmed_dml","charmed_read","charmed_router","charmed_stats"],
   [],[],[]⟩

/-- The databases of two archives, with a backslash in their names. -/
def archives : History where
  attempt := ⟨⟨"cluster",[]⟩,fun _ => none,true⟩
  calm _ := rfl
  host := .host "10.0.0.1"
  initial := newServer
  databases := ["logs\\2024-archive-a","logs\\2024-archive-b"]
  distinct := by decide
  fresh := by decide
  valid := by decide

/-- The pattern takes the backslash for an escape and misses the first role. -/
theorem archives_share : ¬ archives.NamesFit := by
  rintro ⟨names,produced,distinct,-⟩
  have twice : archives.produced =
      ["charmed_dba_logs\\2024-archive_00","charmed_dba_logs\\2024-archive_00"].map .ok := by decide +kernel
  rw [twice] at produced
  have injective : Function.Injective (Except.ok : String → Except Exn String) := fun _ _ => Except.ok.inj
  rw [← List.map_injective_iff.mpr injective produced] at distinct
  revert distinct
  decide

end MysqlOperators.RoleNames
