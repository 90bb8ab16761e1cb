import MysqlOperators.Databases

/-!
The server that databases are created on, with the roles that go with them. Every
call to it may fail, and one that fails may have done a part of its work.
-/
namespace MysqlOperators.DatabaseServer
open MysqlOperators.Program MysqlOperators.Program.Prog MysqlOperators.External MysqlOperators.Clients
open MysqlOperators.Wildcards MysqlOperators.Databases

/-! ### The server -/

/-- The databases, the roles, the databases that the reader and the writer role of the
    instance have their grants on, and each administrator role with its database. -/
structure Server where
  databases : List String
  roles : List String
  readers : List String
  writers : List String
  admins : List (String × String)
deriving DecidableEq, Repr

/-- `name LIKE pattern`. -/
def like (pattern name : String) : Bool := decide (Matches (pieces pattern.toList) name.toList)

/-- The statements of a query, in order. -/
def statements : Query → List Query
  | .joined first rest => statements first ++ statements rest
  | query => [query]

namespace Server
variable (w : Server)

/-- A role cannot be created twice. -/
def statement : Query → Except Exn Server
  | .readerRoleUpdate database => .ok { w with readers := w.readers ++ [database] }
  | .writerRoleUpdate database => .ok { w with writers := w.writers ++ [database] }
  | .adminRole role database =>
    if role ∈ w.roles then .error ⟨.executionError,"Operation CREATE ROLE failed"⟩
    else .ok { w with roles := w.roles ++ [role], admins := w.admins ++ [(role,database)] }
  | _ => .ok w

/-- The first statement that fails ends the execution. -/
def execute (w : Server) : List Query → Except Exn (List String) × Server
  | [] => (.ok [],w)
  | query :: rest =>
    match w.statement query with
    | .ok next => next.execute rest
    | .error e => (.error e,w)

def withDatabase (database : String) : Server :=
  { w with databases := if database ∈ w.databases then w.databases else w.databases ++ [database] }

/-- What a call does to the server, as far as it gets: whether a database is created,
    and how many statements are executed. -/
def after (w : Server) (done : Nat) : Call → Server
  | .createDatabase _ database => if done = 0 then w else w.withDatabase database
  | .executeSql _ query => (w.execute ((statements query).take done)).2
  | _ => w

end Server

/-! ### An attempt -/

/-- A failure with the part of the work that was done. -/
structure Fault where
  exn : Exn
  done : Nat

/-- The status of the cluster-set, the call that fails, if any, and whether a database
    that exists may be created again. -/
structure Attempt where
  report : ClusterSetReport
  fault : Call → Option Fault
  strict : Bool

namespace Attempt
variable (a : Attempt)

def answer (w : Server) (c : Call) : Except Exn (Reply c) × Server :=
  match c with
  | .searchDatabases _ => (.ok w.databases,w)
  | .clusterSetStatus _ => (.ok a.report,w)
  | .createDatabase _ database =>
    if a.strict ∧ database ∈ w.databases then (.error ⟨.executionError,"database exists"⟩,w)
    else (.ok (),w.withDatabase database)
  | .searchRoles _ pattern => (.ok (w.roles.filter (like pattern)),w)
  | .executeSql _ query => w.execute (statements query)
  | _ => (.ok default,w)

def respond (w : Server) (c : Call) : Except Exn (Reply c) × Server :=
  match a.fault c with
  | some fault => (.error fault.exn,w.after fault.done c)
  | none => a.answer w c

end Attempt

/-! ### The name of a role -/

/-- The part of a database's name that fits into the name of its role. -/
def shortened (database : String) : List Char := database.toList.take 17

/-- The pattern for the roles of a database. -/
def rolePattern (database : String) : String := "charmed_dba" ++ "_" ++ String.ofList (shortened database) ++ "_%"

/-- The roles that the pattern matches. -/
def Server.collisions (w : Server) (database : String) : List String := w.roles.filter (like (rolePattern database))

/-- The name with a number. -/
def roleName (database : String) (number : Nat) : String :=
  "charmed_dba" ++ "_" ++ String.ofList (shortened database) ++ "_" ++
    String.ofList (Python.zfill 2 (toString number).toList)

theorem buildDatabaseDbaRole_eq (at_ : Target) (database : String) :
    InstanceClient.buildDatabaseDbaRole at_ database = (do
      let collisions ← ask (.searchRoles at_ (rolePattern database))
      pure (roleName database collisions.length)) := rfl

section
variable {a : Attempt} {w : Server}

/-- The name is built from the number of roles that the pattern matches. -/
theorem buildDatabaseDbaRole_run (at_ : Target) (database : String)
    (searched : a.fault (.searchRoles at_ (rolePattern database)) = none) :
    run a.respond (InstanceClient.buildDatabaseDbaRole at_ database) w =
      (.ok (roleName database (w.collisions database).length),w) := by
  have answered : a.respond w (.searchRoles at_ (rolePattern database)) = (.ok (w.collisions database),w) := by
    simp only [Attempt.respond,searched]
    rfl
  rw [buildDatabaseDbaRole_eq,run_bind,run_perform,answered]
  rfl

theorem buildDatabaseDbaRole_fails (at_ : Target) (database : String) {fault : Fault}
    (failed : a.fault (.searchRoles at_ (rolePattern database)) = some fault) :
    run a.respond (InstanceClient.buildDatabaseDbaRole at_ database) w = (.error fault.exn,w) := by
  have answered : a.respond w (.searchRoles at_ (rolePattern database)) = (.error fault.exn,w) := by
    simp only [Attempt.respond,failed]
    rfl
  rw [buildDatabaseDbaRole_eq,run_bind,run_perform,answered]

end

end MysqlOperators.DatabaseServer
