import MysqlOperators.DatabaseServer
import Mathlib.Data.List.Induction

/-!
Attempts to create one database. Each of them may fail at any call, the calls after a
failure are not made, and the next attempt starts on the server that is left.
-/
namespace MysqlOperators.DatabaseRetries
open MysqlOperators.Program MysqlOperators.Program.Prog MysqlOperators.External MysqlOperators.Clients
open MysqlOperators.Databases MysqlOperators.DatabaseServer

/-! ### Attempts -/

/-- The database exists, an administrator role has its grants on it, and the roles of
    the instance have theirs. -/
def Complete (database : String) (w : Server) : Prop :=
  database ∈ w.databases ∧ (∃ role ∈ w.roles, (role,database) ∈ w.admins) ∧ database ∈ w.readers ∧ database ∈ w.writers

/-- How an attempt ends, and the server that it leaves. -/
def attempted (database : String) (w : Server) (a : Attempt) : Except Exn Unit × Server :=
  run a.respond (DatabaseManager.createDatabase database) w

/-- The server after a sequence of attempts. -/
def afterAttempts (database : String) (w : Server) (attempts : List Attempt) : Server :=
  attempts.foldl (fun v a => (attempted database v a).2) w

/-- Whenever an attempt returns, everything is there. -/
def Retried (database : String) (w : Server) (attempts : List Attempt) : Prop :=
  ∀ before a later, attempts = before ++ a :: later →
    (attempted database (afterAttempts database w before) a).1 = .ok () →
      Complete database (attempted database (afterAttempts database w before) a).2

/-- The attempt gets the databases, and finds the one that it is to create. -/
def Lists (database : String) (w : Server) (a : Attempt) : Prop :=
  a.fault (.searchDatabases .own) = none ∧ database ∈ w.databases ∧ database ∉ InstanceClient.systemDatabases

/-! ### One attempt -/

section
variable {database : String} {w : Server} {a : Attempt}

theorem fetchDatabases_run (a : Attempt) (w : Server) : run a.respond InstanceClient.fetchDatabases w =
    match a.fault (.searchDatabases .own) with
    | some fault => (.error fault.exn,w)
    | none => (.ok (w.databases.filter (fun d => !InstanceClient.systemDatabases.contains d)),w) := by
  simp only [InstanceClient.fetchDatabases,run_bind,run_perform,Attempt.respond]
  cases a.fault (.searchDatabases .own) with
  | none => rfl
  | some fault => rfl

/-- An attempt that lists the database does nothing. -/
theorem attempted_lists (lists : Lists database w a) : attempted database w a = (.ok (),w) := by
  obtain ⟨searched,exists_,own⟩ := lists
  have listed := fetchDatabases_run a w
  rw [searched] at listed
  have found : (w.databases.filter (fun d => !InstanceClient.systemDatabases.contains d)).contains database = true := by
    simp [exists_,own]
  simp only [attempted,DatabaseManager.createDatabase,run_bind,listed,found,if_true]
  rfl

/-- The statements leave the grants behind once they all succeed. -/
theorem executed_complete {v : Server} {role : String} {result : List String}
    (done : v.execute [.readerRoleUpdate database,.writerRoleUpdate database,.adminRole role database] = (.ok result,w))
    (exists_ : database ∈ v.databases) : Complete database w := by
  by_cases taken : role ∈ v.roles
  · simp [Server.execute,Server.statement,taken] at done
  · simp only [Server.execute,Server.statement,taken,if_false,Prod.mk.injEq] at done
    rw [← done.2]
    exact ⟨exists_,⟨role,by simp,by simp⟩,by simp,by simp⟩

/-- A creation that returns has made everything. -/
theorem created_complete {at_ : Target} {v : Server}
    (returns : run a.respond (InstanceClient.createDatabase at_ database) v = (.ok (),w)) : Complete database w := by
  rw [InstanceClient.createDatabase] at returns
  obtain ⟨_,v₁,made,rest⟩ := run_bind_eq_ok a.respond returns
  obtain ⟨role,v₂,named,rest⟩ := run_bind_eq_ok a.respond rest
  obtain ⟨result,v₃,granted,rest⟩ := run_bind_eq_ok a.respond rest
  cases rest
  rw [run_perform] at made granted
  have exists_ : database ∈ v₁.databases := by
    simp only [Attempt.respond] at made
    split at made
    · cases made
    · simp only [Attempt.answer] at made
      split at made
      · cases made
      · cases made
        by_cases there : database ∈ v.databases
        · simp [Server.withDatabase,there]
        · simp [Server.withDatabase,there]
  have same : v₂ = v₁ := by
    cases searched : a.fault (.searchRoles at_ (rolePattern database)) with
    | none =>
      rw [buildDatabaseDbaRole_run at_ database searched] at named
      cases named
      rfl
    | some fault =>
      rw [buildDatabaseDbaRole_fails at_ database searched] at named
      cases named
  subst same
  simp only [Attempt.respond] at granted
  split at granted
  · cases granted
  · exact executed_complete granted exists_

/-- An attempt that returns has listed the database or made everything. -/
theorem attempted_returns (returns : (attempted database w a).1 = .ok ()) :
    Lists database w a ∨ Complete database (attempted database w a).2 := by
  have ran : attempted database w a = (.ok (),(attempted database w a).2) := Prod.ext returns rfl
  generalize (attempted database w a).2 = v at ran ⊢
  rw [attempted,DatabaseManager.createDatabase] at ran
  obtain ⟨databases,v₁,fetched,rest⟩ := run_bind_eq_ok a.respond ran
  rw [fetchDatabases_run] at fetched
  split at fetched
  · cases fetched
  · rename_i searched
    obtain ⟨rfl,rfl⟩ : w.databases.filter (fun d => !InstanceClient.systemDatabases.contains d) = databases ∧
        w = v₁ := by simpa using fetched
    split at rest
    · rename_i listed
      refine .inl ⟨searched,?_⟩
      simpa using listed
    · obtain ⟨host,v₂,-,rest⟩ := run_bind_eq_ok a.respond rest
      exact .inr (created_complete rest)

end

/-- Every attempt that returns leaves everything behind if and only if no attempt
    lists the database while something of it is missing. -/
theorem retried_iff (database : String) (w : Server) (attempts : List Attempt) : Retried database w attempts ↔
    ∀ before a later, attempts = before ++ a :: later → Lists database (afterAttempts database w before) a →
      Complete database (afterAttempts database w before) := by
  constructor
  · intro retried before a later split_ lists
    have unchanged := attempted_lists lists
    have complete := retried before a later split_ (by rw [unchanged])
    rwa [unchanged] at complete
  · intro listed before a later split_ returns
    rcases attempted_returns returns with lists | complete
    · have complete := listed before a later split_ lists
      rwa [attempted_lists lists]
    · exact complete

/-! ### Attempts that do not break off -/

/-- The database is not there with something missing. -/
def Settled (database : String) (w : Server) : Prop := database ∈ w.databases → Complete database w

/-- Once the database is created, nothing fails and the name of the role is free. -/
def Unbroken (database : String) (w : Server) (a : Attempt) : Prop :=
  roleName database (w.collisions database).length ∉ w.roles ∧ ∀ at_,
    (∀ fault, a.fault (.createDatabase at_ database) = some fault → fault.done = 0) ∧
      a.fault (.searchRoles at_ (rolePattern database)) = none ∧ ∀ query, a.fault (.executeSql at_ query) = none

section
variable {database : String} {w : Server} {a : Attempt}

theorem primaryHost_run (a : Attempt) (w : Server) :
    ∃ r, run a.respond DatabaseManager.primaryHost w = (r,w) := by
  rw [DatabaseManager.primaryHost_eq,run_bind,run_perform,Attempt.respond]
  cases a.fault (.clusterSetStatus .own) with
  | none => exact ⟨DatabaseManager.primaryIn a.report,by simp only [Attempt.answer,run_ofExcept]⟩
  | some fault => exact ⟨_,rfl⟩

/-- The creation makes everything or nothing. -/
theorem settled_created (at_ : Target) (settled : Settled database w) (unbroken : Unbroken database w a) :
    Settled database (run a.respond (InstanceClient.createDatabase at_ database) w).2 := by
  obtain ⟨free,calm⟩ := unbroken
  obtain ⟨early,searched,executed⟩ := calm at_
  rw [InstanceClient.createDatabase,run_bind,run_perform,Attempt.respond]
  cases made : a.fault (.createDatabase at_ database) with
  | some fault =>
    have nothing : w.after fault.done (.createDatabase at_ database) = w := by simp [Server.after,early fault made]
    simpa only [nothing] using settled
  | none =>
    by_cases refused : a.strict = true ∧ database ∈ w.databases
    · simpa only [Attempt.answer,if_pos refused] using settled
    · simp only [Attempt.answer,if_neg refused]
      have named := @buildDatabaseDbaRole_run a (w.withDatabase database) at_ database searched
      have same : (w.withDatabase database).collisions database = w.collisions database := rfl
      rw [same] at named
      simp only [run_bind,named,run_perform,Attempt.respond,executed,Attempt.answer]
      intro _
      have there : database ∈ (w.withDatabase database).databases := by
        by_cases there : database ∈ w.databases
        · simp [Server.withDatabase,there]
        · simp [Server.withDatabase,there]
      have done : ∃ result v, (w.withDatabase database).execute [.readerRoleUpdate database,.writerRoleUpdate database,
          .adminRole (roleName database (w.collisions database).length) database] = (.ok result,v) := by
        have free' : roleName database (w.collisions database).length ∉ (w.withDatabase database).roles := free
        simp [Server.execute,Server.statement,free']
      obtain ⟨result,v,done⟩ := done
      have listed : statements (.joined (.readerRoleUpdate database) (.joined (.writerRoleUpdate database)
          (.adminRole (roleName database (w.collisions database).length) database))) = [.readerRoleUpdate database,
            .writerRoleUpdate database,.adminRole (roleName database (w.collisions database).length) database] := rfl
      rw [listed,done]
      exact executed_complete done there

theorem settled_attempted (settled : Settled database w) (unbroken : Unbroken database w a) :
    Settled database (attempted database w a).2 := by
  rw [attempted,DatabaseManager.createDatabase,run_bind,fetchDatabases_run]
  cases a.fault (.searchDatabases .own) with
  | some fault => exact settled
  | none =>
    simp only
    split
    · exact settled
    · obtain ⟨r,found⟩ := primaryHost_run a w
      rw [run_bind,found]
      cases r with
      | error e => exact settled
      | ok host => exact settled_created (.host host) settled unbroken

/-- Attempts that do not break off can be retried. -/
theorem retried_unbroken (settled : Settled database w) (attempts : List Attempt)
    (unbroken : ∀ before a later, attempts = before ++ a :: later →
      Unbroken database (afterAttempts database w before) a) : Retried database w attempts := by
  have settled_before : ∀ before later, attempts = before ++ later →
      Settled database (afterAttempts database w before) := by
    intro before
    induction before using List.reverseRecOn with
    | nil => exact fun _ _ => settled
    | append_singleton before a ih =>
      intro later split_
      rw [List.append_assoc] at split_
      rw [afterAttempts,List.foldl_append]
      exact settled_attempted (ih _ split_) (unbroken before a later split_)
  intro before a later split_ returns
  rcases attempted_returns returns with lists | complete
  · have settled' := settled_before before _ split_
    rw [attempted_lists lists]
    exact settled' lists.2.1
  · exact complete

end

/-! ### An attempt that breaks off -/

/-- A server without databases. -/
def emptyServer : Server := ⟨[],["charmed_read","charmed_dml","charmed_dba"],[],[],[]⟩

def status : ClusterSetReport := ⟨"cluster",[("cluster",⟨"OK",some "10.0.0.1:3306"⟩)]⟩

/-- The connection is lost after the database has been created. -/
def brokenOff : Attempt where
  report := status
  fault
    | .searchRoles _ _ => some ⟨⟨.executionError,"Lost connection to MySQL server"⟩,0⟩
    | _ => none
  strict := true

/-- Nothing fails. -/
def undisturbed : Attempt := ⟨status,fun _ => none,true⟩

/-- The second attempt returns, and there is no role. -/
theorem retry_skips : ¬ Retried "app" emptyServer [brokenOff,undisturbed] := by
  intro retried
  have returns : (attempted "app" (afterAttempts "app" emptyServer [brokenOff]) undisturbed).1 = .ok () := by
    decide +kernel
  obtain ⟨-,⟨role,-,granted⟩,-⟩ := retried [brokenOff] undisturbed [] rfl returns
  have none_ : (attempted "app" (afterAttempts "app" emptyServer [brokenOff]) undisturbed).2.admins = [] := by
    decide +kernel
  rw [none_] at granted
  cases granted

end MysqlOperators.DatabaseRetries
