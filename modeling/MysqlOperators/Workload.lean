import MysqlOperators.Clients

/-!
The services of the workload: MySQL Server and its exporter, on machines (snap) and
on Kubernetes (Pebble). Both substrates run the same steps under one name; where
they differ, the substrate selects the branch.
-/
namespace MysqlOperators.Workload
open MysqlOperators.Program MysqlOperators.Program.Prog MysqlOperators.External

/-! ### Paths -/

def commonDir : Substrate → String
  | .vm => "/var/snap/charmed-mysql/common"
  | .k8s => ""
def mysqlData (s : Substrate) : String := commonDir s ++ "/var/lib/mysql/data"
def mysqlLogs (s : Substrate) : String := commonDir s ++ "/var/lib/mysql/logs"
def mysqlTemp (s : Substrate) : String := commonDir s ++ "/var/lib/mysql/temp"
def mysqlConfigInit : Substrate → String
  | .vm => "/var/snap/charmed-mysql/current/etc/mysql/mysql.conf.d/z-init-mysqld.cnf"
  | .k8s => "/etc/mysql/mysql.conf.d/z-init-mysqld.cnf"
def mysqlConfigDefault : Substrate → String
  | .vm => "/var/snap/charmed-mysql/current/etc/mysql/mysql.cnf"
  | .k8s => "/etc/mysql/my.cnf"
def mysqlSocket (s : Substrate) : String := commonDir s ++ "/var/run/mysqld/mysqld.sock"
def backupPlugins : Substrate → String
  | .vm => "/snap/charmed-mysql/current/usr/lib/xtrabackup/plugin"
  | .k8s => "/usr/lib64/xtrabackup/plugin"
def binary : Substrate → String → String
  | .vm, command => "/snap/bin/charmed-mysql." ++ command
  | .k8s, command => "/usr/bin/" ++ command
def operatorUserFile : Substrate → String
  | .vm => "/var/snap/charmed-mysql/common/operator-user.sql"
  | .k8s => "/home/mysql/operator-user.sql"
def exporterFile : String := "/home/mysql/exporter.env"

/-- `system.ready`. -/
def systemReady : Substrate → Hook Bool
  | .vm => pure true
  | .k8s => ask .canConnect

namespace ServerService

def name : String := "mysqld"
def port : Nat := 3306

def running : Substrate → Hook Bool
  | .vm => do
    if ← ask .snapPresent then ask .snapServiceActive else pure false
  | .k8s => do
    if ← ask .canConnect then
      match ← ask (.serviceRunning name) with
      | none => pure false
      | some b => pure b
    else pure false

/-- Whether `find` lists a data file. -/
def hasDataFiles (s : Substrate) : Hook Bool := do
  let dataFiles ← ask (.executeSync (.findDataFiles (mysqlData s)))
  pure (dataFiles.length > 0)

def initialized : Substrate → Hook Bool
  | .vm => hasDataFiles .vm
  | .k8s => do
    if ← ask .canConnect then hasDataFiles .k8s else pure false

def start : Substrate → Hook Unit
  | .vm => do
    if ← ask .snapPresent then
      ask (.snapStart name)
      ask (.waitForConnection port)
    else raise ⟨.runtimeError,"Snap charmed-mysql not installed"⟩
  | .k8s => do
    ask (.addLayer name)
    ask (.containerStart name)
    ask (.waitForConnection port)

def stop : Substrate → Hook Unit
  | .vm => do
    if ← ask .snapPresent then ask (.snapStop name)
    else raise ⟨.runtimeError,"Snap charmed-mysql not installed"⟩
  | .k8s => do
    ask (.addLayer name)
    ask (.containerStop name)

def shell (command : Command) : Hook Unit := do
  let _ ← ask (.executeSync command)

def resetDirectories : Substrate → Hook Unit
  | .vm => [mysqlData .vm,mysqlLogs .vm,mysqlTemp .vm].forM fun path => do
    shell (.changeOwner "snap_daemon:root" path)
    shell (.deleteContents path)
  | .k8s => [mysqlData .k8s,mysqlLogs .k8s,mysqlTemp .k8s].forM fun path => shell (.deleteContents path)

def initDirectories (s : Substrate) : Hook Unit :=
  shell (.initializeServer ((match s with
    | .vm => ["/snap/bin/charmed-mysql.mysqld-initialize"]
    | .k8s => ["/usr/sbin/mysqld","--initialize","--user=mysql"]) ++ [
    "--datadir=" ++ mysqlData s,
    "--innodb-log-group-home-dir=" ++ mysqlLogs s,
    "--innodb-undo-directory=" ++ mysqlLogs s,
    "--innodb-temp-tablespaces-dir=" ++ mysqlTemp s]))

/-- The statements that the server runs at its first start. -/
def operatorUserSql (username password : String) : String :=
  "\n".intercalate [
    "CREATE USER '" ++ username ++ "'@'%' IDENTIFIED BY '" ++ password ++ "';",
    "GRANT ALL ON *.* TO '" ++ username ++ "'@'%' WITH GRANT OPTION;"]

def setOperatorUser (s : Substrate) (username password : String) : Hook Unit := do
  ask (.writeText (operatorUserFile s) (operatorUserSql username password))
  ask (.writeText (mysqlConfigInit s) ("[mysqld]\ninit_file = " ++ operatorUserFile s))
  (do start s; stop s : Hook Unit).finallyDo do
    ask (.unlink (operatorUserFile s))
    ask (.unlink (mysqlConfigInit s))

def setup (s : Substrate) (username password : String) : Hook Unit := do
  resetDirectories s
  initDirectories s
  setOperatorUser s username password

end ServerService

namespace ExporterService

def name : String := "mysqld-exporter"
def port : Nat := 9104

def setup (s : Substrate) (username password : String) : Hook Unit :=
  match s with
  | .vm => do
    if ← ask .snapPresent then ask (.snapSet username password)
    else raise ⟨.runtimeError,"Snap charmed-mysql not installed"⟩
  | .k8s => ask (.writeJson exporterFile [("username",username),("password",password)])

def start : Substrate → Hook Unit
  | .vm => do
    if ← ask .snapPresent then
      ask (.snapStart name)
      ask (.waitForConnection port)
    else raise ⟨.runtimeError,"Snap charmed-mysql not installed"⟩
  | .k8s => do
    let _ ← ask (.readJson exporterFile)
    ask (.addLayer name)
    ask (.containerStart name)
    ask (.waitForConnection port)

def stop : Substrate → Hook Unit
  | .vm => do
    if ← ask .snapPresent then ask (.snapStop name)
    else raise ⟨.runtimeError,"Snap charmed-mysql not installed"⟩
  | .k8s => do
    let _ ← ask (.readJson exporterFile)
    ask (.addLayer name)
    ask (.containerStop name)

end ExporterService

end MysqlOperators.Workload
