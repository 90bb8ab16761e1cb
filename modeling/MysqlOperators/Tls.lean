import MysqlOperators.KeyRotation
import MysqlOperators.Quiet

/-!
TLS: the managers of the client and the peer certificates, and the handlers of their
certificate-available and relation-broken events.
-/
namespace MysqlOperators.Tls
open MysqlOperators.Program MysqlOperators.Program.Prog MysqlOperators.External MysqlOperators.Clients
open MysqlOperators.Workload MysqlOperators.Helpers MysqlOperators.RollingOps
open MysqlOperators.Quiet
open MysqlOperators.KeyRotation (TLSType PeerStateApp.buildSecretUriKey)

/-! ### The client -/

namespace InstanceClient

/-- The variables that `set_client_tls` and `set_group_tls` set to the paths of the CA,
    the certificate and the key. -/
structure PathVariables where
  ca : String
  cert : String
  key : String

def clientVariables : PathVariables := ⟨"ssl_ca","ssl_cert","ssl_key"⟩
def groupVariables : PathVariables :=
  ⟨"group_replication_recovery_ssl_ca","group_replication_recovery_ssl_cert","group_replication_recovery_ssl_key"⟩

def persist (name value : String) : Hook Unit := ask (.persistVariable .own name value)

def setClientTls (caPath certPath keyPath : String) (enable : Bool) : Hook Unit := do
  persist clientVariables.ca caPath
  persist clientVariables.cert certPath
  persist clientVariables.key keyPath
  persist "require_secure_transport" (if enable then "ON" else "OFF")
  ask (.reloadCertificates .own)

def setGroupTls (caPath certPath keyPath : String) (enable : Bool) : Hook Unit := do
  persist groupVariables.ca caPath
  persist groupVariables.cert certPath
  persist groupVariables.key keyPath
  persist "group_replication_recovery_use_ssl" (if enable then "ON" else "OFF")
  persist "group_replication_ssl_mode" (if enable then "REQUIRED" else "DISABLED")

def killClientSessions : Hook Unit := do
  let procs ← ask (.searchProcesses .own)
  ask (.stopProcesses .own procs)

end InstanceClient

/-! ### The managers -/

namespace TLSManager

def caFileName : String := "custom-ca.pem"
def certFileName : String := "custom-server-cert.pem"
def privateKeyFileName : String := "custom-server-key.pem"

def path (s : Substrate) (tls : TLSType) (fileName : String) : String :=
  mysqlData s ++ "/" ++ tls.value ++ "_" ++ fileName

/-- What the three `save_*` methods do with their own file. -/
def save (s : Substrate) (tls : TLSType) (fileName : String) (data : Option String) : Hook (Option String) :=
  match nonEmpty data with
  | none => pure none
  | some text => do
    ask (.writeText (path s tls fileName) text)
    pure (some (path s tls fileName))

def saveCa (s : Substrate) (tls : TLSType) (ca : Option String) : Hook (Option String) := save s tls caFileName ca

def saveCert (s : Substrate) (tls : TLSType) (cert : Option String) : Hook (Option String) :=
  save s tls certFileName cert

def savePrivateKey (s : Substrate) (tls : TLSType) (key : Option String) : Hook (Option String) :=
  save s tls privateKeyFileName key

def enable (tls : TLSType) (caPath certPath keyPath : String) : Hook Unit :=
  match tls with
  | .client => do
    InstanceClient.setClientTls caPath certPath keyPath true
    InstanceClient.killClientSessions
  | .peer => InstanceClient.setGroupTls caPath certPath keyPath true

def disable (tls : TLSType) : Hook Unit :=
  match tls with
  | .client => do
    InstanceClient.setClientTls "" "" "" false
    InstanceClient.killClientSessions
  | .peer => InstanceClient.setGroupTls "" "" "" false

def deletePrivateKeyUri (tls : TLSType) : Hook Unit :=
  ask (.deleteAppData (PeerStateApp.buildSecretUriKey tls.value))

end TLSManager

/-! ### The handlers -/

def relationName : TLSType → String
  | .client => "client-certificates"
  | .peer => "peer-certificates"

/-- `str(path)`. -/
def pathText : Option String → String
  | none => "None"
  | some path => path

/-- The data of the provider. -/
structure TLSData where
  ca : Option String
  cert : Option String
  key : Option String
deriving DecidableEq, Repr

def TLSData.ofAssigned (assigned : Option (String × String) × Option String) : TLSData :=
  ⟨assigned.1.map Prod.fst,assigned.1.map Prod.snd,assigned.2⟩

def getTlsData (tls : TLSType) : Hook TLSData := do
  let assigned ← ask (.assignedCertificates (relationName tls))
  pure (TLSData.ofAssigned assigned)

def saveFiles (s : Substrate) (tls : TLSType) (data : TLSData) : Hook (String × String × String) := do
  let caPath ← TLSManager.saveCa s tls data.ca
  let certPath ← TLSManager.saveCert s tls data.cert
  let keyPath ← TLSManager.savePrivateKey s tls data.key
  pure (pathText caPath,pathText certPath,pathText keyPath)

namespace TLSEventHandler

def onCertificateAvailable (tls : TLSType) (charm : Charm) : Hook Unit := do
  if ← ServerService.running charm.substrate then
    setUnitStatus (.maintenance "Enabling TLS")
    let data ← getTlsData tls
    (saveFiles charm.substrate tls data).tryElse Exn.isPebbleError (fun _ => ask .defer) fun (ca,cert,key) =>
      (TLSManager.enable tls ca cert key).tryElse Exn.isRuntimeError
        (fun _ => setUnitStatus (.blocked "Failed to enable TLS"))
        (fun _ => do setUnitStatus (← buildUnitStatus))
  else ask .defer

def onRelationBroken (tls : TLSType) (charm : Charm) : Hook Unit := do
  if ← ServerService.running charm.substrate then
    setUnitStatus (.maintenance "Disabling TLS")
    (TLSManager.disable tls).tryElse Exn.isRuntimeError
      (fun _ => setUnitStatus (.blocked "Failed to disable TLS"))
      fun _ => do
        if ← isLeader then TLSManager.deletePrivateKeyUri tls
        setUnitStatus (← buildUnitStatus)
  else ask .defer

end TLSEventHandler

/-- `RollingHelper.cluster_callback`. -/
def clusterCallback : String := "replication"

def TLSClientEventHandler.onCertificateAvailable (charm : Charm) : Hook Unit :=
  TLSEventHandler.onCertificateAvailable .client charm

def TLSPeerEventHandler.onCertificateAvailable (charm : Charm) : Hook Unit := do
  TLSEventHandler.onCertificateAvailable .peer charm
  ask (.requestLock clusterCallback)

/-- Which handler observes certificate-available. -/
def onCertificateAvailable : TLSType → Charm → Hook Unit
  | .client => TLSClientEventHandler.onCertificateAvailable
  | .peer => TLSPeerEventHandler.onCertificateAvailable

/-! ### What disabling leaves alone -/

/-- The calls of a handling of relation-broken, apart from the quiet ones. -/
def disables : Call → Bool
  | .persistVariable _ _ _ | .reloadCertificates _ | .searchProcesses _ | .stopProcesses _ _ | .deleteAppData _
  | .defer => true
  | _ => false

theorem avoids_disable {bad : Call → Prop} (free : ∀ c, disables c = true → ¬ bad c) (tls : TLSType) :
    Avoids bad (TLSManager.disable tls) := by
  have set_ (name value : String) : Avoids bad (InstanceClient.persist name value) := avoids_ask (free _ rfl)
  cases tls with
  | client =>
    refine avoids_bind ?_ fun _ => avoids_bind (avoids_ask (free _ rfl)) fun _ => avoids_ask (free _ rfl)
    exact avoids_bind (set_ _ _) fun _ => avoids_bind (set_ _ _) fun _ => avoids_bind (set_ _ _) fun _ =>
      avoids_bind (set_ _ _) fun _ => avoids_ask (free _ rfl)
  | peer =>
    exact avoids_bind (set_ _ _) fun _ => avoids_bind (set_ _ _) fun _ => avoids_bind (set_ _ _) fun _ =>
      avoids_bind (set_ _ _) fun _ => set_ _ _

theorem avoids_onRelationBroken {bad : Call → Prop} (loud : ∀ c, bad c → Loud c)
    (free : ∀ c, disables c = true → ¬ bad c) (tls : TLSType) (charm : Charm) :
    Avoids bad (TLSEventHandler.onRelationBroken tls charm) := by
  have report : Avoids bad (do setUnitStatus (← buildUnitStatus) : Hook Unit) :=
    avoids_mono loud (avoids_bind quiet_buildUnitStatus fun _ => quiet_setUnitStatus _)
  refine avoids_bind (avoids_mono loud (quiet_running _)) fun _ =>
    avoids_ite _ (fun _ => ?_) fun _ => avoids_ask (free _ rfl)
  refine avoids_bind (avoids_mono loud (quiet_setUnitStatus _)) fun _ => ?_
  refine avoids_tryElse (avoids_disable free tls) (fun _ => avoids_mono loud (quiet_setUnitStatus _)) fun _ => ?_
  refine avoids_bind (avoids_mono loud (quiet_ask rfl)) fun _ => ?_
  split
  · exact avoids_bind (avoids_ask (free _ rfl)) fun _ => report
  · exact report

end MysqlOperators.Tls
