import MysqlOperators.Config
import MysqlOperators.LogRotation
import Mathlib.Data.List.Sort
import Mathlib.Data.String.Basic

/-!
The Pebble layer of the server on Kubernetes. Pebble restarts the server when the
environment in its layer changes. With a proxy the environment has the sorted entries of
the setting for hosts without proxy and the domain of the cluster; without one it has the
setting as it is.
-/
namespace MysqlOperators.ServiceLayer
open MysqlOperators.Config (Value)
open MysqlOperators.External (Substrate)
open MysqlOperators.Workload (mysqlData mysqlLogs)

/-! ### The layer -/

/-- The variables of the charm's process, where Juju sets them. -/
structure ProxySettings where
  http : Option String
  https : Option String
  noProxy : Option String
deriving DecidableEq, Repr

/-- `os.getenv(name, "")`. -/
def getenv (setting : Option String) : String := setting.getD ""

abbrev Environment := List (String × String)

/-- `environment[key] = value`; a key that is there keeps its place. -/
def setItem : Environment → String → String → Environment
  | [], key, value => [(key,value)]
  | item :: rest, key, value => if item.1 = key then (key,value) :: rest else item :: setItem rest key value

/-- `[entry.strip() for entry in setting.split(",")]`. -/
def entries (setting : String) : List String :=
  (Python.split ',' setting.toList).map (fun entry => String.ofList (Python.strip Python.isSpace entry))

def internalDomain : String := ".svc.cluster.local"

/-- `",".join(sorted(entries))`. -/
def joined (entries : List String) : String := ",".intercalate (entries.insertionSort (· ≤ ·))

/-- `_generate_layer_env`. -/
def generateLayerEnv (p : ProxySettings) : Environment :=
  let externalHttpProxy := getenv p.http
  let externalHttpsProxy := getenv p.https
  let internalProxy := getenv p.noProxy
  let environment := []
  let environment := if externalHttpProxy ≠ "" then setItem environment "HTTP_PROXY" externalHttpProxy else environment
  let environment :=
    if externalHttpsProxy ≠ "" then setItem environment "HTTPS_PROXY" externalHttpsProxy else environment
  let environment := if internalProxy ≠ "" then setItem environment "NO_PROXY" internalProxy else environment
  if externalHttpProxy ≠ "" ∨ externalHttpsProxy ≠ "" then
    setItem environment "NO_PROXY" (joined (entries internalProxy ++ [internalDomain]))
  else environment

structure Service where
  summary : String
  override : String
  command : String
  startup : String
  user : Option String
  group : Option String
  after : List String
  requires : List String
  killDelay : Option String
  environment : List (String × Value)
deriving DecidableEq, Repr

structure Layer where
  summary : String
  description : String
  services : List (String × Service)
deriving DecidableEq, Repr

def mysqlPlugins : String := "/usr/lib/mysql/plugin"

def daemonCommand : String := " ".intercalate
  ["/usr/sbin/mysqld",
   "--basedir=/usr",
   "--datadir=" ++ mysqlData .k8s,
   "--plugin-dir=" ++ mysqlPlugins,
   "--log-error=" ++ mysqlLogs .k8s ++ "/error.log"]

def loggingCommand : String := " ".intercalate
  ["/usr/bin/tail",
   "--follow=name",
   "--retry",
   mysqlLogs .k8s ++ "/error.log"]

def daemon (environment : List (String × Value)) : Service where
  summary := "MySQL daemon"
  override := "replace"
  command := daemonCommand
  startup := "enabled"
  user := some (LogRotation.user .k8s)
  group := some (LogRotation.group .k8s)
  after := ["logs"]
  requires := ["logs"]
  killDelay := some "24h"
  environment := environment

def logs : Service where
  summary := "MySQL daemon tail logs"
  override := "replace"
  command := loggingCommand
  startup := "enabled"
  user := none
  group := none
  after := []
  requires := []
  killDelay := none
  environment := []

/-- `_create_layer`. -/
def createLayer (p : ProxySettings) : Layer where
  summary := "MySQL server layer"
  description := "Layer for the MySQL server service"
  services :=
    [(Workload.ServerService.name,
        daemon (("MYSQLD_PARENT_PID",.int 1) :: (generateLayerEnv p).map (fun item => (item.1,.text item.2)))),
     ("logs",logs)]

/-- The layers differ only where the environments do. -/
theorem createLayer_eq_iff (p q : ProxySettings) :
    createLayer p = createLayer q ↔ generateLayerEnv p = generateLayerEnv q := by
  refine ⟨fun same => ?_,fun same => by rw [createLayer,createLayer,same]⟩
  have injective : Function.Injective (fun item : String × String => (item.1,Value.text item.2)) := by
    rintro ⟨key,value⟩ ⟨key',value'⟩ equal
    simpa using equal
  refine List.map_injective_iff.mpr injective ?_
  simpa [createLayer,daemon] using same

/-! ### What is listed -/

/-- The entries of a setting that are not blank. -/
def listed (setting : String) : List String := (entries setting).filter (· ≠ "")

/-- Two settings have the same entries up to order, surrounding blanks and empty entries. -/
def SameEntries (setting setting' : String) : Prop := (listed setting).Perm (listed setting')

def Blank (setting : String) : Prop := "" ∈ entries setting

instance (setting setting' : String) : Decidable (SameEntries setting setting') :=
  inferInstanceAs (Decidable (List.Perm _ _))

instance (setting : String) : Decidable (Blank setting) := inferInstanceAs (Decidable ("" ∈ _))

/-- `value.split(",")`. -/
def splitEntries (value : String) : List String := (Python.split ',' value.toList).map String.ofList

theorem entries_plain {setting entry : String} (member : entry ∈ entries setting) : ',' ∉ entry.toList := by
  obtain ⟨part,inside,rfl⟩ := List.mem_map.mp member
  rw [String.toList_ofList]
  exact fun comma => Python.split_parts_plain inside (Python.mem_of_mem_strip comma)

theorem splitEntries_intercalate {parts : List String} (plain : ∀ part ∈ parts, ',' ∉ part.toList)
    (nonempty : parts ≠ []) : splitEntries (",".intercalate parts) = parts := by
  have comma : ",".toList = [','] := by decide
  rw [splitEntries,String.toList_intercalate,comma,Python.split_intercalate]
  · simp
  · simpa using plain
  · simpa using nonempty

/-- The entries can be read back, in their order. -/
theorem splitEntries_joined {parts : List String} (plain : ∀ part ∈ parts, ',' ∉ part.toList)
    (nonempty : parts ≠ []) : splitEntries (joined parts) = parts.insertionSort (· ≤ ·) := by
  refine splitEntries_intercalate (fun part member => plain part ((List.mem_insertionSort _).mp member)) ?_
  intro empty
  exact nonempty (List.perm_nil.mp (empty ▸ (List.perm_insertionSort _ parts).symm))

/-- The order of the entries does not matter. -/
theorem joined_perm {parts parts' : List String} (same : parts.Perm parts') : joined parts = joined parts' := by
  have sorted : parts.insertionSort (· ≤ ·) = parts'.insertionSort (· ≤ ·) := by
    have perm := (List.perm_insertionSort (· ≤ ·) parts).trans
      (same.trans (List.perm_insertionSort (· ≤ ·) parts').symm)
    exact perm.eq_of_pairwise (fun a b _ _ => le_antisymm) (List.pairwise_insertionSort _ _)
      (List.pairwise_insertionSort _ _)
  rw [joined,joined,sorted]

theorem listed_of_not_blank {setting : String} (full : ¬ Blank setting) : listed setting = entries setting :=
  List.filter_eq_self.mpr fun entry member => by
    have other : entry ≠ "" := fun empty => full (by rw [Blank,← empty]; exact member)
    simpa using other

/-! ### The environment -/

/-- A proxy is set. -/
def Proxied (http https : Option String) : Prop := getenv http ≠ "" ∨ getenv https ≠ ""

instance (http https : Option String) : Decidable (Proxied http https) := inferInstanceAs (Decidable (_ ∨ _))

/-- An item, where its value is not empty. -/
def itemOf (key value : String) : Environment := if value ≠ "" then [(key,value)] else []

variable {http https : Option String}

theorem generateLayerEnv_eq (p : ProxySettings) : generateLayerEnv p =
    itemOf "HTTP_PROXY" (getenv p.http) ++ itemOf "HTTPS_PROXY" (getenv p.https) ++
      if Proxied p.http p.https then [("NO_PROXY",joined (entries (getenv p.noProxy) ++ [internalDomain]))]
      else itemOf "NO_PROXY" (getenv p.noProxy) := by
  by_cases first : getenv p.http = "" <;> by_cases second : getenv p.https = "" <;>
    by_cases third : getenv p.noProxy = "" <;>
    simp [generateLayerEnv,Proxied,itemOf,setItem,first,second,third]

theorem noProxy_proxied {p : ProxySettings} (proxied : Proxied p.http p.https) :
    (generateLayerEnv p).lookup "NO_PROXY" = some (joined (entries (getenv p.noProxy) ++ [internalDomain])) := by
  rw [generateLayerEnv_eq,if_pos proxied,itemOf,itemOf]
  split <;> split <;> rfl

/-- Nothing is lost of an item. -/
theorem itemOf_inj {key value value' : String} : itemOf key value = itemOf key value' ↔ value = value' := by
  refine ⟨fun same => ?_,fun same => by rw [same]⟩
  by_cases first : value = "" <;> by_cases second : value' = "" <;> simp_all [itemOf]

/-- The entries for hosts without proxy are those of the setting and the domain of the
    cluster, none of them empty. -/
def Complete (p : ProxySettings) : Prop :=
  ∃ value, (generateLayerEnv p).lookup "NO_PROXY" = some value ∧
    (splitEntries value).Perm (listed (getenv p.noProxy) ++ [internalDomain]) ∧ "" ∉ splitEntries value

theorem splitEntries_noProxy (setting : String) :
    (splitEntries (joined (entries setting ++ [internalDomain]))).Perm (entries setting ++ [internalDomain]) := by
  have plain : ∀ part ∈ entries setting ++ [internalDomain], ',' ∉ part.toList := by
    intro part member
    rcases List.mem_append.mp member with listed | domain
    · exact entries_plain listed
    · rw [List.mem_singleton.mp domain]
      decide
  rw [splitEntries_joined plain (by simp)]
  exact List.perm_insertionSort _ _

theorem complete_iff_full {p : ProxySettings} (proxied : Proxied p.http p.https) :
    Complete p ↔ ¬ Blank (getenv p.noProxy) := by
  have read := splitEntries_noProxy (getenv p.noProxy)
  constructor
  · rintro ⟨value,found,-,full⟩ blank
    rw [noProxy_proxied proxied,Option.some.injEq] at found
    exact full (found ▸ read.mem_iff.mpr (List.mem_append_left _ blank))
  · intro full
    refine ⟨_,noProxy_proxied proxied,by rw [listed_of_not_blank full]; exact read,fun empty => ?_⟩
    rcases List.mem_append.mp (read.mem_iff.mp empty) with blank | domain
    · exact full blank
    · revert domain
      decide

/-- Settings with the same entries give the same environment, and with a proxy the
    environment lists the entries of its setting. -/
structure Stable (http https noProxy noProxy' : Option String) : Prop where
  same : SameEntries (getenv noProxy) (getenv noProxy') →
    generateLayerEnv ⟨http,https,noProxy⟩ = generateLayerEnv ⟨http,https,noProxy'⟩
  complete : Proxied http https → Complete ⟨http,https,noProxy⟩ ∧ Complete ⟨http,https,noProxy'⟩

/-- With a proxy, blank entries stay in the environment; without one, the setting is not
    brought into order. -/
theorem stable_iff (http https noProxy noProxy' : Option String) : Stable http https noProxy noProxy' ↔
    Proxied http https ∧ ¬ Blank (getenv noProxy) ∧ ¬ Blank (getenv noProxy') ∨
    ¬ Proxied http https ∧
      (getenv noProxy = getenv noProxy' ∨ ¬ SameEntries (getenv noProxy) (getenv noProxy')) := by
  by_cases proxied : Proxied http https
  · have complete (setting : Option String) : Complete ⟨http,https,setting⟩ ↔ ¬ Blank (getenv setting) :=
      complete_iff_full proxied
    simp only [proxied,true_and,not_true,false_and,or_false]
    constructor
    · rintro ⟨-,lists⟩
      exact ⟨(complete _).mp (lists proxied).1,(complete _).mp (lists proxied).2⟩
    · rintro ⟨full,full'⟩
      refine ⟨fun same => ?_,fun _ => ⟨(complete _).mpr full,(complete _).mpr full'⟩⟩
      have lists : (entries (getenv noProxy) ++ [internalDomain]).Perm
          (entries (getenv noProxy') ++ [internalDomain]) := by
        rw [← listed_of_not_blank full,← listed_of_not_blank full']
        exact same.append_right _
      rw [generateLayerEnv_eq,generateLayerEnv_eq,if_pos proxied,if_pos proxied,joined_perm lists]
  · have unchanged : generateLayerEnv ⟨http,https,noProxy⟩ = generateLayerEnv ⟨http,https,noProxy'⟩ ↔
        getenv noProxy = getenv noProxy' := by
      rw [generateLayerEnv_eq,generateLayerEnv_eq,if_neg proxied,if_neg proxied,List.append_cancel_left_eq,itemOf_inj]
    simp only [proxied,false_and,not_false_eq_true,true_and,false_or]
    constructor
    · rintro ⟨same,-⟩
      by_cases listed : SameEntries (getenv noProxy) (getenv noProxy')
      · exact .inl (unchanged.mp (same listed))
      · exact .inr listed
    · intro either
      refine ⟨fun listed => ?_,fun set => absurd set proxied⟩
      exact unchanged.mpr (either.resolve_right (not_not_intro listed))

/-- Two hosts in the other order, without a proxy; and a proxy with no hosts set. -/
theorem not_stable_reordered : ¬ Stable none none (some "a,b") (some "b,a") ∧
    ¬ Stable (some "http://proxy:3128") none none none := by
  refine ⟨fun stable => ?_,fun stable => ?_⟩
  · exact absurd (stable.same (by decide +kernel)) (by decide +kernel)
  · have proxied : Proxied (some "http://proxy:3128") none := .inl (by decide)
    exact (complete_iff_full proxied).mp (stable.complete proxied).1 (by decide +kernel)

end MysqlOperators.ServiceLayer
