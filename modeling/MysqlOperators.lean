import MysqlOperators.Program
import MysqlOperators.Python
import MysqlOperators.External
import MysqlOperators.Clients
import MysqlOperators.Workload
import MysqlOperators.Helpers
import MysqlOperators.SelfHealing
import MysqlOperators.Scripted
import MysqlOperators.Quiet
import MysqlOperators.Quorum
import MysqlOperators.Outage
import MysqlOperators.Cluster
import MysqlOperators.Passwords
import MysqlOperators.Backup
import MysqlOperators.BackupReport
import MysqlOperators.BackupListing
import MysqlOperators.Lifecycle
import MysqlOperators.FirstStart
import MysqlOperators.Wildcards
import MysqlOperators.DatabaseUsers
import MysqlOperators.Interleaving
import MysqlOperators.Footprint
import MysqlOperators.Forks
import MysqlOperators.Config
import MysqlOperators.MemoryProfile
import MysqlOperators.Publication
import MysqlOperators.RoleLabels
import MysqlOperators.Departure
import MysqlOperators.RollingOps
import MysqlOperators.Restarts
import MysqlOperators.Drift
import MysqlOperators.Databases
import MysqlOperators.Revocation
import MysqlOperators.Requests
import MysqlOperators.Joining
import MysqlOperators.BackupExclusion
import MysqlOperators.Bootstrap
import MysqlOperators.ClusterLock
import MysqlOperators.KeyRotation
import MysqlOperators.ClusterIdentity
import MysqlOperators.Restore
import MysqlOperators.BackupNames
import MysqlOperators.Isolation
import MysqlOperators.PrimaryBackup
import MysqlOperators.Promotion
import MysqlOperators.Address
import MysqlOperators.Dispatchers
import MysqlOperators.ExporterCredentials
import MysqlOperators.Discovery
import MysqlOperators.Topology
import MysqlOperators.RouterRemoval
import MysqlOperators.RequestedRoles
import MysqlOperators.DatabaseServer
import MysqlOperators.RoleNames
import MysqlOperators.DatabaseRetries
import MysqlOperators.Ini
import MysqlOperators.ConfigFile
import MysqlOperators.Reconfiguration
import MysqlOperators.BackupSpecification
import MysqlOperators.Quantities
import MysqlOperators.ContainerRuntime
import MysqlOperators.ClusterSize
import MysqlOperators.OutageStates
import MysqlOperators.SqlText
import MysqlOperators.OperatorUser
import MysqlOperators.Tls
import MysqlOperators.TlsFiles
import MysqlOperators.TlsRestarts
import MysqlOperators.KeyOption
import MysqlOperators.DomainName
import MysqlOperators.AddressDispatcher
import MysqlOperators.LogRotation
import MysqlOperators.FileTrees
import MysqlOperators.Guards
import MysqlOperators.RestoreSafety
import MysqlOperators.Pipelines
import MysqlOperators.Precheck
import MysqlOperators.Validation
import MysqlOperators.CharmOptions
import MysqlOperators.BufferPool
import MysqlOperators.RelationUsers
import MysqlOperators.ServiceLayer
import MysqlOperators.Json
import MysqlOperators.Mappings
import MysqlOperators.RelationStore
import MysqlOperators.RelationEvents
import MysqlOperators.Leadership
import MysqlOperators.HostsFiles
import MysqlOperators.Base64
import MysqlOperators.PrivateKeys
import MysqlOperators.Records
import MysqlOperators.PeerStates
import MysqlOperators.Routing
import MysqlOperators.RollingQueue
import MysqlOperators.BackupWorld
import MysqlOperators.BackupRoundTrip
