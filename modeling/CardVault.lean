import CardVault.Lib.Prog
import CardVault.Lib.Runs
import CardVault.Lib.Plans
import CardVault.Lib.Table
import CardVault.Lib.Faults
import CardVault.Lib.Replay
import CardVault.Lib.Text
import CardVault.Lib.Traces
import CardVault.Lib.Outcomes
import CardVault.Storage.Types
import CardVault.Storage.PartitionKey
import CardVault.Error
import CardVault.ApiError
import CardVault.Crypto.Aes
import CardVault.Crypto.Base64
import CardVault.Storage.Pg
import CardVault.Storage.Backend
import CardVault.Kv.Wrapper
import CardVault.Kv.Resource
import CardVault.Kv.Impls
import CardVault.Kv.ReverseLookup
import CardVault.Storage.Db
import CardVault.Domain
import CardVault.Storage.Protocol
import CardVault.System
import CardVault.Settle
import CardVault.Upsert
import CardVault.Rows
import CardVault.Isolation
import CardVault.SoftKill
import CardVault.Shadow
import CardVault.Deletion
import CardVault.RedisKeys
import CardVault.Custodian
import CardVault.Unlock
import CardVault.AfterUnlock
import CardVault.KeyManager.Store
import CardVault.KeyManager.Provider
import CardVault.KeyManager.Race
import CardVault.KeyManager.Legacy
import CardVault.Replica
import CardVault.WithoutKv
import CardVault.KeyManager.Replica
import CardVault.Lag
import CardVault.Concurrent.Writes
import CardVault.Concurrent.VaultCalls
import CardVault.Concurrent.Deleted
import CardVault.Concurrent.Converge
import CardVault.Concurrent.LockerLookup
import CardVault.Dedup.Call
import CardVault.Dedup.Runs
import CardVault.Absence
import CardVault.Failed.Calls
import CardVault.Failed.Helpers
import CardVault.Failed.Mutations
import CardVault.Failed.Inserts
import CardVault.Failed.Deletes
import CardVault.Failed.Told
import CardVault.Failed.Acknowledged
import CardVault.Lib.Histories
import CardVault.Lib.Interpret
import CardVault.Caching.Wrappers
import CardVault.Caching.Transparent
import CardVault.RuntimeConfig
import CardVault.Api.App
import CardVault.Caching.Storage
import CardVault.Api.Cards
import CardVault.Api.KeyHolders
import CardVault.Api.Lockers
import CardVault.Api.Adds
import CardVault.Api.FreshAdd
import CardVault.Lib.Numerals
import CardVault.Lib.Utf8
import CardVault.Lib.Json
import CardVault.Lib.Calendar
import CardVault.Crypto.Envelope
import CardVault.Crypto.Jw
import CardVault.KeyCeremony
import CardVault.FailedUnlock
import CardVault.KeyManager.Wire
import CardVault.Api.Validations
import CardVault.Api.Identity
import CardVault.Storage.Serialized
import CardVault.LookupSound
import CardVault.Kv.SerializableQuery
import CardVault.TenantKeys
import CardVault.Sharded
import CardVault.Expiry.Fresh
import CardVault.Contents.Interfaces
import CardVault.Contents.KeyCalls
import CardVault.Contents.Answers
import CardVault.Server.Tenants
import CardVault.Server.Client
import CardVault.KeyManager.Migration
