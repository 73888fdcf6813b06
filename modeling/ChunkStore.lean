import ChunkStore.Chunk.Message
import ChunkStore.Chunk.Node
import ChunkStore.Cli.Args
import ChunkStore.Cli.Commands
import ChunkStore.Cli.Settings
import ChunkStore.Config
import ChunkStore.Decimal.Format
import ChunkStore.Decimal.Parse
import ChunkStore.Decimal.Shortest
import ChunkStore.Error
import ChunkStore.Json.Decode
import ChunkStore.Json.Error
import ChunkStore.Json.Scan
import ChunkStore.Json.Value
import ChunkStore.Json.Codec
import ChunkStore.Link.Signed
import ChunkStore.Main
import ChunkStore.Manifest
import ChunkStore.Rate.Calls
import ChunkStore.Rate.Limiter
import ChunkStore.Rate.Quota
import ChunkStore.Storage.Error
import ChunkStore.Storage.Locks
import ChunkStore.Storage.Memory
import ChunkStore.Storage.Pool
import ChunkStore.Storage.Reader
import ChunkStore.Storage.Refresh
import ChunkStore.Storage.Rest
import ChunkStore.Storage.Callers
import ChunkStore.Storage.Transport
import ChunkStore.Storage.Writer
import ChunkStore.Store.Options
import ChunkStore.Store.Store
import ChunkStore.Store.Renewals
import ChunkStore.Text.Escaped
import ChunkStore.Text.Normal
import ChunkStore.Text.Properties
import ChunkStore.Text.Quoted
import ChunkStore.Text.Spans
import ChunkStore.Text.Utf8
import ChunkStore.Url.Host
import ChunkStore.Url.Idna
import ChunkStore.Url.Mapping
import ChunkStore.Url.Parse
import ChunkStore.Url.Percent
import ChunkStore.Url.Punycode
import ChunkStore.Proofs.Chunking
import ChunkStore.Proofs.Sequential
import ChunkStore.Proofs.Parallel
import ChunkStore.Proofs.Cursor
import ChunkStore.Proofs.RoundTrip
import ChunkStore.Proofs.ReadAt
import ChunkStore.Proofs.Admission
import ChunkStore.Proofs.Exclusion
import ChunkStore.Proofs.Turns
import ChunkStore.Proofs.FormCodec
import ChunkStore.Proofs.QueryAppend
import ChunkStore.Proofs.SignedLinks
import ChunkStore.Proofs.Slots
import ChunkStore.Proofs.Failures
import ChunkStore.Proofs.Renewal
import ChunkStore.Proofs.FaithfulOrigin
import ChunkStore.Proofs.Paging
import ChunkStore.Proofs.QuotaRecord
import ChunkStore.Proofs.ManifestAssembly
import ChunkStore.Proofs.LockBookkeeping
import ChunkStore.Proofs.FetchPlan
import ChunkStore.Proofs.FailedReads
import ChunkStore.Proofs.LinkGrammar
import ChunkStore.Proofs.JsonGrammar
import ChunkStore.Proofs.JsonScanning
import ChunkStore.Proofs.Digits
import ChunkStore.Proofs.JsonDecoding
import ChunkStore.Proofs.JsonValues
import ChunkStore.Proofs.JsonLibrary
import ChunkStore.Proofs.RecordCodecs
import ChunkStore.Proofs.ConfigCodec
import ChunkStore.Proofs.ManifestCommands
import ChunkStore.Proofs.RestRetries
import ChunkStore.Proofs.OffsetTable
import ChunkStore.Proofs.BucketKeys
import ChunkStore.Proofs.Rotation
import ChunkStore.Proofs.LoneCaller
