import DovecotCeph.Lib.Run
import DovecotCeph.Librmb.NamespaceManager
import DovecotCeph.Lib.Text
import DovecotCeph.Lib.CheckThenAct
import DovecotCeph.Lib.Rewrite
import DovecotCeph.Librmb.NamespaceRace
import DovecotCeph.Storage.MailUser
import DovecotCeph.Storage.MailboxDelete
import DovecotCeph.Librmb.CephConfig
import DovecotCeph.Librmb.Dictionary
import DovecotCeph.Librmb.CephIndex
import DovecotCeph.DictRados
import DovecotCeph.Storage.OpenConnection
import DovecotCeph.Storage.CheckIndices
import DovecotCeph.Storage.Save
import DovecotCeph.Storage.SaveWrite
import DovecotCeph.Storage.SaveChunks
import DovecotCeph.Storage.SaveCommit
import DovecotCeph.Storage.SaveStream
import DovecotCeph.Storage.AltStorage
import DovecotCeph.Librmb.RadosUtil
import DovecotCeph.Storage.Rebuild
import DovecotCeph.Storage.RebuildPass
import DovecotCeph.Storage.RebuildOrphans
import DovecotCeph.Storage.RebuildForced
import DovecotCeph.Storage.Corrupted
import DovecotCeph.Storage.RebuildKept
import DovecotCeph.Storage.CephIndexRuns
import DovecotCeph.Storage.CephIndexRace
import DovecotCeph.Storage.MetadataContext
import DovecotCeph.Storage.Sync
import DovecotCeph.Storage.SyncEnd
import DovecotCeph.DictRados.Iterate
import DovecotCeph.DictRados.Transaction
import DovecotCeph.Lib.Json
import DovecotCeph.Librmb.MetadataStorage
import DovecotCeph.Librmb.MetadataRace
import DovecotCeph.Storage.SaveMetadata
import DovecotCeph.Storage.SyncUpdates
import DovecotCeph.Storage.Keywords
import DovecotCeph.Storage.UpdateFlags
import DovecotCeph.Storage.MailIdentity
import DovecotCeph.Storage.UidAttribute
import DovecotCeph.Storage.ChunkWriters
import DovecotCeph.Librmb.CephIndexLog
import DovecotCeph.Lib.Stream
import DovecotCeph.Librmb.SaveLog
import DovecotCeph.Librmb.RevertLog
import DovecotCeph.Storage.ClusterCount
import DovecotCeph.Librmb.ConfigLoad
import DovecotCeph.Storage.CreateCephIndex
import DovecotCeph.Lib.OrderedMap
import DovecotCeph.Librmb.LsCmdParser
import DovecotCeph.Librmb.RenameUser
import DovecotCeph.Librmb.RmbQuery
import DovecotCeph.Librmb.ImaKeywords
import DovecotCeph.Librmb.UpdateMetadata
import DovecotCeph.DictRados.CommitReport
import DovecotCeph.DictRados.PrefixIterate
import DovecotCeph.Librmb.MoveLog
import DovecotCeph.Librmb.StorageMove
import DovecotCeph.Librmb.ConfigUpdate
import DovecotCeph.Librmb.UnknownOps
import DovecotCeph.Librmb.ConfigRoundTrip
import DovecotCeph.Librmb.LoadObjects
import DovecotCeph.Librmb.DeleteNamespace
import DovecotCeph.Storage.SaveSize
import DovecotCeph.Storage.AssignUids
import DovecotCeph.Storage.ZlibTrailer
import DovecotCeph.Librmb.PgTable
import DovecotCeph.Lib.Replace
import DovecotCeph.Librmb.FindAndReplace
import DovecotCeph.DictRados.InitUri
import DovecotCeph.Storage.RebuildUids
import DovecotCeph.Lib.Interleave
import DovecotCeph.DictRados.Concurrent
import DovecotCeph.DictRados.Users
import DovecotCeph.DictRados.AsyncLookups
import DovecotCeph.Lib.ThreadPool
import DovecotCeph.Librmb.FindMails
import DovecotCeph.Storage.MailboxHeader
import DovecotCeph.Storage.MailboxProcesses
import DovecotCeph.Storage.MailObject
import DovecotCeph.Storage.SaveLocal
import DovecotCeph.Storage.MailboxSessions
