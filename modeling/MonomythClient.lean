import MonomythClient.ByteText
import MonomythClient.Numerals
import MonomythClient.KeyedList
import MonomythClient.StandardSort
import MonomythClient.LittleEndian
import MonomythClient.FlatMemory
import MonomythClient.Overlays
import MonomythClient.ProtectedMemory
import MonomythClient.Ia32
import MonomythClient.Sha256
import MonomythClient.BlockStreams
import MonomythClient.CarriedScans
import MonomythClient.PayloadReader
import MonomythClient.CheckedInt32
import MonomythClient.Runs
import MonomythClient.Contests
import MonomythClient.Histories
import MonomythClient.FrontReaders
import MonomythClient.HandoutQueues
import MonomythClient.LoggedMoves
import MonomythClient.Agreements
import MonomythClient.Retries
import MonomythClient.WideNumerals
import MonomythClient.SortedTables
import MonomythClient.BoundedWalks
import MonomythClient.ChainedIndexes
import MonomythClient.ReadFootprints
import MonomythClient.SharedBudgets
import MonomythClient.Gates
import MonomythClient.MulticlassCache
import MonomythClient.MulticlassCacheCodec
import MonomythClient.MulticlassCacheStores
import MonomythClient.MulticlassCacheRoundTrip
import MonomythClient.MulticlassCacheRuns
import MonomythClient.ServerAuthStatsPayload
import MonomythClient.ServerAuthStatsEntries
import MonomythClient.ServerAuthStatsParser
import MonomythClient.ServerAuthStatsSnapshot
import MonomythClient.OpcodeReference
import MonomythClient.MulticlassIdentity
import MonomythClient.ClassDisplay
import MonomythClient.RemoteMulticlassIdentity
import MonomythClient.RemoteIdentityGrammar
import MonomythClient.RemoteIdentityStore
import MonomythClient.MultiPetSpawnObserver
import MonomythClient.PetRoster
import MonomythClient.PetRosterTruth
import MonomythClient.WhoAllResponse
import MonomythClient.WhoAllQueue
import MonomythClient.ServerAuthTraffic
import MonomythClient.TimedCast
import MonomythClient.PacketObserver
import MonomythClient.ServerAuthAuthority
import MonomythClient.ServerAuthFallback
import MonomythClient.TimedCastRuns
import MonomythClient.TimedCastInterrupts
import MonomythClient.TimedCastForeign
import MonomythClient.WorldChanges
import MonomythClient.ClassMaskLeaks
import MonomythClient.WhoAllLabels
import MonomythClient.InstructionLength
import MonomythClient.PatchLength
import MonomythClient.CodePatches
import MonomythClient.Detours
import MonomythClient.PatchRuns
import MonomythClient.PatchEffects
import MonomythClient.PatchCalls
import MonomythClient.PatchConfinement
import MonomythClient.RelocatedBytes
import MonomythClient.PinnedTargets
import MonomythClient.PinnedTargetMatches
import MonomythClient.FileSha256
import MonomythClient.FileSha256Digest
import MonomythClient.Fingerprint
import MonomythClient.LocalPlayer
import MonomythClient.TemporaryClassOverride
import MonomythClient.AuthoritativeEvaluators
import MonomythClient.ClassOverrideFrames
import MonomythClient.StoredManaProbes
import MonomythClient.GainedClassMana
import MonomythClient.ManaPercent
import MonomythClient.SkillsWindowRows
import MonomythClient.LearnedDisciplines
import MonomythClient.CombatAbilitySynthesis
import MonomythClient.CombatAbilityResync
import MonomythClient.SpellTables
import MonomythClient.SpellContest
import MonomythClient.SynthesizedBest
import MonomythClient.DisplayedClassOrder
import MonomythClient.SynthesizedLevels
import MonomythClient.TrainerSessions
import MonomythClient.TrainerTraffic
import MonomythClient.CachePersistence
import MonomythClient.CachedNativeClass
import MonomythClient.ScribePrecheck
import MonomythClient.ScribeEvidence
import MonomythClient.HandEquipment
import MonomythClient.CharSelectCaptions
import MonomythClient.SpellLevelSelection
import MonomythClient.PayloadCursors
import MonomythClient.WhoAllBounds
import MonomythClient.WhoAllHandouts
import MonomythClient.SpawnLayouts
import MonomythClient.UniqueClassMask
import MonomythClient.DeferredRetries
import MonomythClient.CasterWindows
import MonomythClient.IntrospectionAllowlist
import MonomythClient.ServerAuthAccounting
import MonomythClient.OpcodeNames
import MonomythClient.JumpThunks
import MonomythClient.SpawnIdIndex
import MonomythClient.PetInfoChildren
import MonomythClient.ExtraPetDisplay
import MonomythClient.ModuleImages
import MonomythClient.ReceiveDispatchDiscovery
import MonomythClient.DispatcherShape
import MonomythClient.DispatcherReads
import MonomythClient.CorrelationWindows
import MonomythClient.SpellUsabilityDiscovery
import MonomythClient.SpellUsabilityEvidence
import MonomythClient.PinnedCallSites
import MonomythClient.ClassDisplayDiscovery
import MonomythClient.FingerprintEvaluation
import MonomythClient.RuntimeCapabilities
import MonomythClient.DinputProxy
import MonomythClient.DinputProxyRuns
