import Kapsl.Lib.Alignment
import Kapsl.Lib.AtomicFile
import Kapsl.Lib.Attempt
import Kapsl.Lib.Except
import Kapsl.Lib.Fields
import Kapsl.Lib.Frontier
import Kapsl.Lib.Greedy
import Kapsl.Lib.HexText
import Kapsl.Lib.Holdings
import Kapsl.Lib.JsonSchema
import Kapsl.Lib.JsonText
import Kapsl.Lib.KeySort
import Kapsl.Lib.Ledger
import Kapsl.Lib.LexicalPath
import Kapsl.Lib.Lts
import Kapsl.Lib.Patches
import Kapsl.Lib.Recency
import Kapsl.Lib.Sha256
import Kapsl.Lib.Softmax
import Kapsl.Lib.Strided
import Kapsl.Lib.Tiling
import Kapsl.Lib.TriangleWave
import Kapsl.Ort.ActiveRequests
import Kapsl.Ort.Allocator
import Kapsl.Ort.Audio
import Kapsl.Ort.AudioFrames
import Kapsl.Ort.AudioPlan
import Kapsl.Ort.BatchAnswers
import Kapsl.Ort.BatchRows
import Kapsl.Ort.BucketKeys
import Kapsl.Ort.BucketSessions
import Kapsl.Ort.CancelWakeup
import Kapsl.Ort.Classify
import Kapsl.Ort.Conservation
import Kapsl.Ort.DependencyClosure
import Kapsl.Ort.Detect
import Kapsl.Ort.Embedding
import Kapsl.Ort.Forgotten
import Kapsl.Ort.Generation
import Kapsl.Ort.GenerationStream
import Kapsl.Ort.Governed
import Kapsl.Ort.GreedyNms
import Kapsl.Ort.InferBatch
import Kapsl.Ort.LinkedPackages
import Kapsl.Ort.LiveSessions
import Kapsl.Ort.MemoryReport
import Kapsl.Ort.NoticeOrder
import Kapsl.Ort.Notices
import Kapsl.Ort.PackArchive
import Kapsl.Ort.PackContract
import Kapsl.Ort.PackLayout
import Kapsl.Ort.PackPublication
import Kapsl.Ort.PackStreaming
import Kapsl.Ort.Parity
import Kapsl.Ort.ParityGates
import Kapsl.Ort.ReleaseParts
import Kapsl.Ort.RuntimePaths
import Kapsl.Ort.Serving
import Kapsl.Ort.Stranded
import Kapsl.Ort.Transcribe
import Kapsl.Ort.Vision
import Kapsl.Ort.VisionPlan
import Kapsl.Ort.WireTensors
import Kapsl.Ort.ZipDirectory
import Kapsl.Ort.ZipFormat
import Kapsl.Ort.ZipReads
import Kapsl.Ort.ZipRoundTrip
import Kapsl.Vllm.Accepted
import Kapsl.Vllm.AttachmentBounds
import Kapsl.Vllm.BlockPool
import Kapsl.Vllm.CacheGroups
import Kapsl.Vllm.CanonicalGeometry
import Kapsl.Vllm.Certification
import Kapsl.Vllm.CertificationSound
import Kapsl.Vllm.Client
import Kapsl.Vllm.ClientErrors
import Kapsl.Vllm.ClientHandles
import Kapsl.Vllm.Contract
import Kapsl.Vllm.ErrorTaxonomy
import Kapsl.Vllm.FrameChunks
import Kapsl.Vllm.Geometry
import Kapsl.Vllm.GroupBytes
import Kapsl.Vllm.HandleSegments
import Kapsl.Vllm.Heartbeat
import Kapsl.Vllm.HookPatches
import Kapsl.Vllm.LayerIdentity
import Kapsl.Vllm.Leases
import Kapsl.Vllm.LiveResize
import Kapsl.Vllm.LiveResizeInv
import Kapsl.Vllm.LiveResizeSafety
import Kapsl.Vllm.Plan
import Kapsl.Vllm.PlanEmission
import Kapsl.Vllm.PlanSchema
import Kapsl.Vllm.Planning
import Kapsl.Vllm.Publication
import Kapsl.Vllm.RankBinding
import Kapsl.Vllm.RankExtraction
import Kapsl.Vllm.Registration
import Kapsl.Vllm.RegistrationBuilder
import Kapsl.Vllm.ResizeOrdering
import Kapsl.Vllm.SegmentTilings
import Kapsl.Vllm.Sizing
import Kapsl.Vllm.SizingFailures
import Kapsl.Vllm.SizingMonotone
import Kapsl.Vllm.SizingQuantities
import Kapsl.Vllm.StartupWarmup
import Kapsl.Vllm.Vmm
import Kapsl.Vllm.VmmImport
import Kapsl.Vllm.VmmPrefix
import Kapsl.Vllm.VmmRollback
import Kapsl.Vllm.VmmTyped
import Kapsl.Ort.AbiCalls
import Kapsl.Ort.AbiOwnership
import Kapsl.Ort.ReleaseProfile
