import FilterRollout.Api.Answer
import FilterRollout.Api.Collaborators
import FilterRollout.Api.Exchange
import FilterRollout.Api.RequestTarget
import FilterRollout.Api.Script
import FilterRollout.Cache.Event
import FilterRollout.Cache.Location
import FilterRollout.Cache.Registry
import FilterRollout.Cluster.World
import FilterRollout.Decimal.Binary64
import FilterRollout.Decimal.Shortest
import FilterRollout.Duration
import FilterRollout.EnvoyFilter.Basic
import FilterRollout.EnvoyFilter.Build
import FilterRollout.EnvoyFilter.Codec
import FilterRollout.EnvoyFilter.Metadata
import FilterRollout.Error
import FilterRollout.Filter.Image
import FilterRollout.Filter.Spec
import FilterRollout.Json.Basic
import FilterRollout.Json.Document
import FilterRollout.Json.Equality
import FilterRollout.Json.Normal
import FilterRollout.Json.Number
import FilterRollout.Json.Printer
import FilterRollout.Json.Reader
import FilterRollout.Json.Record
import FilterRollout.Logging
import FilterRollout.Release.AbiSupport
import FilterRollout.Release.Image
import FilterRollout.Release.Schema
import FilterRollout.Resource.ApiResource
import FilterRollout.Resource.ConfigMap
import FilterRollout.Resource.LabelSelector
import FilterRollout.Resource.ObjectMeta
import FilterRollout.Resource.PodTemplate
import FilterRollout.Resource.Shape
import FilterRollout.Resource.Shape.Container
import FilterRollout.Resource.Shape.Event
import FilterRollout.Resource.Shape.Metadata
import FilterRollout.Resource.Shape.Pod
import FilterRollout.Resource.Shape.Volume
import FilterRollout.Resource.Shape.Workload
import FilterRollout.Resource.Timestamp
import FilterRollout.Resource.Workload
import FilterRollout.Resource.WorkloadKind
import FilterRollout.Rollout.Basic
import FilterRollout.Rollout.CacheSync
import FilterRollout.Rollout.Call
import FilterRollout.Rollout.Enumeration
import FilterRollout.Rollout.Program
import FilterRollout.Rollout.Run
import FilterRollout.Settings.Basic
import FilterRollout.Settings.Codec
import FilterRollout.Settings.Environment
import FilterRollout.Sidecar.Annotations
import FilterRollout.Sidecar.VolumeList
import FilterRollout.SortedMap
import FilterRollout.Text.Base64
import FilterRollout.Text.Blank
import FilterRollout.Text.CodeTable
import FilterRollout.Text.Form
import FilterRollout.Text.GraphemeExtend
import FilterRollout.Text.Hexadecimal
import FilterRollout.Text.LetterCase.Context
import FilterRollout.Text.LetterCase.Mapping
import FilterRollout.Text.Lowercase
import FilterRollout.Text.Numeral
import FilterRollout.Text.Quoted
import FilterRollout.Text.Split
import FilterRollout.Text.Unprintable
import FilterRollout.Text.Utf8
import FilterRollout.Word
import FilterRollout.Proofs.Program.Exchange
import FilterRollout.Proofs.Rollout.Stages
import FilterRollout.Proofs.Cache.Acknowledgment
import FilterRollout.Proofs.Cache.Registry
import FilterRollout.Proofs.Rollout.Barrier
import FilterRollout.Proofs.Cluster.Enumeration
import FilterRollout.Proofs.Sidecar.Merging
import FilterRollout.Proofs.Rollout.Withdrawal
import FilterRollout.Proofs.Rollout.Deployment
import FilterRollout.Proofs.Rollout.Restoration
import FilterRollout.Proofs.Rollout.Convergence
import FilterRollout.Proofs.Program.Course
import FilterRollout.Proofs.Cache.Course
import FilterRollout.Proofs.Rollout.Order
import FilterRollout.Proofs.Rollout.Completion
import FilterRollout.Proofs.Rollout.Isolation
import FilterRollout.Proofs.Decimal.Rounding
import FilterRollout.Proofs.Decimal.Shortest
import FilterRollout.Proofs.Json.Numerals
import FilterRollout.Proofs.Sidecar.Mounting
import FilterRollout.Proofs.Cluster.Persistence
import FilterRollout.Proofs.Rollout.Operations
import FilterRollout.Proofs.Program.Interleaving
import FilterRollout.Proofs.Cluster.Revisions
import FilterRollout.Proofs.Cache.Publishing
import FilterRollout.Proofs.Sidecar.Edits
import FilterRollout.Proofs.Cluster.Sharing
import FilterRollout.Proofs.Rollout.Contention
import FilterRollout.Proofs.Program.Failure
import FilterRollout.Proofs.Cache.Failure
import FilterRollout.Proofs.Rollout.Provenance
import FilterRollout.Proofs.Sidecar.Union
import FilterRollout.Proofs.Sidecar.Refusal
import FilterRollout.Proofs.Program.Timeline
import FilterRollout.Proofs.Cache.Waiting
import FilterRollout.Proofs.Sidecar.Nesting
import FilterRollout.Proofs.Program.Log
import FilterRollout.Proofs.Rollout.Visiting
import FilterRollout.Proofs.Cache.Accumulation
import FilterRollout.Proofs.Cache.Clearing
import FilterRollout.Proofs.Rollout.Retirement
import FilterRollout.Proofs.Text.Pieces
import FilterRollout.Proofs.Release.Gate
import FilterRollout.Proofs.Release.ImageReference
import FilterRollout.Proofs.Json.Places
import FilterRollout.Proofs.EnvoyFilter.Schemas
import FilterRollout.Proofs.Json.Records
import FilterRollout.Proofs.EnvoyFilter.Wire
import FilterRollout.Proofs.Json.Forms
import FilterRollout.Proofs.Settings.Saving
import FilterRollout.Proofs.Settings.Documents
import FilterRollout.Proofs.Rollout.Matching
import FilterRollout.Proofs.Text.LetterCase
import FilterRollout.Proofs.Settings.Tokens
import FilterRollout.Proofs.Settings.Environment
import FilterRollout.Proofs.Filter.BinaryPath
import FilterRollout.Proofs.Error.Stages
