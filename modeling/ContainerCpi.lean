import ContainerCpi.Json.Basic
import ContainerCpi.Json.Print
import ContainerCpi.Json.Read
import ContainerCpi.Json.Decode
import ContainerCpi.Net.Address
import ContainerCpi.Net.Prefix
import ContainerCpi.Net.Url
import ContainerCpi.Director.Error
import ContainerCpi.Director.Ids
import ContainerCpi.Director.Network
import ContainerCpi.Director.AgentEnv
import ContainerCpi.Text.Basic
import ContainerCpi.Text.Utf8
import ContainerCpi.Text.RangeTable
import ContainerCpi.Text.Debug
import ContainerCpi.Text.Letters
import ContainerCpi.Data.Sorted
import ContainerCpi.Archive.Tar
import ContainerCpi.Time.Duration
import ContainerCpi.Engine.Error
import ContainerCpi.Engine.Platform
import ContainerCpi.Cloud.Error
import ContainerCpi.Cloud.InitSystem
import ContainerCpi.Engine.Hosts
import ContainerCpi.Cloud.Endpoints
import ContainerCpi.Engine.Shape
import ContainerCpi.Engine.Models
import ContainerCpi.Engine.Spec
import ContainerCpi.Engine.Call
import ContainerCpi.Engine.Memory
import ContainerCpi.Http.Message
import ContainerCpi.Http.Target
import ContainerCpi.Engine.Wire
import ContainerCpi.Engine.Scripted
import ContainerCpi.Cloud.Props
import ContainerCpi.Cloud.Resources
import ContainerCpi.Cloud.Monad
import ContainerCpi.Cloud.Files
import ContainerCpi.Cloud.AgentEnvFile
import ContainerCpi.Cloud.Locator
import ContainerCpi.Cloud.Disks
import ContainerCpi.Cloud.Networking
import ContainerCpi.Cloud.InitProbe
import ContainerCpi.Cloud.Vm
import ContainerCpi.Cloud.Create
import ContainerCpi.Config.Settings
import ContainerCpi.Engine.WorkDir
import ContainerCpi.Engine.Discovery
import ContainerCpi.Config.Logging
import ContainerCpi.Regex.Syntax
import ContainerCpi.Regex.Parse
import ContainerCpi.Regex.Properties
import ContainerCpi.Regex.Check
import ContainerCpi.Config.Filter
import ContainerCpi.Text.Similarity
import ContainerCpi.Cli.Args
import ContainerCpi.Service.Request
import ContainerCpi.Service.Dispatch
import ContainerCpi.Cli.Command
import ContainerCpi.Service.Diagnostics
import ContainerCpi.Main
import ContainerCpi.Proofs.Data.SortedMaps
import ContainerCpi.Proofs.Engine.Objects
import ContainerCpi.Proofs.Cloud.Run
import ContainerCpi.Proofs.Cloud.Files
import ContainerCpi.Proofs.Vm.DiskChange
import ContainerCpi.Proofs.Vm.Creation
import ContainerCpi.Proofs.Text.Search
import ContainerCpi.Proofs.Vm.Deletion
import ContainerCpi.Proofs.Engine.Binds
import ContainerCpi.Proofs.Cloud.Networks
import ContainerCpi.Proofs.Net.Render
import ContainerCpi.Proofs.Cloud.Refusals
import ContainerCpi.Proofs.Cloud.Endpoints
import ContainerCpi.Proofs.Cloud.Disks
import ContainerCpi.Proofs.Cloud.Provenance
import ContainerCpi.Proofs.Service.Phases
import ContainerCpi.Proofs.Archive.RoundTrip
import ContainerCpi.Proofs.Cloud.Copies
import ContainerCpi.Proofs.Vm.StateFiles
import ContainerCpi.Proofs.Vm.Launch
import ContainerCpi.Proofs.Cloud.Adoption
import ContainerCpi.Proofs.Cloud.NetworkSetup
import ContainerCpi.Proofs.Director.AgentEnvText
import ContainerCpi.Proofs.Vm.Assembly
import ContainerCpi.Proofs.Vm.Created
import ContainerCpi.Proofs.Engine.PlatformLabel
import ContainerCpi.Proofs.Text.Utf8
import ContainerCpi.Proofs.Cloud.Transfers
import ContainerCpi.Proofs.Cloud.Validation
import ContainerCpi.Proofs.Cloud.Acceptance
import ContainerCpi.Proofs.Vm.BindList
import ContainerCpi.Proofs.Text.Decimal
import ContainerCpi.Proofs.Cloud.InitDetection
import ContainerCpi.Proofs.Engine.Discovery
import ContainerCpi.Proofs.Net.Prefixes
import ContainerCpi.Proofs.Net.AddressText
import ContainerCpi.Proofs.Director.Subnet
import ContainerCpi.Proofs.Vm.KillRetry
import ContainerCpi.Proofs.Cloud.CpuSets
import ContainerCpi.Proofs.Vm.NodeAffinity
import ContainerCpi.Proofs.Vm.QuietChange
import ContainerCpi.Proofs.Vm.DiskRuns
