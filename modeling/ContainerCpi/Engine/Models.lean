import ContainerCpi.Engine.Shape

/-!
# Engine documents

The shapes of the engine documents this library reads — host configurations, mounts,
endpoint settings, container configurations, inspected containers and the host's own
report — under the engine's own field names, and typed views of the few fields the cloud
operations read and change.  The documents themselves are kept in canonical form
(`Shape.decode`), so a document read from the director or from the engine is passed on
exactly as the engine would see it.
-/

namespace ContainerCpi

namespace Models

open Shape

/-- A device path and a rate. -/
def throttleDevice : Shape := recordOf "ThrottleDevice" [("Path", .string), ("Rate", i64)]

/-- A resource limit of the container's processes. -/
def ulimit : Shape :=
  recordOf "ResourcesUlimits" [("Name", .string), ("Soft", i64), ("Hard", i64)]

/-- A host device made visible in the container. -/
def deviceMapping : Shape :=
  recordOf "DeviceMapping"
    [("PathOnHost", .string), ("PathInContainer", .string), ("CgroupPermissions", .string)]

/-- A request for devices from a device driver. -/
def deviceRequest : Shape :=
  recordOf "DeviceRequest"
    [("Driver", .string), ("Count", i64), ("DeviceIDs", strings),
     ("Capabilities", .list strings), ("Options", stringMap)]

/-- Kinds of mounts. -/
def mountKinds : List String := ["", "bind", "volume", "image", "tmpfs", "npipe", "cluster"]

/-- A mount of a host path, volume, image or memory file system. -/
def mount : Shape :=
  recordOf "Mount"
    [("Target", .string), ("Source", .string), ("Type", .choice mountKinds),
     ("ReadOnly", .bool), ("Consistency", .string),
     ("BindOptions", recordOf "MountBindOptions"
        [("Propagation", .choice ["", "private", "rprivate", "shared", "rshared", "slave", "rslave"]),
         ("NonRecursive", .bool), ("CreateMountpoint", .bool), ("ReadOnlyNonRecursive", .bool),
         ("ReadOnlyForceRecursive", .bool)]),
     ("VolumeOptions", recordOf "MountVolumeOptions"
        [("NoCopy", .bool), ("Labels", stringMap),
         ("DriverConfig", recordOf "MountVolumeOptionsDriverConfig"
            [("Name", .string), ("Options", stringMap)]),
         ("Subpath", .string)]),
     ("ImageOptions", recordOf "MountImageOptions" [("Subpath", .string)]),
     ("TmpfsOptions", recordOf "MountTmpfsOptions"
        [("SizeBytes", i64), ("Mode", i64), ("Options", .list strings)])]

/-- The container's host-side configuration. -/
def hostConfigSlots : List (String × Shape) :=
  [("CpuShares", i64), ("Memory", i64), ("CgroupParent", .string),
   ("BlkioWeight", .int Decoder.IntKind.u16),
   ("BlkioWeightDevice", .list (recordOf "ResourcesBlkioWeightDevice"
      [("Path", .string), ("Weight", .int Decoder.IntKind.usize)])),
   ("BlkioDeviceReadBps", .list throttleDevice), ("BlkioDeviceWriteBps", .list throttleDevice),
   ("BlkioDeviceReadIOps", .list throttleDevice), ("BlkioDeviceWriteIOps", .list throttleDevice),
   ("CpuPeriod", i64), ("CpuQuota", i64), ("CpuRealtimePeriod", i64),
   ("CpuRealtimeRuntime", i64), ("CpusetCpus", .string), ("CpusetMems", .string),
   ("Devices", .list deviceMapping), ("DeviceCgroupRules", strings),
   ("DeviceRequests", .list deviceRequest),
   ("MemoryReservation", i64), ("MemorySwap", i64), ("MemorySwappiness", i64),
   ("NanoCpus", i64), ("OomKillDisable", .bool), ("Init", .bool), ("PidsLimit", i64),
   ("Ulimits", .list ulimit), ("CpuCount", i64), ("CpuPercent", i64),
   ("IOMaximumIOps", i64), ("IOMaximumBandwidth", i64),
   ("Binds", strings), ("ContainerIDFile", .string),
   ("LogConfig", recordOf "HostConfigLogConfig" [("Type", .string), ("Config", stringMap)]),
   ("NetworkMode", .string),
   ("PortBindings", .map (.nullable (.list (recordOf "PortBinding"
      [("HostIp", .string), ("HostPort", .string)])))),
   ("RestartPolicy", recordOf "RestartPolicy"
      [("Name", .choice ["", "no", "always", "unless-stopped", "on-failure"]),
       ("MaximumRetryCount", i64)]),
   ("AutoRemove", .bool), ("VolumeDriver", .string), ("VolumesFrom", strings),
   ("Mounts", .list mount), ("ConsoleSize", .list (.int Decoder.IntKind.usize)),
   ("Annotations", stringMap), ("CapAdd", strings), ("CapDrop", strings),
   ("CgroupnsMode", .choice ["", "private", "host"]), ("Dns", strings),
   ("DnsOptions", strings), ("DnsSearch", strings), ("ExtraHosts", strings),
   ("GroupAdd", strings), ("IpcMode", .string), ("Cgroup", .string), ("Links", strings),
   ("OomScoreAdj", i64), ("PidMode", .string), ("Privileged", .bool),
   ("PublishAllPorts", .bool), ("ReadonlyRootfs", .bool), ("SecurityOpt", strings),
   ("StorageOpt", stringMap), ("Tmpfs", stringMap), ("UTSMode", .string),
   ("UsernsMode", .string), ("ShmSize", i64), ("Sysctls", stringMap), ("Runtime", .string),
   ("Isolation", .choice ["", "default", "process", "hyperv"]), ("MaskedPaths", strings),
   ("ReadonlyPaths", strings)]

/-- The container's host-side configuration as a record. -/
def hostConfig : Shape := recordOf "HostConfig" hostConfigSlots

/-- How a container joins one network. -/
def endpointSettings : Shape :=
  recordOf "EndpointSettings"
    [("IPAMConfig", recordOf "EndpointIpamConfig"
        [("IPv4Address", .string), ("IPv6Address", .string), ("LinkLocalIPs", strings)]),
     ("Links", strings), ("MacAddress", .string), ("Aliases", strings),
     ("DriverOpts", stringMap), ("GwPriority", i64), ("NetworkID", .string),
     ("EndpointID", .string), ("Gateway", .string), ("IPAddress", .string),
     ("IPPrefixLen", i64), ("IPv6Gateway", .string), ("GlobalIPv6Address", .string),
     ("GlobalIPv6PrefixLen", i64), ("DNSNames", strings)]

/-- A container's health check. -/
def healthConfig : Shape :=
  recordOf "HealthConfig"
    [("Test", strings), ("Interval", i64), ("Timeout", i64), ("Retries", i64),
     ("StartPeriod", i64), ("StartInterval", i64)]

/-- The container-side configuration, without host and network settings. -/
def containerConfigSlots : List (String × Shape) :=
  [("Hostname", .string), ("Domainname", .string), ("User", .string),
   ("AttachStdin", .bool), ("AttachStdout", .bool), ("AttachStderr", .bool),
   ("ExposedPorts", .keySet), ("Tty", .bool), ("OpenStdin", .bool), ("StdinOnce", .bool),
   ("Env", strings), ("Cmd", strings), ("Healthcheck", healthConfig), ("ArgsEscaped", .bool),
   ("Image", .string), ("Volumes", .keySet), ("WorkingDir", .string), ("Entrypoint", strings),
   ("NetworkDisabled", .bool), ("MacAddress", .string), ("OnBuild", strings),
   ("Labels", stringMap), ("StopSignal", .string), ("StopTimeout", i64), ("Shell", strings)]

/-- The container-side configuration as the engine reports it. -/
def containerConfig : Shape := recordOf "ContainerConfig" containerConfigSlots

/-- A health check's report. -/
def health : Shape :=
  recordOf "Health"
    [("Status", .choice ["", "none", "starting", "healthy", "unhealthy"]),
     ("FailingStreak", i64),
     ("Log", .list (recordOf "HealthcheckResult"
        [("Start", .string), ("End", .string), ("ExitCode", i64), ("Output", .string)]))]

/-- A container's run state. -/
def containerState : Shape :=
  recordOf "ContainerState"
    [("Status", .choice ["", "created", "running", "paused", "restarting", "removing", "exited",
        "dead"]),
     ("Running", .bool), ("Paused", .bool), ("Restarting", .bool), ("OOMKilled", .bool),
     ("Dead", .bool), ("Pid", i64), ("ExitCode", i64), ("Error", .string),
     ("StartedAt", .string), ("FinishedAt", .string), ("Health", health)]

/-- The platform an image is built for. -/
def ociPlatform : Shape :=
  recordOf "OciPlatform"
    [("architecture", .string), ("os", .string), ("os.version", .string),
     ("os.features", strings), ("variant", .string)]

/-- A descriptor of content by digest. -/
def ociDescriptor : Shape :=
  recordOf "OciDescriptor"
    [("mediaType", .string), ("digest", .string), ("size", i64), ("urls", strings),
     ("annotations", stringMap), ("data", .string), ("platform", ociPlatform),
     ("artifactType", .string)]

/-- A mount as an inspected container reports it. -/
def mountPoint : Shape :=
  recordOf "MountPoint"
    [("Type", .choice mountKinds), ("Name", .string), ("Source", .string),
     ("Destination", .string), ("Driver", .string), ("Mode", .string), ("RW", .bool),
     ("Propagation", .string)]

/-- The storage driver's name and settings. -/
def driverData : Shape :=
  recordNeeding "DriverData" [("Name", .string), ("Data", stringMap)]

/-- The storage of a container's root file system. -/
def storage : Shape :=
  recordOf "Storage"
    [("RootFS", recordOf "RootFsStorage"
        [("Snapshot", recordOf "RootFsStorageSnapshot" [("Name", .string)])])]

/-- Published ports: each container port and the host addresses bound to it. -/
def portMap : Shape :=
  .map (.nullable (.list (recordOf "PortBinding" [("HostIp", .string), ("HostPort", .string)])))

/-- A container's networking as inspected. -/
def networkSettings : Shape :=
  recordOf "NetworkSettings"
    [("SandboxID", .string), ("SandboxKey", .string), ("Ports", portMap),
     ("Networks", .map endpointSettings)]

/-- An inspected container. -/
def inspectResponse : Shape :=
  recordOf "ContainerInspectResponse"
    [("Id", .string), ("Created", .string), ("Path", .string), ("Args", strings),
     ("State", containerState), ("Image", .string), ("ResolvConfPath", .string),
     ("HostnamePath", .string), ("HostsPath", .string), ("LogPath", .string),
     ("Name", .string), ("RestartCount", i64), ("Driver", .string), ("Platform", .string),
     ("ImageManifestDescriptor", ociDescriptor), ("MountLabel", .string),
     ("ProcessLabel", .string), ("AppArmorProfile", .string), ("ExecIDs", strings),
     ("HostConfig", hostConfig), ("GraphDriver", driverData), ("Storage", storage),
     ("SizeRw", i64), ("SizeRootFs", i64), ("Mounts", .list mountPoint),
     ("Config", containerConfig), ("NetworkSettings", networkSettings)]

/-- The version of a swarm object. -/
def objectVersion : Shape := recordOf "ObjectVersion" [("Index", .int Decoder.IntKind.u64)]

/-- A volume's swarm-wide view. -/
def clusterVolume : Shape :=
  recordOf "ClusterVolume"
    [("ID", .string), ("Version", objectVersion), ("CreatedAt", .string),
     ("UpdatedAt", .string), ("Spec", .any), ("Info", .any), ("PublishStatus", .any)]

/-- Settings of a swarm. -/
def swarmSpec : Shape :=
  let u64 := Shape.int Decoder.IntKind.u64
  recordOf "SwarmSpec"
    [("Name", .string), ("Labels", stringMap),
     ("Orchestration", recordOf "SwarmSpecOrchestration" [("TaskHistoryRetentionLimit", i64)]),
     ("Raft", recordOf "SwarmSpecRaft"
        [("SnapshotInterval", u64), ("KeepOldSnapshots", u64),
         ("LogEntriesForSlowFollowers", u64), ("ElectionTick", i64), ("HeartbeatTick", i64)]),
     ("Dispatcher", recordOf "SwarmSpecDispatcher" [("HeartbeatPeriod", i64)]),
     ("CAConfig", recordOf "SwarmSpecCaConfig"
        [("NodeCertExpiry", i64),
         ("ExternalCAs", .list (recordOf "SwarmSpecCaConfigExternalCas"
            [("Protocol", .choice ["", "cfssl"]), ("URL", .string), ("Options", stringMap),
             ("CACert", .string)])),
         ("SigningCACert", .string), ("SigningCAKey", .string), ("ForceRotate", u64)]),
     ("EncryptionConfig", recordOf "SwarmSpecEncryptionConfig" [("AutoLockManagers", .bool)]),
     ("TaskDefaults", recordOf "SwarmSpecTaskDefaults"
        [("LogDriver", recordOf "SwarmSpecTaskDefaultsLogDriver"
            [("Name", .string), ("Options", stringMap)])])]

/-- The swarm this host takes part in. -/
def swarmInfo : Shape :=
  recordOf "SwarmInfo"
    [("NodeID", .string), ("NodeAddr", .string),
     ("LocalNodeState", .choice ["", "inactive", "pending", "active", "error", "locked"]),
     ("ControlAvailable", .bool), ("Error", .string),
     ("RemoteManagers", .list (recordOf "PeerNode" [("NodeID", .string), ("Addr", .string)])),
     ("Nodes", i64), ("Managers", i64),
     ("Cluster", recordOf "ClusterInfo"
        [("ID", .string),
         ("Version", objectVersion),
         ("CreatedAt", .string), ("UpdatedAt", .string), ("Spec", swarmSpec),
         ("TLSInfo", recordOf "TlsInfo"
            [("TrustRoot", .string), ("CertIssuerSubject", .string),
             ("CertIssuerPublicKey", .string)]),
         ("RootRotationInProgress", .bool), ("DataPathPort", .int Decoder.IntKind.u32),
         ("DefaultAddrPool", strings), ("SubnetSize", .int Decoder.IntKind.u32)])]

/-- A source version. -/
def commit : Shape := recordOf "Commit" [("ID", .string)]

/-- Status lines: lists of texts. -/
def statusLines : Shape := .list strings

/-- The host as the engine reports it. -/
def systemInfo : Shape :=
  recordOf "SystemInfo"
    [("ID", .string), ("Containers", i64), ("ContainersRunning", i64),
     ("ContainersPaused", i64), ("ContainersStopped", i64), ("Images", i64),
     ("Driver", .string), ("DriverStatus", statusLines), ("DockerRootDir", .string),
     ("Plugins", recordOf "PluginsInfo"
        [("Volume", strings), ("Network", strings), ("Authorization", strings),
         ("Log", strings)]),
     ("MemoryLimit", .bool), ("SwapLimit", .bool), ("CpuCfsPeriod", .bool),
     ("CpuCfsQuota", .bool), ("CPUShares", .bool), ("CPUSet", .bool), ("PidsLimit", .bool),
     ("OomKillDisable", .bool), ("IPv4Forwarding", .bool), ("Debug", .bool), ("NFd", i64),
     ("NGoroutines", i64), ("SystemTime", .string), ("LoggingDriver", .string),
     ("CgroupDriver", .choice ["", "cgroupfs", "systemd", "none"]),
     ("CgroupVersion", .choice ["", "1", "2"]), ("NEventsListener", i64),
     ("KernelVersion", .string), ("OperatingSystem", .string), ("OSVersion", .string),
     ("OSType", .string), ("Architecture", .string), ("NCPU", i64), ("MemTotal", i64),
     ("IndexServerAddress", .string),
     ("RegistryConfig", recordOf "RegistryServiceConfig"
        [("InsecureRegistryCIDRs", strings),
         ("IndexConfigs", .map (recordOf "IndexInfo"
            [("Name", .string), ("Mirrors", strings), ("Secure", .bool),
             ("Official", .bool)])),
         ("Mirrors", strings)]),
     ("GenericResources", .list (recordOf "GenericResourcesInner"
        [("NamedResourceSpec", recordOf "GenericResourcesInnerNamedResourceSpec"
            [("Kind", .string), ("Value", .string)]),
         ("DiscreteResourceSpec", recordOf "GenericResourcesInnerDiscreteResourceSpec"
            [("Kind", .string), ("Value", i64)])])),
     ("HttpProxy", .string), ("HttpsProxy", .string), ("NoProxy", .string),
     ("Name", .string), ("Labels", strings), ("ExperimentalBuild", .bool),
     ("ServerVersion", .string),
     ("Runtimes", .map (recordOf "Runtime"
        [("path", .string), ("runtimeArgs", strings), ("status", stringMap)])),
     ("DefaultRuntime", .string), ("Swarm", swarmInfo), ("LiveRestoreEnabled", .bool),
     ("Isolation", .choice ["", "default", "hyperv", "process"]), ("InitBinary", .string),
     ("ContainerdCommit", commit), ("RuncCommit", commit), ("InitCommit", commit),
     ("SecurityOptions", strings), ("ProductLicense", .string),
     ("DefaultAddressPools", .list (recordOf "SystemInfoDefaultAddressPools"
        [("Base", .string), ("Size", i64)])),
     ("FirewallBackend", recordOf "FirewallInfo" [("Driver", .string), ("Info", statusLines)]),
     ("DiscoveredDevices", .list (recordOf "DeviceInfo" [("Source", .string), ("ID", .string)])),
     ("NRI", recordOf "NriInfo" [("Info", statusLines)]),
     ("Warnings", strings), ("CDISpecDirs", strings),
     ("Containerd", recordOf "ContainerdInfo"
        [("Address", .string),
         ("Namespaces", recordOf "ContainerdInfoNamespaces"
            [("Containers", .string), ("Plugins", .string)])])]

end Models

/-! ## Typed views -/

/-- A host configuration in canonical form. -/
structure HostConfig where
  fields : List (String × Json)
  deriving Inhabited

/-- A mount in canonical form. -/
structure Mount where
  fields : List (String × Json)
  deriving Inhabited

/-- How a container joins a network, in canonical form. -/
structure EndpointSettings where
  fields : List (String × Json)
  deriving Inhabited

namespace HostConfig

/-- No settings. -/
def empty : HostConfig := ⟨[]⟩

/-- The canonical document. -/
def toJson (h : HostConfig) : Json := .object h.fields

/-- A host configuration from its canonical document. -/
def ofJson (j : Json) : HostConfig := ⟨j.fields?.getD []⟩

/-- Read a host configuration. -/
def decoder : Decoder HostConfig := fun d => (Models.hostConfig.decode d).map ofJson

/-- The value of a setting. -/
def get? (h : HostConfig) (key : String) : Option Json := (h.fields.find? (·.1 == key)).map (·.2)

/-- Change a setting. -/
def set (h : HostConfig) (key : String) (v : Json) : HostConfig :=
  ⟨Json.Fields.set key v h.fields⟩

/-- An integer setting. -/
def int? (h : HostConfig) (key : String) : Option Int := (h.get? key).bind Json.int?

/-- A string setting. -/
def str? (h : HostConfig) (key : String) : Option String := (h.get? key).bind Json.str?

/-- A string-list setting. -/
def strings? (h : HostConfig) (key : String) : Option (List String) :=
  (h.get? key).bind Json.strings?

/-- Memory limit in bytes. -/
def memory? (h : HostConfig) : Option Int := h.int? "Memory"

/-- Memory plus swap limit in bytes. -/
def memorySwap? (h : HostConfig) : Option Int := h.int? "MemorySwap"

/-- Relative CPU weight. -/
def cpuShares? (h : HostConfig) : Option Int := h.int? "CpuShares"

/-- CPU time per period, in microseconds. -/
def cpuQuota? (h : HostConfig) : Option Int := h.int? "CpuQuota"

/-- Length of a CPU period, in microseconds. -/
def cpuPeriod? (h : HostConfig) : Option Int := h.int? "CpuPeriod"

/-- CPUs in units of 10⁻⁹. -/
def nanoCpus? (h : HostConfig) : Option Int := h.int? "NanoCpus"

/-- CPUs the container may use, like `0-3,6`. -/
def cpusetCpus? (h : HostConfig) : Option String := h.str? "CpusetCpus"

/-- Limit on the number of processes. -/
def pidsLimit? (h : HostConfig) : Option Int := h.int? "PidsLimit"

/-- Bind mounts `source:destination[:options]`. -/
def binds? (h : HostConfig) : Option (List String) := h.strings? "Binds"

/-- Replace the bind mounts. -/
def setBinds (h : HostConfig) (binds : List String) : HostConfig := h.set "Binds" (Json.strings binds)

@[simp] theorem binds?_setBinds (h : HostConfig) (binds : List String) :
    (h.setBinds binds).binds? = some binds := by
  simp [binds?, setBinds, strings?, get?, set, Json.Fields.find?_set_self]

/-- Security options. -/
def securityOpt? (h : HostConfig) : Option (List String) := h.strings? "SecurityOpt"

/-- Mounts. -/
def mounts? (h : HostConfig) : Option (List Mount) :=
  (h.get? "Mounts").bind fun j => j.items?.map (·.map fun m => ⟨m.fields?.getD []⟩)

/-- Replace the mounts. -/
def setMounts (h : HostConfig) (ms : List Mount) : HostConfig :=
  h.set "Mounts" (.array (ms.map fun m => .object m.fields))

/-- Process limits as name, soft and hard limit. -/
def ulimits? (h : HostConfig) : Option (List (Option String × Option Int × Option Int)) :=
  (h.get? "Ulimits").bind fun j => j.items?.map (·.map fun u =>
    ((u.field? "Name").bind Json.str?, (u.field? "Soft").bind Json.int?,
     (u.field? "Hard").bind Json.int?))

end HostConfig

namespace Mount

/-- A field of the mount. -/
def get? (m : Mount) (key : String) : Option Json := (m.fields.find? (·.1 == key)).map (·.2)

/-- Change a field of the mount. -/
def set (m : Mount) (key : String) (v : Json) : Mount := ⟨Json.Fields.set key v m.fields⟩

/-- The kind of mount, as written. -/
def kind? (m : Mount) : Option String := (m.get? "Type").bind Json.str?

/-- Where the mount appears in the container. -/
def target? (m : Mount) : Option String := (m.get? "Target").bind Json.str?

/-- What is mounted. -/
def source? (m : Mount) : Option String := (m.get? "Source").bind Json.str?

/-- The size of a memory file system. -/
def tmpfsSize? (m : Mount) : Option Int :=
  ((m.get? "TmpfsOptions").bind (·.field? "SizeBytes")).bind Json.int?

end Mount

namespace EndpointSettings

/-- Settings chosen by the engine. -/
def empty : EndpointSettings := ⟨[]⟩

/-- The canonical document. -/
def toJson (e : EndpointSettings) : Json := .object e.fields

/-- Read endpoint settings. -/
def decoder : Decoder EndpointSettings :=
  fun d => (Models.endpointSettings.decode d).map fun j => ⟨j.fields?.getD []⟩

/-- A fixed address. -/
def ipam? (e : EndpointSettings) (key : String) : Option String :=
  ((e.fields.find? (·.1 == "IPAMConfig")).bind fun (_, j) => j.field? key).bind Json.str?

/-- The fixed IPv4 address. -/
def ipv4Address? (e : EndpointSettings) : Option String := e.ipam? "IPv4Address"

/-- The fixed IPv6 address. -/
def ipv6Address? (e : EndpointSettings) : Option String := e.ipam? "IPv6Address"

/-- The fixed MAC address. -/
def macAddress? (e : EndpointSettings) : Option String :=
  (e.fields.find? (·.1 == "MacAddress")).bind fun (_, j) => j.str?

/-- Settings with the given fixed addresses. -/
def ofAddresses (mac ipv4 ipv6 : Option String) : EndpointSettings :=
  let ipam := ipv4.toList.map (fun a => ("IPv4Address", Json.string a)) ++
    ipv6.toList.map (fun a => ("IPv6Address", Json.string a))
  ⟨(if ipam.isEmpty then [] else [("IPAMConfig", Json.object ipam)]) ++
    mac.toList.map (fun m => ("MacAddress", Json.string m))⟩

end EndpointSettings

end ContainerCpi
