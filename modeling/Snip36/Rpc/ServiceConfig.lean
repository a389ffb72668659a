import Snip36.Rpc.Cors
import Snip36.Running.State
import Snip36.StorageProofs.Provider
import Snip36.Support.Hex
import Snip36.Support.Paths

/-!
# Rpc — the configuration of the service

The service is configured by a JSON file, or else by defaults, and by arguments that go over them.
`ServiceConfig::from_args` merges the two, checks the result and builds the nested configuration.

`fromArgs_spec`: when a configuration is accepted, and that every field of what is accepted is the
argument's where one is given and the file's otherwise.  The check of the fees is on when both leave
it on.  Paths are the same up to repeated separators and dots, as they are for Rust.
-/

namespace Snip36.Rpc
open Support Support.Paths Running

/-! ### The crates of the provers -/

/-- `RpcTransaction`. -/
inductive RpcTransaction (RpcInvokeTransactionV3 : Type) where
  | invoke (tx : RpcInvokeTransactionV3)
  | declare
  | deployAccount

/-- `RpcVirtualBlockExecutorConfig`. -/
structure RpcVirtualBlockExecutorConfig (BouncerConfig : Type) where
  prefetchState : Bool
  bouncerConfig : BouncerConfig
  useLatestVersionedConstants : Bool

/-- `RunnerConfig`. -/
structure RunnerConfig (BouncerConfig : Type) where
  storageProofConfig : StorageProofs.StorageProofConfig
  virtualBlockExecutorConfig : RpcVirtualBlockExecutorConfig BouncerConfig

/-- The types and functions of `starknet_api` and its neighbours that the provers use. -/
structure StarknetApi where
  ChainId : Type
  decEqChainId : DecidableEq ChainId
  ContractAddress : Type
  decEqContractAddress : DecidableEq ContractAddress
  RpcInvokeTransactionV3 : Type
  ContractClassManagerConfig : Type
  BouncerConfig : Type
  /-- `ChainId::from`. -/
  chainIdFrom : String → ChainId
  /-- `ChainId::Mainnet`. -/
  mainnet : ChainId
  chainIdFromJson : Json → Except String ChainId
  /-- A chain id is deserialized from its text. -/
  chainIdFromJson_str : ∀ s, chainIdFromJson (.str s) = .ok (chainIdFrom s)
  contractAddressFromStr : String → Except String ContractAddress
  contractAddressFromJson : Json → Except String ContractAddress
  /-- A text that is an address for both is the same address. -/
  contractAddress_unique : ∀ s a a', contractAddressFromStr s = .ok a →
    contractAddressFromJson (.str s) = .ok a' → a = a'
  decodeBlockId : Json → Except String BlockId
  /-- A block id is deserialized from its number. -/
  decodeBlockId_number : ∀ n,
    decodeBlockId (.obj [("block_number", .num n)]) = .ok (.number n.toNat)
  /-- `RpcTransaction`, deserialized. -/
  decodeTransaction : Json → Except String (RpcTransaction RpcInvokeTransactionV3)
  proofIsEmpty : RpcInvokeTransactionV3 → Bool
  proofFactsIsEmpty : RpcInvokeTransactionV3 → Bool
  /-- `max_possible_fee(tip)`, of the resource bounds. -/
  maxPossibleFee : RpcInvokeTransactionV3 → ℕ
  /-- The text of a `Fee`. -/
  feeToString : ℕ → String
  contractClassManagerDefault : ContractClassManagerConfig
  /-- The default, but for the `contract_cache_size`. -/
  withContractCacheSize : ℕ → ContractClassManagerConfig
  bouncerDefault : BouncerConfig
  decodeContractClassManagerConfig : Json → Except String ContractClassManagerConfig
  decodeRunnerConfig : Json → Except String (RunnerConfig BouncerConfig)

instance (api : StarknetApi) : DecidableEq api.ChainId := api.decEqChainId

instance (api : StarknetApi) : DecidableEq api.ContractAddress := api.decEqContractAddress

/-- `StorageProofConfig::default`. -/
def storageProofDefault : StorageProofs.StorageProofConfig := ⟨true⟩

/-- `RunnerConfig::default`. -/
def RunnerConfig.default (api : StarknetApi) : RunnerConfig api.BouncerConfig where
  storageProofConfig := storageProofDefault
  virtualBlockExecutorConfig :=
    { prefetchState := true
      bouncerConfig := api.bouncerDefault
      useLatestVersionedConstants := true }

/-- `ProverConfig`. -/
structure ProverConfig (api : StarknetApi) where
  contractClassManagerConfig : api.ContractClassManagerConfig
  chainId : api.ChainId
  rpcNodeUrl : String
  runnerConfig : RunnerConfig api.BouncerConfig
  strkFeeTokenAddress : Option api.ContractAddress
  validateZeroFeeFields : Bool

/-- `ProverConfig::default`. -/
def ProverConfig.default (api : StarknetApi) : ProverConfig api where
  contractClassManagerConfig := api.contractClassManagerDefault
  chainId := api.mainnet
  rpcNodeUrl := ""
  runnerConfig := .default api
  strkFeeTokenAddress := none
  validateZeroFeeFields := true

/-! ### Files and arguments -/

/-- `PathBuf`. -/
structure PathBuf where
  text : String

/-- `Path::components`: whether the path is absolute, and its names.  A dot counts at the start of a
relative path only. -/
def PathBuf.components (path : PathBuf) : Bool × List (List Char) :=
  let names := (segments path.text).filter fun name => name ≠ [] ∧ name ≠ ['.']
  (isAbsolute path.text,
    if (segments path.text).head? = some ['.'] then ['.'] :: names else names)

/-- Paths are compared by their components. -/
instance : BEq PathBuf := ⟨fun path path' => path.components == path'.components⟩

/-- `IpAddr`. -/
inductive IpAddr where
  | v4 (a b c d : BitVec 8)
  | v6 (bits : BitVec 128)
  deriving DecidableEq

/-- `TransportMode`. -/
inductive TransportMode where
  | http
  | https (tlsCertFile tlsKeyFile : PathBuf)

/-- `TransportMode::new`. -/
def TransportMode.new : Option PathBuf → Option PathBuf → Except ConfigError TransportMode
  | none, none => .ok .http
  | some tlsCertFile, some tlsKeyFile => .ok (.https tlsCertFile tlsKeyFile)
  | some _, none =>
      .error (.incompleteTlsConfig "tls_cert_file is set but tls_key_file is missing")
  | none, some _ =>
      .error (.incompleteTlsConfig "tls_key_file is set but tls_cert_file is missing")

/-- `CliArgs`. -/
structure CliArgs where
  configFile : Option PathBuf
  rpcUrl : Option String
  chainId : Option String
  port : Option (BitVec 16)
  ip : Option String
  maxConcurrentRequests : Option ℕ
  maxConnections : Option (BitVec 32)
  tlsCertFile : Option PathBuf
  tlsKeyFile : Option PathBuf
  strkFeeTokenAddress : Option String
  prefetchState : Option Bool
  useLatestVersionedConstants : Option Bool
  skipFeeFieldValidation : Bool
  noCors : Bool
  corsAllowOrigin : List String
  compiledClassCacheSize : Option ℕ
  bouncerConfigOverride : Option PathBuf

/-- `RawServiceConfig`. -/
structure RawServiceConfig (api : StarknetApi) where
  rpcNodeUrl : String
  chainId : api.ChainId
  validateZeroFeeFields : Bool
  strkFeeTokenAddress : Option api.ContractAddress
  compiledClassCacheSize : ℕ
  prefetchState : Bool
  useLatestVersionedConstants : Bool
  ip : IpAddr
  port : BitVec 16
  maxConcurrentRequests : ℕ
  maxConnections : BitVec 32
  corsAllowOrigin : List String
  tlsCertFile : Option PathBuf
  tlsKeyFile : Option PathBuf

/-- `RawServiceConfig::default`. -/
def RawServiceConfig.default (api : StarknetApi) : RawServiceConfig api where
  rpcNodeUrl := ""
  chainId := api.mainnet
  validateZeroFeeFields := true
  strkFeeTokenAddress := none
  compiledClassCacheSize := 600
  prefetchState := false
  useLatestVersionedConstants := true
  ip := .v4 0 0 0 0
  port := 3000
  maxConcurrentRequests := 2
  maxConnections := 10
  corsAllowOrigin := []
  tlsCertFile := none
  tlsKeyFile := none

/-- `ServiceConfig`. -/
structure ServiceConfig (api : StarknetApi) where
  proverConfig : ProverConfig api
  ip : IpAddr
  port : BitVec 16
  maxConcurrentRequests : ℕ
  maxConnections : BitVec 32
  corsAllowOrigin : List String
  transport : TransportMode

/-- What `from_args` calls: the file system, parsers, and the bouncer config in the binary. -/
structure Loader (api : StarknetApi) where
  readToString : PathBuf → Except String String
  rawServiceConfigFromStr : String → Except String (RawServiceConfig api)
  bouncerConfigFromStr : String → Except String api.BouncerConfig
  /-- `resources/bouncer_config.json`. -/
  embeddedBouncerConfig : String
  /-- `IpAddr::from_str`. -/
  parseIp : String → Except String IpAddr
  url : UrlParser

/-! ### Merging -/

/-- A setting that is given goes over an old one, where the two differ. -/
def override {α : Type} [BEq α] (new : Option α) (old : α) : α :=
  match new with
  | some new => if new != old then new else old
  | none => old

/-- The value of a text, where there is one. -/
def parseArg {ε α : Type} (parse : String → Except ε α) : Option String → Except ε (Option α)
  | some text => (parse text).map some
  | none => .ok none

section Service

variable {api : StarknetApi} (loader : Loader api)

/-- A JSON file of a kind. -/
def loadJson {α : Type} (kind : String) (fromStr : String → Except String α) (path : PathBuf) :
    Fallible ConfigError α := do
  let contents ← orErr (fun e =>
    ConfigError.configFileError ("Failed to read " ++ kind ++ " " ++ path.text ++ ": " ++ e))
    (loader.readToString path)
  orErr (fun e =>
    ConfigError.configFileError ("Failed to parse " ++ kind ++ " " ++ path.text ++ ": " ++ e))
    (fromStr contents)

/-- The config file, or the defaults. -/
def loadConfig (args : CliArgs) : Fallible ConfigError (RawServiceConfig api) :=
  match args.configFile with
  | some configFile => loadJson loader "config file" loader.rawServiceConfigFromStr configFile
  | none => .ok (.default api)

/-- The overrides of `from_args`, with the address and the fee token that were given. -/
def overrideConfig (config : RawServiceConfig api) (args : CliArgs) (newIp : Option IpAddr)
    (strkFeeTokenAddress : Option api.ContractAddress) : RawServiceConfig api where
  rpcNodeUrl := override args.rpcUrl config.rpcNodeUrl
  chainId := override (args.chainId.map api.chainIdFrom) config.chainId
  port := override args.port config.port
  ip := override newIp config.ip
  maxConcurrentRequests := override args.maxConcurrentRequests config.maxConcurrentRequests
  maxConnections := override args.maxConnections config.maxConnections
  tlsCertFile := override (args.tlsCertFile.map some) config.tlsCertFile
  tlsKeyFile := override (args.tlsKeyFile.map some) config.tlsKeyFile
  validateZeroFeeFields :=
    if args.skipFeeFieldValidation && config.validateZeroFeeFields then false
    else config.validateZeroFeeFields
  corsAllowOrigin :=
    if args.noCors then []
    else if args.corsAllowOrigin ≠ [] then args.corsAllowOrigin
    else config.corsAllowOrigin
  strkFeeTokenAddress := override (strkFeeTokenAddress.map some) config.strkFeeTokenAddress
  prefetchState := override args.prefetchState config.prefetchState
  useLatestVersionedConstants :=
    override args.useLatestVersionedConstants config.useLatestVersionedConstants
  compiledClassCacheSize := override args.compiledClassCacheSize config.compiledClassCacheSize

/-- The part of `from_args` that merges the arguments in. -/
def applyArgs (config : RawServiceConfig api) (args : CliArgs) :
    Fallible ConfigError (RawServiceConfig api) := do
  let newIp ← parseArg (fun ip =>
    orErr (fun e => ConfigError.invalidArgument ("Invalid IP address: " ++ e))
      (loader.parseIp ip)) args.ip
  rejectIf (args.noCors = true ∧ args.corsAllowOrigin ≠ [])
    (.invalidArgument "--no-cors and --cors-allow-origin are mutually exclusive")
  let strkFeeTokenAddress ← parseArg (fun hexStr =>
    orErr (fun e => ConfigError.invalidArgument ("Invalid strk_fee_token_address: " ++ e))
      (api.contractAddressFromStr hexStr)) args.strkFeeTokenAddress
  pure (overrideConfig config args newIp strkFeeTokenAddress)

/-- The required fields. -/
def checkRequired (config : RawServiceConfig api) : Fallible ConfigError Unit := do
  rejectIf (config.rpcNodeUrl = "") (.missingRequiredField
    "rpc_node_url is required (provide via --rpc-url or config file)")
  rejectIf (config.maxConcurrentRequests = 0)
    (.invalidArgument "max_concurrent_requests must be at least 1")
  rejectIf (config.maxConnections = 0) (.invalidArgument "max_connections must be at least 1")

/-- The bouncer config of a file, or the one in the binary. -/
def loadBouncerConfig (args : CliArgs) : Fallible ConfigError api.BouncerConfig :=
  match args.bouncerConfigOverride with
  | some path => loadJson loader "bouncer config file" loader.bouncerConfigFromStr path
  | none => expect (loader.bouncerConfigFromStr loader.embeddedBouncerConfig).toOption
      "embedded bouncer_config.json is invalid"

/-- The nested config. -/
def buildConfig (config : RawServiceConfig api) (transport : TransportMode)
    (corsAllowOrigin : List String) (bouncerConfig : api.BouncerConfig) : ServiceConfig api where
  proverConfig :=
    { contractClassManagerConfig := api.withContractCacheSize config.compiledClassCacheSize
      chainId := config.chainId
      rpcNodeUrl := config.rpcNodeUrl
      runnerConfig :=
        { storageProofConfig := storageProofDefault
          virtualBlockExecutorConfig :=
            { prefetchState := config.prefetchState
              bouncerConfig
              useLatestVersionedConstants := config.useLatestVersionedConstants } }
      strkFeeTokenAddress := config.strkFeeTokenAddress
      validateZeroFeeFields := config.validateZeroFeeFields }
  ip := config.ip
  port := config.port
  maxConcurrentRequests := config.maxConcurrentRequests
  maxConnections := config.maxConnections
  corsAllowOrigin := corsAllowOrigin
  transport := transport

/-- `ServiceConfig::from_args`. -/
def fromArgs (args : CliArgs) : Fallible ConfigError (ServiceConfig api) := do
  let config ← loadConfig loader args
  let config ← applyArgs loader config args
  checkRequired config
  let transport ← orErr id (TransportMode.new config.tlsCertFile config.tlsKeyFile)
  let corsAllowOrigin ← orErr id (normalizeCorsAllowOrigins loader.url config.corsAllowOrigin)
  let bouncerConfig ← loadBouncerConfig loader args
  pure (buildConfig config transport corsAllowOrigin bouncerConfig)

end Service

/-! ### What is accepted -/

section Specification

variable {api : StarknetApi} (loader : Loader api) (args : CliArgs) (raw : RawServiceConfig api)

/-- A file can be read and parsed. -/
def FileHas {α : Type} (fromStr : String → Except String α) (path : PathBuf) (value : α) : Prop :=
  ∃ contents, loader.readToString path = .ok contents ∧ fromStr contents = .ok value

/-- The raw config: the one of the file, or the defaults. -/
def RawOf : Prop :=
  match args.configFile with
  | some configFile => FileHas loader loader.rawServiceConfigFromStr configFile raw
  | none => raw = .default api

/-- The bouncer config: the one of the file, or the one in the binary. -/
def BouncerOf (bouncerConfig : api.BouncerConfig) : Prop :=
  match args.bouncerConfigOverride with
  | some path => FileHas loader loader.bouncerConfigFromStr path bouncerConfig
  | none => loader.bouncerConfigFromStr loader.embeddedBouncerConfig = .ok bouncerConfig

/-- The origins before they are normalised. -/
def mergedOrigins : List String :=
  if args.noCors then []
  else if args.corsAllowOrigin ≠ [] then args.corsAllowOrigin
  else raw.corsAllowOrigin

/-- The configuration is accepted. -/
structure Accepts : Prop where
  bouncerConfig : ∃ bouncerConfig, BouncerOf loader args bouncerConfig
  ip : ∀ text, args.ip = some text → ∃ ip, loader.parseIp text = .ok ip
  strkFeeTokenAddress : ∀ text, args.strkFeeTokenAddress = some text →
    ∃ a, api.contractAddressFromStr text = .ok a
  noCors : ¬ (args.noCors = true ∧ args.corsAllowOrigin ≠ [])
  rpcNodeUrl : args.rpcUrl.getD raw.rpcNodeUrl ≠ ""
  maxConcurrentRequests : 1 ≤ args.maxConcurrentRequests.getD raw.maxConcurrentRequests
  maxConnections : 1 ≤ (args.maxConnections.getD raw.maxConnections).toNat
  transport : (args.tlsCertFile.or raw.tlsCertFile).isSome
    = (args.tlsKeyFile.or raw.tlsKeyFile).isSome
  corsAllowOrigin : ∃ origins,
    normalizeCorsAllowOrigins loader.url (mergedOrigins args raw) = .ok origins

/-- The certificate of a transport. -/
def TransportMode.tlsCertFile : TransportMode → Option PathBuf
  | .http => none
  | .https tlsCertFile _ => some tlsCertFile

/-- The key of a transport. -/
def TransportMode.tlsKeyFile : TransportMode → Option PathBuf
  | .http => none
  | .https _ tlsKeyFile => some tlsKeyFile

/-- Every field is the argument's where one is given, and the raw config's otherwise. -/
structure Merges (config : ServiceConfig api) : Prop where
  rpcNodeUrl : config.proverConfig.rpcNodeUrl = args.rpcUrl.getD raw.rpcNodeUrl
  chainId : config.proverConfig.chainId = (args.chainId.map api.chainIdFrom).getD raw.chainId
  validateZeroFeeFields : config.proverConfig.validateZeroFeeFields = true ↔
    raw.validateZeroFeeFields = true ∧ args.skipFeeFieldValidation = false
  strkFeeTokenAddress : match args.strkFeeTokenAddress with
    | some text => ∃ a, api.contractAddressFromStr text = .ok a ∧
        config.proverConfig.strkFeeTokenAddress = some a
    | none => config.proverConfig.strkFeeTokenAddress = raw.strkFeeTokenAddress
  compiledClassCacheSize : config.proverConfig.contractClassManagerConfig
    = api.withContractCacheSize (args.compiledClassCacheSize.getD raw.compiledClassCacheSize)
  storageProofConfig :
    config.proverConfig.runnerConfig.storageProofConfig = storageProofDefault
  prefetchState : config.proverConfig.runnerConfig.virtualBlockExecutorConfig.prefetchState
    = args.prefetchState.getD raw.prefetchState
  useLatestVersionedConstants :
    config.proverConfig.runnerConfig.virtualBlockExecutorConfig.useLatestVersionedConstants
      = args.useLatestVersionedConstants.getD raw.useLatestVersionedConstants
  bouncerConfig : BouncerOf loader args
    config.proverConfig.runnerConfig.virtualBlockExecutorConfig.bouncerConfig
  ip : match args.ip with
    | some text => loader.parseIp text = .ok config.ip
    | none => config.ip = raw.ip
  port : config.port = args.port.getD raw.port
  maxConcurrentRequests :
    config.maxConcurrentRequests = args.maxConcurrentRequests.getD raw.maxConcurrentRequests
  maxConnections : config.maxConnections = args.maxConnections.getD raw.maxConnections
  corsAllowOrigin :
    normalizeCorsAllowOrigins loader.url (mergedOrigins args raw) = .ok config.corsAllowOrigin
  tlsCertFile :
    (config.transport.tlsCertFile == args.tlsCertFile.or raw.tlsCertFile) = true
  tlsKeyFile : (config.transport.tlsKeyFile == args.tlsKeyFile.or raw.tlsKeyFile) = true

end Specification

/-! ### Overrides -/

@[simp] theorem override_none {α : Type} [BEq α] (old : α) : override none old = old := rfl

/-- Where equal values are the same, an override is the new value. -/
theorem override_eq_getD {α : Type} [BEq α] [LawfulBEq α] (new : Option α) (old : α) :
    override new old = new.getD old := by
  cases new with
  | none => rfl
  | some new =>
      rw [override]
      by_cases h : new = old
      · simp [h]
      · simp [h]

instance : ReflBEq PathBuf where
  rfl {path} := by
    change (path.components == path.components) = true
    simp

theorem PathBuf.beq_comm {path path' : PathBuf} (h : (path == path') = true) :
    (path' == path) = true := by
  change (path.components == path'.components) = true at h
  change (path'.components == path.components) = true
  rw [beq_iff_eq] at h ⊢
  exact h.symm

/-- The override of a path is the new path, as paths are compared. -/
theorem override_path (new old : Option PathBuf) :
    (override (new.map some) old == new.or old) = true := by
  cases new with
  | none => cases old <;> simp
  | some path =>
      change ((if some path != old then some path else old) == some path) = true
      split
      · simp
      · next h =>
          have hsame : (some path == old) = true := by
            rwa [bne, Bool.not_eq_true', Bool.not_eq_false] at h
          cases old with
          | none => exact hsame
          | some path' => exact PathBuf.beq_comm hsame

theorem isSome_eq_of_beq {o o' : Option PathBuf} (h : (o == o') = true) :
    o.isSome = o'.isSome := by
  cases o with
  | none =>
      cases o' with
      | none => rfl
      | some path => cases h
  | some path =>
      cases o' with
      | none => cases h
      | some path' => rfl

theorem parseArg_eq_ok {ε α : Type} {parse : String → Except ε α} {text : Option String}
    {value : Option α} :
    parseArg parse text = .ok value ↔
      match text with
      | some text => ∃ a, parse text = .ok a ∧ value = some a
      | none => value = none := by
  cases text with
  | none =>
      rw [parseArg]
      exact ⟨fun h => (Except.ok.inj h).symm, fun h => congrArg Except.ok h.symm⟩
  | some text =>
      rw [parseArg, map_eq_ok]
      exact ⟨fun ⟨a, ha, h⟩ => ⟨a, ha, h.symm⟩, fun ⟨a, ha, h⟩ => ⟨a, ha, h.symm⟩⟩

/-! ### The steps -/

section Steps

variable {api : StarknetApi} {loader : Loader api} {args : CliArgs}
  {raw config : RawServiceConfig api}

theorem loadJson_eq_ok {α : Type} {kind : String} {fromStr : String → Except String α}
    {path : PathBuf} {value : α} :
    loadJson loader kind fromStr path = .ok value ↔ FileHas loader fromStr path value := by
  rw [loadJson, bind_eq_ok, FileHas]
  simp only [orErr_eq_ok]

theorem loadConfig_eq_ok : loadConfig loader args = .ok raw ↔ RawOf loader args raw := by
  rw [loadConfig, RawOf]
  cases args.configFile with
  | none => exact ⟨fun h => (Except.ok.inj h).symm, fun h => congrArg Except.ok h.symm⟩
  | some configFile => exact loadJson_eq_ok

theorem loadBouncerConfig_eq_ok {bouncerConfig : api.BouncerConfig} :
    loadBouncerConfig loader args = .ok bouncerConfig ↔
      BouncerOf loader args bouncerConfig := by
  rw [loadBouncerConfig, BouncerOf]
  cases args.bouncerConfigOverride with
  | none =>
      dsimp only
      cases loader.bouncerConfigFromStr loader.embeddedBouncerConfig <;>
        simp [expect, Except.toOption]
  | some path => exact loadJson_eq_ok

theorem applyArgs_eq_ok :
    applyArgs loader raw args = .ok config ↔
      ∃ newIp strkFeeTokenAddress,
        parseArg loader.parseIp args.ip = .ok newIp ∧
        ¬ (args.noCors = true ∧ args.corsAllowOrigin ≠ []) ∧
        parseArg api.contractAddressFromStr args.strkFeeTokenAddress = .ok strkFeeTokenAddress ∧
        overrideConfig raw args newIp strkFeeTokenAddress = config := by
  rw [applyArgs]
  simp only [bind_eq_ok, pure_eq_ok, parseArg_eq_ok, orErr_eq_ok]
  constructor
  · rintro ⟨newIp, hip, ⟨⟩, hcors, strkFeeTokenAddress, hstrk, hconfig⟩
    exact ⟨newIp, strkFeeTokenAddress, hip, rejectIf_eq_ok.mp hcors, hstrk, hconfig⟩
  · rintro ⟨newIp, strkFeeTokenAddress, hip, hcors, hstrk, hconfig⟩
    exact ⟨newIp, hip, (), rejectIf_eq_ok.mpr hcors, strkFeeTokenAddress, hstrk, hconfig⟩

theorem checkRequired_eq_ok :
    checkRequired config = .ok () ↔
      config.rpcNodeUrl ≠ "" ∧ config.maxConcurrentRequests ≠ 0 ∧ config.maxConnections ≠ 0 := by
  rw [checkRequired, check_bind_eq_ok, check_bind_eq_ok, rejectIf_eq_ok, rejectIf_eq_ok,
    rejectIf_eq_ok]

/-- The files of a transport are those it is made of, and there are both or neither. -/
theorem TransportMode.new_eq_ok {tlsCertFile tlsKeyFile : Option PathBuf}
    {transport : TransportMode} :
    TransportMode.new tlsCertFile tlsKeyFile = .ok transport ↔
      transport.tlsCertFile = tlsCertFile ∧ transport.tlsKeyFile = tlsKeyFile := by
  cases tlsCertFile <;> cases tlsKeyFile <;> cases transport <;>
    simp [TransportMode.new, TransportMode.tlsCertFile, TransportMode.tlsKeyFile, eq_comm]

theorem TransportMode.exists_new_eq_ok {tlsCertFile tlsKeyFile : Option PathBuf} :
    (∃ transport, TransportMode.new tlsCertFile tlsKeyFile = .ok transport) ↔
      tlsCertFile.isSome = tlsKeyFile.isSome := by
  cases tlsCertFile <;> cases tlsKeyFile <;> simp [TransportMode.new]

theorem fromArgs_eq_ok {service : ServiceConfig api} :
    fromArgs loader args = .ok service ↔
      ∃ raw config transport origins bouncerConfig,
        RawOf loader args raw ∧ applyArgs loader raw args = .ok config ∧
        checkRequired config = .ok () ∧
        TransportMode.new config.tlsCertFile config.tlsKeyFile = .ok transport ∧
        normalizeCorsAllowOrigins loader.url config.corsAllowOrigin = .ok origins ∧
        BouncerOf loader args bouncerConfig ∧
        buildConfig config transport origins bouncerConfig = service := by
  rw [fromArgs]
  simp only [bind_eq_ok, pure_eq_ok, orErr_eq_ok, loadConfig_eq_ok, loadBouncerConfig_eq_ok]
  constructor
  · rintro ⟨raw, hraw, config, hconfig, ⟨⟩, hcheck, transport, htransport, origins, horigins,
      bouncerConfig, hbouncer, hservice⟩
    exact ⟨raw, config, transport, origins, bouncerConfig, hraw, hconfig, hcheck, htransport,
      horigins, hbouncer, hservice⟩
  · rintro ⟨raw, config, transport, origins, bouncerConfig, hraw, hconfig, hcheck, htransport,
      horigins, hbouncer, hservice⟩
    exact ⟨raw, hraw, config, hconfig, (), hcheck, transport, htransport, origins, horigins,
      bouncerConfig, hbouncer, hservice⟩

/-! ### The merged configuration -/

variable {newIp : Option IpAddr} {strkFeeTokenAddress : Option api.ContractAddress}
  {transport : TransportMode} {origins : List String} {bouncerConfig : api.BouncerConfig}

theorem checkRequired_overrideConfig :
    checkRequired (overrideConfig raw args newIp strkFeeTokenAddress) = .ok () ↔
      args.rpcUrl.getD raw.rpcNodeUrl ≠ "" ∧
        1 ≤ args.maxConcurrentRequests.getD raw.maxConcurrentRequests ∧
        1 ≤ (args.maxConnections.getD raw.maxConnections).toNat := by
  have hmax : args.maxConnections.getD raw.maxConnections ≠ 0 ↔
      1 ≤ (args.maxConnections.getD raw.maxConnections).toNat := by
    rw [Nat.one_le_iff_ne_zero, not_iff_not]
    exact ⟨fun h => congrArg BitVec.toNat h, fun h => BitVec.eq_of_toNat_eq h⟩
  rw [checkRequired_eq_ok, ← hmax, Nat.one_le_iff_ne_zero, ← override_eq_getD,
    ← override_eq_getD, ← override_eq_getD]
  rfl

theorem exists_transport_iff :
    (∃ transport, TransportMode.new
        (overrideConfig raw args newIp strkFeeTokenAddress).tlsCertFile
        (overrideConfig raw args newIp strkFeeTokenAddress).tlsKeyFile = .ok transport) ↔
      (args.tlsCertFile.or raw.tlsCertFile).isSome
        = (args.tlsKeyFile.or raw.tlsKeyFile).isSome := by
  rw [TransportMode.exists_new_eq_ok,
    ← isSome_eq_of_beq (override_path args.tlsCertFile raw.tlsCertFile),
    ← isSome_eq_of_beq (override_path args.tlsKeyFile raw.tlsKeyFile)]
  rfl

/-- What is merged from what is accepted is not rejected. -/
theorem Accepts.exists_fromArgs (h : Accepts loader args raw) (hraw : RawOf loader args raw) :
    ∃ service, fromArgs loader args = .ok service := by
  have hparse : ∀ {ε α : Type} {parse : String → Except ε α} {text : Option String},
      (∀ t, text = some t → ∃ a, parse t = .ok a) → ∃ value, parseArg parse text = .ok value := by
    intro ε α parse text hall
    cases text with
    | none => exact ⟨none, rfl⟩
    | some t =>
        obtain ⟨a, ha⟩ := hall t rfl
        exact ⟨some a, parseArg_eq_ok.mpr ⟨a, ha, rfl⟩⟩
  obtain ⟨newIp, hip⟩ := hparse h.ip
  obtain ⟨strkFeeTokenAddress, hstrk⟩ := hparse h.strkFeeTokenAddress
  have hcheck : checkRequired (overrideConfig raw args newIp strkFeeTokenAddress) = .ok () :=
    checkRequired_overrideConfig.mpr ⟨h.rpcNodeUrl, h.maxConcurrentRequests, h.maxConnections⟩
  obtain ⟨transport, htransport⟩ : ∃ transport, TransportMode.new
      (overrideConfig raw args newIp strkFeeTokenAddress).tlsCertFile
      (overrideConfig raw args newIp strkFeeTokenAddress).tlsKeyFile = .ok transport :=
    exists_transport_iff.mpr h.transport
  obtain ⟨origins, horigins⟩ := h.corsAllowOrigin
  obtain ⟨bouncerConfig, hbouncer⟩ := h.bouncerConfig
  exact ⟨_, fromArgs_eq_ok.mpr ⟨raw, _, transport, origins, bouncerConfig, hraw,
    applyArgs_eq_ok.mpr ⟨newIp, strkFeeTokenAddress, hip, h.noCors, hstrk, rfl⟩, hcheck,
    htransport, horigins, hbouncer, rfl⟩⟩

/-- What is not rejected is accepted and merged. -/
theorem accepts_and_merges {service : ServiceConfig api} (h : fromArgs loader args = .ok service) :
    ∃ raw, RawOf loader args raw ∧ Accepts loader args raw ∧ Merges loader args raw service := by
  obtain ⟨raw, config, transport, origins, bouncerConfig, hraw, hconfig, hcheck, htransport,
    horigins, hbouncer, rfl⟩ := fromArgs_eq_ok.mp h
  obtain ⟨newIp, strkFeeTokenAddress, hip, hcors, hstrk, rfl⟩ := applyArgs_eq_ok.mp hconfig
  obtain ⟨hrpcNodeUrl, hmax, hconnections⟩ := checkRequired_overrideConfig.mp hcheck
  have hcert := override_path args.tlsCertFile raw.tlsCertFile
  have hkey := override_path args.tlsKeyFile raw.tlsKeyFile
  have hboth := exists_transport_iff.mp ⟨transport, htransport⟩
  obtain ⟨htlsCert, htlsKey⟩ := TransportMode.new_eq_ok.mp htransport
  rw [parseArg_eq_ok] at hip hstrk
  refine ⟨raw, hraw, ?_, ?_⟩
  · exact
      { bouncerConfig := ⟨bouncerConfig, hbouncer⟩
        ip := by
          intro text htext
          rw [htext] at hip
          obtain ⟨ip, hip, -⟩ := hip
          exact ⟨ip, hip⟩
        strkFeeTokenAddress := by
          intro text htext
          rw [htext] at hstrk
          obtain ⟨a, ha, -⟩ := hstrk
          exact ⟨a, ha⟩
        noCors := hcors
        rpcNodeUrl := hrpcNodeUrl
        maxConcurrentRequests := hmax
        maxConnections := hconnections
        transport := hboth
        corsAllowOrigin := ⟨origins, horigins⟩ }
  · exact
      { rpcNodeUrl := override_eq_getD _ _
        chainId := override_eq_getD _ _
        validateZeroFeeFields := by
          change (if args.skipFeeFieldValidation && raw.validateZeroFeeFields then false
            else raw.validateZeroFeeFields) = true ↔ _
          cases args.skipFeeFieldValidation <;> cases raw.validateZeroFeeFields <;> simp
        strkFeeTokenAddress := by
          cases htext : args.strkFeeTokenAddress with
          | none =>
              rw [htext] at hstrk
              obtain rfl := hstrk
              rfl
          | some text =>
              rw [htext] at hstrk
              obtain ⟨a, ha, rfl⟩ := hstrk
              exact ⟨a, ha, override_eq_getD (some (some a)) raw.strkFeeTokenAddress⟩
        compiledClassCacheSize := congrArg api.withContractCacheSize (override_eq_getD _ _)
        storageProofConfig := rfl
        prefetchState := override_eq_getD _ _
        useLatestVersionedConstants := override_eq_getD _ _
        bouncerConfig := hbouncer
        ip := by
          cases htext : args.ip with
          | none =>
              rw [htext] at hip
              obtain rfl := hip
              rfl
          | some text =>
              rw [htext] at hip
              obtain ⟨ip, hip, rfl⟩ := hip
              change loader.parseIp text = _
              rw [hip]
              exact congrArg Except.ok (override_eq_getD (some ip) raw.ip).symm
        port := override_eq_getD _ _
        maxConcurrentRequests := override_eq_getD _ _
        maxConnections := override_eq_getD _ _
        corsAllowOrigin := horigins
        tlsCertFile := by
          change (transport.tlsCertFile == _) = true
          rw [htlsCert]
          exact hcert
        tlsKeyFile := by
          change (transport.tlsKeyFile == _) = true
          rw [htlsKey]
          exact hkey }

/-- **Which configurations are accepted, and what they come to.** -/
theorem fromArgs_spec (loader : Loader api) (args : CliArgs) :
    ((∃ service, fromArgs loader args = .ok service) ↔
      ∃ raw, RawOf loader args raw ∧ Accepts loader args raw) ∧
      ∀ service, fromArgs loader args = .ok service →
        ∃ raw, RawOf loader args raw ∧ Merges loader args raw service := by
  refine ⟨⟨?_, ?_⟩, ?_⟩
  · rintro ⟨service, h⟩
    obtain ⟨raw, hraw, haccepts, -⟩ := accepts_and_merges h
    exact ⟨raw, hraw, haccepts⟩
  · rintro ⟨raw, hraw, haccepts⟩
    exact haccepts.exists_fromArgs hraw
  · intro service h
    obtain ⟨raw, hraw, -, hmerges⟩ := accepts_and_merges h
    exact ⟨raw, hraw, hmerges⟩

end Steps

end Snip36.Rpc
