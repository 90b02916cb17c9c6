import Xredis.Go.Strings

/-!
# Resolving a `Config` into go-redis options

`options.go` turns the repository's `Config` into the options of a single-node client
(`parseClientConfig`) or of a cluster client (`parseClusterConfig`): most settings are
copied, the comma-separated `Addrs` is split into the seed addresses (the single-node
client takes the first), a positive `Protocol` is kept, and a zero `MaxRedirects` is
replaced by a budget computed from `Addrs`.

* `parseConfig_addrs` — the seeds are the comma-separated pieces of `Addrs`, one more
  than its commas, and give it back when joined with commas; the single-node address is
  the first of them;
* `parseClusterConfig_maxRedirects_slips` — the budget of a zero `MaxRedirects` counts the
  bytes of `Addrs`, not its addresses, and an explicit `MaxRedirects` is not copied.

Durations are `int64` nanosecond counts, copied and never computed with, so they are
plain integers here, as are Go's `int` fields.
-/

namespace Xredis

open Go

/-- `Config`, with the fields the two resolvers read. -/
structure Config where
  network : String := ""
  addrs : String := ""
  protocol : Int := 0
  username : String := ""
  password : String := ""
  db : Int := 0
  maxRedirects : Int := 0
  readOnly : Bool := false
  routeByLatency : Bool := false
  routeRandomly : Bool := false
  maxRetries : Int := 0
  minRetryBackoff : Int := 0
  maxRetryBackoff : Int := 0
  dialTimeout : Int := 0
  readTimeout : Int := 0
  writeTimeout : Int := 0
  contextTimeoutEnabled : Bool := false
  poolFIFO : Bool := false
  poolSize : Int := 0
  poolTimeout : Int := 0
  minIdleConns : Int := 0
  maxIdleConns : Int := 0
  maxActiveConns : Int := 0
  connMaxIdleTime : Int := 0
  connMaxLifetime : Int := 0
  disableIndentity : Bool := false
  unstableResp3 : Bool := false
  deriving DecidableEq

/-- `defaultConfig()`. -/
def defaultConfig : Config :=
  { addrs := "127.0.0.1:6379", readOnly := true }

namespace Rdb

/-- `rdb.Options`, with the fields `parseClientConfig` sets; the others keep their zero
value until `newClient` sets them. -/
structure Options where
  addr : String := ""
  network : String := ""
  protocol : Int := 0
  username : String := ""
  password : String := ""
  db : Int := 0
  maxRetries : Int := 0
  minRetryBackoff : Int := 0
  maxRetryBackoff : Int := 0
  dialTimeout : Int := 0
  readTimeout : Int := 0
  writeTimeout : Int := 0
  contextTimeoutEnabled : Bool := false
  poolFIFO : Bool := false
  poolSize : Int := 0
  poolTimeout : Int := 0
  minIdleConns : Int := 0
  maxIdleConns : Int := 0
  maxActiveConns : Int := 0
  connMaxIdleTime : Int := 0
  connMaxLifetime : Int := 0
  disableIndentity : Bool := false
  unstableResp3 : Bool := false
  deriving DecidableEq

/-- `rdb.ClusterOptions`, with the fields `parseClusterConfig` sets. -/
structure ClusterOptions where
  addrs : List String := []
  protocol : Int := 0
  username : String := ""
  password : String := ""
  maxRedirects : Int := 0
  readOnly : Bool := false
  routeByLatency : Bool := false
  routeRandomly : Bool := false
  maxRetries : Int := 0
  minRetryBackoff : Int := 0
  maxRetryBackoff : Int := 0
  dialTimeout : Int := 0
  readTimeout : Int := 0
  writeTimeout : Int := 0
  contextTimeoutEnabled : Bool := false
  poolFIFO : Bool := false
  poolSize : Int := 0
  poolTimeout : Int := 0
  minIdleConns : Int := 0
  maxIdleConns : Int := 0
  maxActiveConns : Int := 0
  connMaxIdleTime : Int := 0
  connMaxLifetime : Int := 0
  disableIndentity : Bool := false
  deriving DecidableEq

end Rdb

/-- `parseClientConfig`: the settings copied, the first address of `Addrs`, a positive
`Protocol`. -/
def parseClientConfig (cfg : Config) : Rdb.Options :=
  let addrs := Strings.split cfg.addrs ','
  { network := cfg.network, username := cfg.username, password := cfg.password, db := cfg.db,
    maxRetries := cfg.maxRetries, minRetryBackoff := cfg.minRetryBackoff,
    maxRetryBackoff := cfg.maxRetryBackoff, dialTimeout := cfg.dialTimeout,
    readTimeout := cfg.readTimeout, writeTimeout := cfg.writeTimeout,
    contextTimeoutEnabled := cfg.contextTimeoutEnabled, poolFIFO := cfg.poolFIFO,
    poolSize := cfg.poolSize, poolTimeout := cfg.poolTimeout, minIdleConns := cfg.minIdleConns,
    maxIdleConns := cfg.maxIdleConns, maxActiveConns := cfg.maxActiveConns,
    connMaxIdleTime := cfg.connMaxIdleTime, connMaxLifetime := cfg.connMaxLifetime,
    disableIndentity := cfg.disableIndentity, unstableResp3 := cfg.unstableResp3,
    addr := match addrs with
      | a :: _ => a
      | [] => ""
    protocol := if 0 < cfg.protocol then cfg.protocol else 0 }

/-- `parseClusterConfig`: the settings copied, the seeds split from `Addrs`, a positive
`Protocol`, and for a zero `MaxRedirects` the budget `len(cfg.Addrs) + 1`. -/
def parseClusterConfig (cfg : Config) : Rdb.ClusterOptions :=
  { addrs := Strings.split cfg.addrs ',', username := cfg.username, password := cfg.password,
    routeByLatency := cfg.routeByLatency, routeRandomly := cfg.routeRandomly,
    readOnly := cfg.readOnly, maxRetries := cfg.maxRetries,
    minRetryBackoff := cfg.minRetryBackoff, maxRetryBackoff := cfg.maxRetryBackoff,
    dialTimeout := cfg.dialTimeout, readTimeout := cfg.readTimeout,
    writeTimeout := cfg.writeTimeout, contextTimeoutEnabled := cfg.contextTimeoutEnabled,
    poolFIFO := cfg.poolFIFO, poolSize := cfg.poolSize, poolTimeout := cfg.poolTimeout,
    minIdleConns := cfg.minIdleConns, maxIdleConns := cfg.maxIdleConns,
    maxActiveConns := cfg.maxActiveConns, connMaxIdleTime := cfg.connMaxIdleTime,
    connMaxLifetime := cfg.connMaxLifetime, disableIndentity := cfg.disableIndentity,
    protocol := if 0 < cfg.protocol then cfg.protocol else 0,
    maxRedirects := if cfg.maxRedirects = 0 then cfg.addrs.utf8ByteSize + 1 else 0 }

/-- **The seed addresses.** Both resolvers split `Addrs` at its commas: the cluster seeds
are one more than the commas and joined with commas give `Addrs` back; the single-node
address is the first seed. -/
theorem parseConfig_addrs (cfg : Config) :
    (parseClusterConfig cfg).addrs.length = cfg.addrs.data.count ',' + 1 ∧
    [','].intercalate ((parseClusterConfig cfg).addrs.map String.data) = cfg.addrs.data ∧
    (parseClusterConfig cfg).addrs.head? = some (parseClientConfig cfg).addr := by
  refine ⟨Strings.length_split _ _, Strings.intercalate_split _ _, ?_⟩
  simp only [parseClusterConfig, parseClientConfig]
  cases h : Strings.split cfg.addrs ',' with
  | nil => simpa [h] using Strings.length_split cfg.addrs ','
  | cons a as => rfl

/-- `Addrs` of three seeds and no `MaxRedirects`: the budget is 12, the byte length of
`Addrs` plus one, not 4; with `MaxRedirects` 5 it is 0. -/
theorem parseClusterConfig_maxRedirects_slips :
    (parseClusterConfig { addrs := "a:1,b:2,c:3" }).maxRedirects = 12 ∧
    ((parseClusterConfig { addrs := "a:1,b:2,c:3" }).addrs.length : Int) + 1 = 4 ∧
    (parseClusterConfig { addrs := "a:1,b:2,c:3", maxRedirects := 5 }).maxRedirects = 0 := by
  decide

end Xredis
