import Xredis.Client.Options
import Xredis.Go.Reflect

/-!
# Building a client

`newClient` starts from the default configuration, applies the options in the order
given, defaults the marshaller to `json.Marshal`, resolves the configuration for the
topology asked for, opens the go-redis client under the name `getID` returns, attaches
tracing and then metrics, and only then pings. Each `With…` option sets one field when
its argument is given (not nil, not empty); `WithClientID` draws a UUID as it is applied;
the instrumentation options append fragments to the trace and metrics options.
`WithLogger` and `WithIdentitySuffix` set fields that nothing reads.

The options are read as a whole by `Setup.after`: each setting from the last option that
gives it, the fragments in the order given. One option is `Setup.after` of a list of one
(`apply_eq_after`), and `Setup.after` of a list is that of its head followed by that of its
tail (`after_cons`), so the loop computes it (`applyOpts_eq_after`).

* `newClient_ok_iff` — **construction**: `newClient` returns a client exactly when tracing,
  metrics and the ping succeed, and the client is the one the options ask for, connected
  under the name the identity rules give.
-/

namespace Xredis
namespace Client

open Go

/-! ### The model -/

/-- A `redisotel` option, for tracing or for metrics; a provider is its identity. -/
inductive OtelOption
  | withMeterProvider (mp : Nat)
  | withTracerProvider (provider : Nat)
  | withDBStatement (enabled : Bool)
  | withDBSystem (system : String)
  | withAttributes (attrs : List (String × String))
  deriving DecidableEq

/-- The fields of `Client` that the options set and `newClient` reads. A pointer the
client passes on without looking into it (`*tls.Config`, an `rdb.Limiter`) is its
identity, `none` for nil; the marshaller maps a value to its bytes, as the text they
spell, or to its error. -/
structure Setup where
  id : String
  cfg : Config
  tls : Option Nat
  limiter : Option Nat
  marshaller : Option (Val → Except String String)
  meterOptions : List OtelOption
  traceOptions : List OtelOption

/-- `c.addMeterOption(opt)`. -/
def Setup.addMeterOption (c : Setup) (opt : OtelOption) : Setup :=
  { c with meterOptions := c.meterOptions ++ [opt] }

/-- `c.addTraceOption(opt)`. -/
def Setup.addTraceOption (c : Setup) (opt : OtelOption) : Setup :=
  { c with traceOptions := c.traceOptions ++ [opt] }

/-- `Option`: the `With…` functions of `options.go` with their arguments, `none` for a nil
pointer, interface or function. `WithMetricsNamespace` sets a field `Client` does not
declare, so the package does not compile with it; it is left out. -/
inductive ClientOption
  | withLogger (l : Option Nat)
  | withConfig (config : Option Config)
  | withClientID (id : String)
  | withIdentitySuffix (suffix : String)
  | withMarshaller (fn : Option (Val → Except String String))
  | withTLS (cfg : Option Nat)
  | withLimiter (limiter : Option Nat)
  | withMeterProvider (mp : Option Nat)
  | withTraceProvider (provider : Option Nat)
  | withDBStatement (enabled : Bool)
  | withDBSystem (system : String)
  | withAttributes (attrs : List (String × String))

/-- `opt.apply(c)`, where `uuid k` is the `k`-th UUID `GenerateUUID` returns and `n` have
been drawn. The logger and the identity suffix are fields no code reads (the logger is
only wrapped), so `WithLogger` and `WithIdentitySuffix` change nothing here. -/
def ClientOption.apply (uuid : Nat → String) : Setup × Nat → ClientOption → Setup × Nat
  | (c, n), .withLogger _ => (c, n)
  | (c, n), .withConfig config =>
    (match config with
      | some cfg => { c with cfg := cfg }
      | none => c, n)
  | (c, n), .withClientID id =>
    if id ≠ "" then ({ c with id := id ++ "-" ++ uuid n }, n + 1) else (c, n)
  | (c, n), .withIdentitySuffix _ => (c, n)
  | (c, n), .withMarshaller fn => (if fn.isSome then { c with marshaller := fn } else c, n)
  | (c, n), .withTLS cfg => (if cfg.isSome then { c with tls := cfg } else c, n)
  | (c, n), .withLimiter limiter => (if limiter.isSome then { c with limiter := limiter } else c, n)
  | (c, n), .withMeterProvider mp =>
    (match mp with
      | some mp => c.addMeterOption (.withMeterProvider mp)
      | none => c, n)
  | (c, n), .withTraceProvider provider =>
    (match provider with
      | some p => c.addTraceOption (.withTracerProvider p)
      | none => c, n)
  | (c, n), .withDBStatement enabled => (c.addTraceOption (.withDBStatement enabled), n)
  | (c, n), .withDBSystem system =>
    (if system ≠ "" then (c.addTraceOption (.withDBSystem system)).addMeterOption (.withDBSystem system)
      else c, n)
  | (c, n), .withAttributes attrs =>
    ((c.addTraceOption (.withAttributes attrs)).addMeterOption (.withAttributes attrs), n)

/-- The loop of `newClient`: the options applied in order. -/
def applyOpts (uuid : Nat → String) (cn : Setup × Nat) (opts : List ClientOption) : Setup × Nat :=
  opts.foldl (ClientOption.apply uuid) cn

/-- `&Client{cfg: defaultConfig(), …}`. -/
def Setup.initial : Setup :=
  { id := "", cfg := defaultConfig, tls := none, limiter := none, marshaller := none,
    meterOptions := [], traceOptions := [] }

/-- `c.getID()`: the id, or while none is set a fresh UUID, which is not kept. -/
def getID (uuid : Nat → String) (c : Setup) (n : Nat) : String × Nat :=
  if c.id = "" then (uuid n, n + 1) else (c.id, n)

/-- The go-redis client `newClient` opens, of the cluster or of one node: the resolved
options, and the TLS configuration, client name and limiter `newClient` sets in them. -/
inductive Dial
  | client (opts : Rdb.Options) (tls : Option Nat) (clientName : String) (limiter : Option Nat)
  | cluster (opts : Rdb.ClusterOptions) (tls : Option Nat) (clientName : String)
  deriving DecidableEq

/-- The name a connection was opened under. -/
def Dial.clientName : Dial → String
  | .client _ _ name _ => name
  | .cluster _ _ name => name

/-- The two branches of `newClient` that open the connection. -/
def dial (cluster : Bool) (c : Setup) (name : String) : Dial :=
  if cluster then .cluster (parseClusterConfig c.cfg) c.tls name
  else .client (parseClientConfig c.cfg) c.tls name c.limiter

/-- What `newClient` calls outside the package: the UUIDs in turn, `redisotel`'s
`InstrumentTracing` and `InstrumentMetrics`, and `Ping`, each on the opened client and
returning its error. -/
structure World where
  uuid : Nat → String
  instrumentTracing : Dial → List OtelOption → Option String
  instrumentMetrics : Dial → List OtelOption → Option String
  ping : Dial → Option String

/-- `c.exposeInstrumenting()`: tracing, then metrics. -/
def exposeInstrumenting (w : World) (c : Setup) (conn : Dial) : Option String :=
  match w.instrumentTracing conn c.traceOptions with
  | some e => some e
  | none => w.instrumentMetrics conn c.meterOptions

/-- `newClient(cluster, opts)` with `n` UUIDs drawn before: the client and the connection
it opened, or the error, and the UUIDs drawn after; `jsonMarshal` is `json.Marshal`. -/
def newClient (w : World) (jsonMarshal : Val → Except String String) (cluster : Bool)
    (opts : List ClientOption) (n : Nat) : Except String (Setup × Dial) × Nat :=
  let (c, n) := applyOpts w.uuid (Setup.initial, n) opts
  let c := if c.marshaller.isNone then { c with marshaller := some jsonMarshal } else c
  let (name, n) := getID w.uuid c n
  let conn := dial cluster c name
  match exposeInstrumenting w c conn with
  | some e => (.error e, n)
  | none =>
    match w.ping conn with
    | some e => (.error e, n)
    | none => (.ok (c, conn), n)

/-! ### What the options ask for -/

/-- The configuration an option gives. -/
def ClientOption.config? : ClientOption → Option Config
  | .withConfig config => config
  | _ => none

/-- The client id an option gives: a non-empty one. -/
def ClientOption.clientID? : ClientOption → Option String
  | .withClientID id => if id ≠ "" then some id else none
  | _ => none

/-- The marshaller an option gives. -/
def ClientOption.marshaller? : ClientOption → Option (Val → Except String String)
  | .withMarshaller fn => fn
  | _ => none

/-- The TLS configuration an option gives. -/
def ClientOption.tls? : ClientOption → Option Nat
  | .withTLS cfg => cfg
  | _ => none

/-- The limiter an option gives. -/
def ClientOption.limiter? : ClientOption → Option Nat
  | .withLimiter limiter => limiter
  | _ => none

/-- The fragments an option adds to the trace options. -/
def ClientOption.traceFrags : ClientOption → List OtelOption
  | .withTraceProvider (some p) => [.withTracerProvider p]
  | .withDBStatement enabled => [.withDBStatement enabled]
  | .withDBSystem system => if system ≠ "" then [.withDBSystem system] else []
  | .withAttributes attrs => [.withAttributes attrs]
  | _ => []

/-- The fragments an option adds to the metrics options. -/
def ClientOption.meterFrags : ClientOption → List OtelOption
  | .withMeterProvider (some mp) => [.withMeterProvider mp]
  | .withDBSystem system => if system ≠ "" then [.withDBSystem system] else []
  | .withAttributes attrs => [.withAttributes attrs]
  | _ => []

/-- The client the options ask for, from `c` with `n` UUIDs drawn, read from the list as
a whole: each setting from the last option that gives it, the trace and metrics
fragments in the order given, and the last client id given with the UUID drawn for it,
one UUID being drawn for each client id given. -/
def Setup.after (uuid : Nat → String) (c : Setup) (n : Nat) (opts : List ClientOption) :
    Setup × Nat :=
  let ids := opts.filterMap ClientOption.clientID?
  ({ id := match ids.getLast? with
      | some id => id ++ "-" ++ uuid (n + ids.length - 1)
      | none => c.id
     cfg := ((opts.filterMap ClientOption.config?).getLast?).getD c.cfg
     tls := ((opts.filterMap ClientOption.tls?).getLast?).or c.tls
     limiter := ((opts.filterMap ClientOption.limiter?).getLast?).or c.limiter
     marshaller := ((opts.filterMap ClientOption.marshaller?).getLast?).or c.marshaller
     meterOptions := c.meterOptions ++ opts.flatMap ClientOption.meterFrags
     traceOptions := c.traceOptions ++ opts.flatMap ClientOption.traceFrags }, n + ids.length)

/-- The client the options ask for, from the default configuration, with `json.Marshal`
when no marshaller is given. -/
def requested (uuid : Nat → String) (jsonMarshal : Val → Except String String) (n : Nat)
    (opts : List ClientOption) : Setup :=
  let c := (Setup.after uuid Setup.initial n opts).1
  { c with marshaller := c.marshaller.or (some jsonMarshal) }

/-- The name the client connects under: the last client id given with the UUID drawn for
it, or a UUID drawn after the options. -/
def clientName (uuid : Nat → String) (n : Nat) (opts : List ClientOption) : String :=
  match (opts.filterMap ClientOption.clientID?).getLast? with
  | some id => id ++ "-" ++ uuid (n + (opts.filterMap ClientOption.clientID?).length - 1)
  | none => uuid n

/-! ### The option loop -/

theorem getLast?_filterMap_cons {α β : Type} (f : α → Option β) (a : α) (l : List α) :
    ((a :: l).filterMap f).getLast? = (l.filterMap f).getLast?.or (f a) := by
  cases h : f a <;> cases hl : (l.filterMap f).getLast? <;>
    simp [List.filterMap_cons, h, hl, List.getLast?_cons]

theorem getD_or {α : Type} (x y : Option α) (d : α) : (x.or y).getD d = x.getD (y.getD d) := by
  cases x <;> rfl

/-- **One option** is what the options ask for, read from the list of it alone. -/
theorem apply_eq_after (uuid : Nat → String) (c : Setup) (n : Nat) (o : ClientOption) :
    o.apply uuid (c, n) = Setup.after uuid c n [o] := by
  rcases o with _ | (_ | _) | id | _ | (_ | _) | (_ | _) | (_ | _) | (_ | _) | (_ | _) | _ | sys | _ <;>
    simp [ClientOption.apply, Setup.after, ClientOption.clientID?, ClientOption.config?,
      ClientOption.tls?, ClientOption.limiter?, ClientOption.marshaller?, ClientOption.traceFrags,
      ClientOption.meterFrags, Setup.addTraceOption, Setup.addMeterOption, List.findSome?_cons]
  all_goals split_ifs with h <;> simp [h, List.filterMap_cons, ClientOption.clientID?]

theorem after_nil (uuid : Nat → String) (c : Setup) (n : Nat) : Setup.after uuid c n [] = (c, n) := by
  simp [Setup.after]

/-- What a list of options asks for is what its head asks for, followed by what its tail
asks for. -/
theorem after_cons (uuid : Nat → String) (c : Setup) (n : Nat) (o : ClientOption)
    (os : List ClientOption) :
    Setup.after uuid c n (o :: os) =
      Setup.after uuid (Setup.after uuid c n [o]).1 (Setup.after uuid c n [o]).2 os := by
  have hl : ∀ {β : Type} (f : ClientOption → Option β), ([o].filterMap f).getLast? = f o :=
    fun f => by simpa using getLast?_filterMap_cons f o []
  simp only [Setup.after, getLast?_filterMap_cons, hl, getD_or, Option.or_assoc, List.flatMap_cons,
    List.flatMap_nil, List.append_nil, List.append_assoc, Prod.mk.injEq, Setup.mk.injEq, true_and,
    and_true]
  cases hid : o.clientID? with
  | none => simp [List.filterMap_cons, hid]
  | some i =>
    cases hL : (os.filterMap ClientOption.clientID?).getLast? with
    | none => simp [List.filterMap_cons, hid, hL, List.getLast?_eq_none_iff.1 hL]
    | some j =>
      simp [List.filterMap_cons, hid, hL]
      omega

/-- **The option loop** computes what the options ask for. -/
theorem applyOpts_eq_after (uuid : Nat → String) :
    ∀ (opts : List ClientOption) (c : Setup) (n : Nat), applyOpts uuid (c, n) opts = Setup.after uuid c n opts
  | [], c, n => (after_nil uuid c n).symm
  | o :: os, c, n => by
    rw [after_cons, ← apply_eq_after, ← applyOpts_eq_after uuid os]
    rfl

/-! ### Construction -/

theorem default_marshaller (c : Setup) (jsonMarshal : Val → Except String String) :
    (if c.marshaller.isNone then { c with marshaller := some jsonMarshal } else c) =
      { c with marshaller := c.marshaller.or (some jsonMarshal) } := by
  rcases c with ⟨_, _, _, _, _ | _, _, _⟩ <;> rfl

theorem id_ne_empty (id u : String) : id ++ "-" ++ u ≠ "" := by
  intro h
  have h1 := congrArg String.length h
  have h2 : "-".length = 1 := rfl
  simp only [String.length_append, h2] at h1
  exact absurd h1 (by simp)

/-- `getID` on the client the options ask for gives the name the identity rules give, and
draws a UUID exactly when no client id was given. -/
theorem getID_requested (uuid : Nat → String) (jsonMarshal : Val → Except String String) (n : Nat)
    (opts : List ClientOption) :
    getID uuid (requested uuid jsonMarshal n opts) (Setup.after uuid Setup.initial n opts).2 =
      (clientName uuid n opts, n + (opts.filterMap ClientOption.clientID?).length +
        if opts.filterMap ClientOption.clientID? = [] then 1 else 0) := by
  unfold getID requested clientName
  cases hL : (opts.filterMap ClientOption.clientID?).getLast? with
  | none =>
    have h0 := List.getLast?_eq_none_iff.1 hL
    simp [Setup.after, hL, h0, Setup.initial]
  | some id =>
    have h0 : opts.filterMap ClientOption.clientID? ≠ [] := fun h => by simp [h] at hL
    simp [Setup.after, hL, h0, id_ne_empty]

/-- `newClient` in closed form: the client the options ask for, connected under the name
the identity rules give, then instrumented and pinged. -/
theorem newClient_eq (w : World) (jsonMarshal : Val → Except String String) (cluster : Bool)
    (opts : List ClientOption) (n : Nat) :
    newClient w jsonMarshal cluster opts n =
      let c := requested w.uuid jsonMarshal n opts
      let conn := dial cluster c (clientName w.uuid n opts)
      (match exposeInstrumenting w c conn with
        | some e => .error e
        | none =>
          match w.ping conn with
          | some e => .error e
          | none => .ok (c, conn),
        n + (opts.filterMap ClientOption.clientID?).length +
          if opts.filterMap ClientOption.clientID? = [] then 1 else 0) := by
  have hg := getID_requested w.uuid jsonMarshal n opts
  simp only [requested] at hg
  simp only [newClient, applyOpts_eq_after, default_marshaller, hg, requested]
  split
  · next he => simp only [he]
  · next he =>
    split <;> next hp => simp only [he, hp]

theorem exposeInstrumenting_eq_none {w : World} {c : Setup} {conn : Dial} :
    exposeInstrumenting w c conn = none ↔
      w.instrumentTracing conn c.traceOptions = none ∧ w.instrumentMetrics conn c.meterOptions = none := by
  unfold exposeInstrumenting
  cases w.instrumentTracing conn c.traceOptions <;> simp

theorem dial_clientName (cluster : Bool) (c : Setup) (name : String) :
    (dial cluster c name).clientName = name := by
  cases cluster <;> rfl

/-- A client `newClient` returns is the one the options ask for, connected under the name
the identity rules give, after tracing, metrics and the ping succeeded. -/
theorem newClient_ok {w : World} {jsonMarshal : Val → Except String String} {cluster : Bool}
    {opts : List ClientOption} {n : Nat} {c : Setup} {conn : Dial}
    (h : (newClient w jsonMarshal cluster opts n).1 = .ok (c, conn)) :
    c = requested w.uuid jsonMarshal n opts ∧ conn = dial cluster c (clientName w.uuid n opts) ∧
      w.instrumentTracing conn c.traceOptions = none ∧ w.instrumentMetrics conn c.meterOptions = none ∧
      w.ping conn = none := by
  rw [newClient_eq] at h
  dsimp only at h
  split at h
  · cases h
  · next he =>
    split at h
    · cases h
    · next hp =>
      cases h
      exact ⟨rfl, rfl, exposeInstrumenting_eq_none.1 he |>.1, exposeInstrumenting_eq_none.1 he |>.2, hp⟩

/-- **Construction.** `newClient` returns a client exactly when tracing, metrics and the
ping succeed on the connection it opened; the client is then the one the options ask for
(each setting from the last option that gives it, `json.Marshal` by default, the
instrumentation fragments in the order given), connected under the name the identity
rules give, with the configuration resolved for the topology asked for. -/
theorem newClient_ok_iff (w : World) (jsonMarshal : Val → Except String String) (cluster : Bool)
    (opts : List ClientOption) (n : Nat) (c : Setup) (conn : Dial) :
    (newClient w jsonMarshal cluster opts n).1 = .ok (c, conn) ↔
      c = requested w.uuid jsonMarshal n opts ∧ conn = dial cluster c (clientName w.uuid n opts) ∧
      w.instrumentTracing conn c.traceOptions = none ∧ w.instrumentMetrics conn c.meterOptions = none ∧
      w.ping conn = none := by
  refine ⟨newClient_ok, ?_⟩
  rintro ⟨rfl, rfl, ht, hm, hp⟩
  simp [newClient_eq, exposeInstrumenting_eq_none.2 ⟨ht, hm⟩, hp]

end Client
end Xredis
