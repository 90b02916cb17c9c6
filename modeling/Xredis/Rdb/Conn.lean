import Xredis.Rdb.Proto
import Xredis.Server.Cluster

/-!
# The go-redis connection the client talks through

The repository's client holds an `rdb.UniversalClient` and uses three things of it: one
command (`Process`), a plain pipeline (`Pipelined`) and a transactional one
(`TxPipeline().Exec`, sent as `MULTI … EXEC`). `Conn σ` is that interface over the state
`σ` of whatever the connection talks to; the results about the client that hold for
every `Conn` hold whatever the network does.

* `redis env` — a connection to a Redis server: arguments written by `WriteArg` (a
  refused argument sends nothing and fails every command of the batch), commands run by
  the server model, replies read into the commands; `Exec`'s own error is the first
  command error (`cmdsFirstErr`). `redisCluster env` is the same over a Redis Cluster;
  both are `serve` of a `Deployment`.
* `closed` — a client after `Close()`: `getConn` fails before anything is written, so a
  pipeline returns `redis: client is closed` while its commands keep no error.
* `Conn.logged` — a connection that also records every call it is given.
* The command builders of go-redis's `cmdable` that the client calls.
-/

namespace Xredis

open Go Server

/-- The error values that reach the client's callers: the repository's two sentinels,
`redis.Nil`, the server's error replies, and everything else by its message. -/
inductive Error
  /-- `ErrKeyNotFound` -/
  | keyNotFound
  /-- `ErrInvalidFieldType` -/
  | invalidFieldType
  /-- `redis.Nil`: go-redis's error for a missing value -/
  | nil
  /-- an error reply of the server (`proto.RedisError`) -/
  | server (msg : String)
  /-- transport, argument writing, decoding -/
  | other (msg : String)
  deriving DecidableEq, Repr

/-- `Error()` of each error. -/
def Error.text : Error → String
  | keyNotFound => "key not found"
  | invalidFieldType => "invalid field type"
  | nil => "redis: nil"
  | server m => m
  | other m => m

namespace Rdb

/-- The go-redis command type of a command, which decides how its reply is read. -/
inductive CmdType
  | int | bool | string | status | mapStringString
  deriving DecidableEq, Repr

/-- A go-redis command: its type and the Go values of its arguments, name first. -/
structure Cmd where
  type : CmdType
  args : List Val

/-- A command after it ran: its error, and the reply it read (`none`: not read). -/
structure Cmder where
  err : Option Error
  val : Option Reply

/-- `readReply` of a command type: an error reply becomes the command's error, a nil
reply `redis.Nil` (except for a `BoolCmd`, which reads it as `false`). -/
def CmdType.read (t : CmdType) : Reply → Cmder
  | .err m => ⟨some (.server m), none⟩
  | .nil => if t = .bool then ⟨none, some .nil⟩ else ⟨some .nil, none⟩
  | r => ⟨none, some r⟩

/-- `cmdsFirstErr`: the first error among the commands. -/
def cmdsFirstErr : List Cmder → Option Error
  | [] => none
  | c :: cs => match c.err with
    | some e => some e
    | none => cmdsFirstErr cs

/-- A go-redis client as the repository's client uses it, over the state `σ` of what it
talks to: `process` sends one command, `exec` a pipeline (`MULTI`/`EXEC` when `tx`),
returning `Exec`'s error and the commands. Either may panic. -/
structure Conn (σ : Type) where
  process : σ → Cmd → Except Panic (Cmder × σ)
  exec : σ → Bool → List Cmd → Except Panic ((Option Error × List Cmder) × σ)

/-- `writeCmds`: every argument of every command, stopping at the first error or panic. -/
def encodeAll (env : Env) : List Cmd → Except Panic (Except String (List (List String)))
  | [] => .ok (.ok [])
  | c :: cs => do
    match ← writeArgs env c.args with
    | .error e => pure (.error e)
    | .ok argv => return (← encodeAll env cs).map (argv :: ·)

/-- The commands with the replies read into them, in order. -/
def readAll : List Cmd → List Reply → List Cmder
  | c :: cs, r :: rs => c.type.read r :: readAll cs rs
  | _, _ => []

/-- Every command of a batch failed with one error. -/
def failAll (cs : List Cmd) (e : Error) : List Cmder :=
  cs.map fun _ => ⟨some e, none⟩

/-- The batch once the server replied: the commands and `Exec`'s error. -/
def finish (cs : List Cmd) (replies : List Reply) : Option Error × List Cmder :=
  let rs := readAll cs replies
  (cmdsFirstErr rs, rs)

theorem encodeAll_cons (env : Env) (c : Cmd) (cs : List Cmd) :
    encodeAll env (c :: cs) =
      (writeArgs env c.args).bind fun w => match w with
        | .error e => .ok (.error e)
        | .ok argv => (encodeAll env cs).map (·.map (argv :: ·)) := by
  simp only [encodeAll, bind_pure_comp]
  rfl

/-- Every argument list `encodeAll` writes is one of its commands' as `WriteArg` writes it. -/
theorem mem_encodeAll {env : Env} : ∀ {cs : List Cmd} {argvs : List (List String)},
    encodeAll env cs = .ok (.ok argvs) →
      ∀ argv ∈ argvs, ∃ c ∈ cs, writeArgs env c.args = .ok (.ok argv)
  | [], _, h => by cases h; simp
  | c :: cs, argvs, h => by
    rw [encodeAll_cons] at h
    cases hw : writeArgs env c.args with
    | error p => simp [hw] at h
    | ok w =>
      cases w with
      | error e => simp [hw] at h
      | ok argv =>
        cases he : encodeAll env cs with
        | error p => simp [hw, he] at h
        | ok w =>
          cases w with
          | error e => simp [hw, he, Except.map] at h
          | ok rest =>
            simp only [hw, he, exceptBind_ok, exceptMap_ok, Except.map, Except.ok.injEq] at h
            subst h
            intro a ha
            rcases List.mem_cons.1 ha with rfl | ha
            · exact ⟨c, List.mem_cons_self _ _, hw⟩
            · obtain ⟨c', hc', hw'⟩ := mem_encodeAll he a ha
              exact ⟨c', List.mem_cons_of_mem _ hc', hw'⟩

theorem readAll_append {cs : List Cmd} {rs : List Reply} (h : cs.length = rs.length)
    (cs' : List Cmd) (rs' : List Reply) :
    readAll (cs ++ cs') (rs ++ rs') = readAll cs rs ++ readAll cs' rs' := by
  induction cs generalizing rs with
  | nil => cases rs <;> simp_all [readAll]
  | cons c cs ih => cases rs <;> simp_all [readAll]

theorem cmdsFirstErr_append (a b : List Cmder) :
    cmdsFirstErr (a ++ b) = match cmdsFirstErr a with
      | some e => some e
      | none => cmdsFirstErr b := by
  induction a with
  | nil => rfl
  | cons c a ih => cases h : c.err <;> simp [cmdsFirstErr, h, ih]

/-- Integer replies carry no error, whatever the commands' types. -/
theorem cmdsFirstErr_readAll_int (cs : List Cmd) (ns : List Int) :
    cmdsFirstErr (readAll cs (ns.map .int)) = none := by
  induction cs generalizing ns with
  | nil => rfl
  | cons c cs ih => cases ns <;> simp [readAll, CmdType.read, cmdsFirstErr, ih]

/-- One error reply for each of a non-empty list of commands: the batch fails with it. -/
theorem cmdsFirstErr_readAll_err {α : Type} (m : String) :
    ∀ (cs : List Cmd) (qs : List α), cs.length = qs.length → cs ≠ [] →
      cmdsFirstErr (readAll cs (qs.map fun _ => .err m)) = some (.server m)
  | c :: _, _ :: _, _, _ => by simp [readAll, CmdType.read, cmdsFirstErr]
  | [], _, _, h => absurd rfl h
  | _ :: _, [], h, _ => by simp at h

/-- What a Redis deployment does with one command, a pipeline and a transaction. -/
structure Deployment where
  execute : Store → List String → Reply × Store
  runAll : Store → List (List String) → List Reply × Store
  execTx : Store → List (List String) → Except String (List Reply) × Store

/-- A connection to a Redis deployment whose arguments are written by `WriteArg`. -/
def serve (env : Env) (d : Deployment) : Conn Store where
  process s c := do
    match ← writeArgs env c.args with
    | .error e => pure (⟨some (.other e), none⟩, s)
    | .ok argv =>
      let r := d.execute s argv
      pure (c.type.read r.1, r.2)
  exec s tx cs := do
    if cs.isEmpty then return ((none, []), s)
    match ← encodeAll env cs with
    | .error e => pure ((some (.other e), failAll cs (.other e)), s)
    | .ok argvs =>
      if tx then
        match d.execTx s argvs with
        | (.error m, s') => pure ((some (.server m), failAll cs (.server m)), s')
        | (.ok replies, s') => pure (finish cs replies, s')
      else
        let r := d.runAll s argvs
        pure (finish cs r.1, r.2)

/-- A connection to a single Redis server. -/
def redis (env : Env) : Conn Store :=
  serve env ⟨execute, runAll, execTx⟩

/-- A connection to a Redis Cluster through the go-redis cluster client. The client sends
the commands of a transaction that lie in one slot in a `MULTI … EXEC` of their own; the
repository's transactions write one key, so they lie in one slot. -/
def redisCluster (env : Env) : Conn Store :=
  serve env ⟨executeCluster, runAllCluster, execTxCluster⟩

/-- `pool.ErrClosed`. -/
def errClosed : Error := .other "redis: client is closed"

/-- A client after `Close()`: getting a connection fails before anything is written, so
one command carries the error, and a pipeline returns it while its commands carry none. -/
def closed (σ : Type) : Conn σ where
  process s _ := .ok (⟨some errClosed, none⟩, s)
  exec s _ cs := .ok ((some errClosed, cs.map fun _ => ⟨none, none⟩), s)

/-- A call a connection was given. -/
inductive Call
  | process (c : Cmd)
  | exec (tx : Bool) (cs : List Cmd)

/-- `c`, with every call it is given appended to a log. -/
def Conn.logged {σ : Type} (c : Conn σ) : Conn (σ × List Call) where
  process | (s, log), cmd => do
    let (r, s') ← c.process s cmd
    pure (r, (s', log ++ [.process cmd]))
  exec | (s, log), tx, cs => do
    let (r, s') ← c.exec s tx cs
    pure (r, (s', log ++ [.exec tx cs]))

/-! ### Commands -/

/-- `time.Duration`: a signed 64-bit count of nanoseconds. -/
structure Duration where
  ns : Int
  fits : fitsSigned 64 ns = true

/-- `time.Second`, in nanoseconds. -/
def second : Int := 1000000000

/-- go-redis `formatSec`: whole seconds, truncated toward zero, and 1 for a positive
duration under a second. -/
def formatSec (d : Duration) : Int :=
  if 0 < d.ns ∧ d.ns < second then 1 else d.ns.tdiv second

/-- go-redis `formatMs`. -/
def formatMs (d : Duration) : Int :=
  if 0 < d.ns ∧ d.ns < 1000000 then 1 else d.ns.tdiv 1000000

/-- go-redis `usePrecise`: a duration that is not a whole number of seconds. -/
def usePrecise (d : Duration) : Bool :=
  d.ns < second || d.ns.tmod second != 0

/-- An `int64` argument. -/
def i64 (i : Int) : Val := .iface .int64 (.int i)

/-- `HSet(ctx, key, field, value)`. -/
def hsetCmd (key field : String) (value : Val) : Cmd :=
  ⟨.int, [.str "hset", .str key, .str field, value]⟩

/-- `Expire(ctx, key, expiration)`. -/
def expireCmd (key : String) (d : Duration) : Cmd :=
  ⟨.bool, [.str "expire", .str key, i64 (formatSec d)]⟩

/-- `Del(ctx, keys...)`. -/
def delCmd (keys : List String) : Cmd :=
  ⟨.int, .str "del" :: keys.map .str⟩

/-- `Get(ctx, key)`. -/
def getCmd (key : String) : Cmd :=
  ⟨.string, [.str "get", .str key]⟩

/-- The expiry arguments of `Set`: `px` or `ex` for a positive duration, `keepttl` for
`KeepTTL` (-1), none otherwise. -/
def setExpiryArgs (d : Duration) : List Val :=
  if 0 < d.ns then
    if usePrecise d then [.str "px", i64 (formatMs d)] else [.str "ex", i64 (formatSec d)]
  else if d.ns = -1 then [.str "keepttl"]
  else []

/-- `Set(ctx, key, value, expiration)`. -/
def setCmd (key : String) (value : Val) (d : Duration) : Cmd :=
  ⟨.status, [.str "set", .str key, value] ++ setExpiryArgs d⟩

/-- `HGetAll(ctx, key)`. -/
def hgetallCmd (key : String) : Cmd :=
  ⟨.mapStringString, [.str "hgetall", .str key]⟩

/-- `HGet(ctx, key, field)`. -/
def hgetCmd (key field : String) : Cmd :=
  ⟨.string, [.str "hget", .str key, .str field]⟩

/-- `HExists(ctx, key, field)`. -/
def hexistsCmd (key field : String) : Cmd :=
  ⟨.bool, [.str "hexists", .str key, .str field]⟩

/-- `HIncrBy(ctx, key, field, incr)`. -/
def hincrbyCmd (key field : String) (incr : Int) : Cmd :=
  ⟨.int, [.str "hincrby", .str key, .str field, i64 incr]⟩

/-- `Exists(ctx, keys...)`. -/
def existsCmd (keys : List String) : Cmd :=
  ⟨.int, .str "exists" :: keys.map .str⟩

/-- `Incr(ctx, key)`. -/
def incrCmd (key : String) : Cmd :=
  ⟨.int, [.str "incr", .str key]⟩

/-- `Decr(ctx, key)`. -/
def decrCmd (key : String) : Cmd :=
  ⟨.int, [.str "decr", .str key]⟩

end Rdb
end Xredis
