import Xredis.Client.Frame
import Xredis.Client.Writes
import Xredis.Server.Retry

/-!
# A call sent again

go-redis sends a command again when no reply came (`MaxRetries`, and `MaxRedirects` on a
cluster), and the command whose reply was lost may have run. Every call of the client
sends one command or one batch. Sent again on the state it left, a call other than the
counters returns and leaves that state: `SET`, `DEL`, the pipeline of `MassDelete` and
the transaction of `HSet` and `HSetObject` leave the keyspace as they found it when run
again (`Server.execute_set_twice` and the lemmas after it), and the reads change nothing.
So a session in which such calls are sent again ends as the session without them.
`INCR`, `DECR` and `HINCRBY` count again.

* `Repeatable` — a call that, run again on the state it left, returns and leaves it;
* `Deployment.RepeatsOn`, `Conn.RepeatsOn` — a deployment and a connection that repeat
  some commands and batches (`redis_repeatsOn`, `redisCluster_repeatsOn`,
  `serve_repeatsOn`);
* `Op.apply_repeats` — **the step**: a call sent again;
* `Retried`, `runOps_retried` — **the run**: a session with calls sent again;
* `session_retried` — on a single server and a cluster, every call but the counters.
-/

namespace Xredis
namespace Rdb

open Go Server

/-- A call on the state `σ` that, run again on the state it left, returns and leaves that
state as it was. -/
def Repeatable {σ α : Type} (f : σ → Except Panic (α × σ)) : Prop :=
  ∀ s r s', f s = .ok (r, s') → ∃ r', f s' = .ok (r', s')

section Repeatable

variable {σ α β : Type}

/-- A call that leaves the state as it was. -/
theorem Repeatable.const (a : α) : Repeatable fun s : σ => .ok (a, s) := by
  intro s r s' h
  cases h
  exact ⟨_, rfl⟩

/-- A call that returns what it computes from its connection's answer, beside the state
the connection left. -/
theorem Repeatable.then {f : σ → Except Panic (α × σ)} (hf : Repeatable f) (g : α → β) :
    Repeatable fun s => f s >>= fun p => pure (g p.1, p.2) := by
  intro s r s' h
  cases hs : f s with
  | error p => simp [hs] at h
  | ok q =>
    obtain ⟨a, t⟩ := q
    simp only [hs, ok_bind, pure_eq_ok, Except.ok.injEq, Prod.mk.injEq] at h
    obtain ⟨r', hr'⟩ := hf _ _ _ hs
    exact ⟨g r', by simp [← h.2, hr']⟩

/-- What a repeatable call leaves, run again on it. -/
theorem Repeatable.map_snd {f : σ → Except Panic (α × σ)} (hf : Repeatable f) {s s' : σ}
    (h : (f s).map Prod.snd = .ok s') : (f s').map Prod.snd = .ok s' := by
  obtain ⟨r, h⟩ := Client.exceptMap_snd_ok h
  obtain ⟨r', h'⟩ := hf _ _ _ h
  rw [h']
  rfl

end Repeatable

/-- A deployment on which a command of which `A` holds, a pipeline of which `P` holds and a
transaction of which `T` holds, sent again on what it left, leaves it as it was. -/
structure Deployment.RepeatsOn (d : Deployment) (A : List String → Prop)
    (P T : List (List String) → Prop) : Prop where
  execute : ∀ {argv}, A argv → ∀ s, (d.execute (d.execute s argv).2 argv).2 = (d.execute s argv).2
  runAll : ∀ {argvs}, P argvs → ∀ s, (d.runAll (d.runAll s argvs).2 argvs).2 = (d.runAll s argvs).2
  execTx : ∀ {argvs}, T argvs → ∀ s, (d.execTx (d.execTx s argvs).2 argvs).2 = (d.execTx s argvs).2

/-- The batches it repeats, as `Deployment.batch` leaves them. -/
theorem Deployment.RepeatsOn.batch {d : Deployment} {A : List String → Prop}
    {P T : List (List String) → Prop} (hd : d.RepeatsOn A P T) {tx : Bool} {argvs : List (List String)}
    (hb : (if tx then T else P) argvs) (s : Store) :
    d.batch tx (d.batch tx s argvs) argvs = d.batch tx s argvs := by
  cases tx
  · exact hd.runAll hb s
  · exact hd.execTx hb s

/-- A connection that repeats the commands of which `A` holds and the batches of which `B`
holds. -/
structure Conn.RepeatsOn {σ : Type} (c : Conn σ) (A : Cmd → Prop) (B : Bool → List Cmd → Prop) :
    Prop where
  process : ∀ {cmd}, A cmd → Repeatable (c.process · cmd)
  exec : ∀ {tx cs}, B tx cs → Repeatable (c.exec · tx cs)

end Rdb

namespace Client

open Go Rdb Server

variable {σ : Type}

/-- A connection to such a deployment repeats what the deployment repeats, of the commands
as `WriteArg` writes them. -/
theorem serve_repeatsOn (env : Env) {d : Deployment} {A : List String → Prop}
    {P T : List (List String) → Prop} (hd : d.RepeatsOn A P T) :
    (serve env d).RepeatsOn (fun cmd => ∀ argv, writeArgs env cmd.args = .ok (.ok argv) → A argv)
      (fun tx cs => ∀ argvs, encodeAll env cs = .ok (.ok argvs) → (if tx then T else P) argvs) where
  process hA s r s' h := by
    rcases serve_process_cases h with ⟨rfl, hu⟩ | ⟨argv, hw, rfl, hu⟩
    · exact hu _
    · obtain ⟨r', h'⟩ := hu (d.execute s argv).2
      rw [hd.execute (hA _ hw) s] at h'
      exact ⟨r', h'⟩
  exec hB s r s' h := by
    rcases serve_exec_cases h with ⟨rfl, hu⟩ | ⟨argvs, he, rfl, hu⟩
    · exact hu _
    · obtain ⟨r', h'⟩ := hu (d.batch _ s argvs)
      rw [hd.batch (hB argvs he) s] at h'
      exact ⟨r', h'⟩

/-! ### Each write, sent again -/

section Methods

variable {c : Conn σ} {A : Cmd → Prop} {B : Bool → List Cmd → Prop} (hc : c.RepeatsOn A B)
include hc

theorem cmdErr_repeatable {cmd : Cmd} (hA : A cmd) : Repeatable (cmdErr c · cmd) :=
  (hc.process hA).then Cmder.err

theorem hSet_repeatable {key field : String} {value : Val} {ttl : Duration}
    (hB : B true (hsetBatch key [(field, value)] ttl)) : Repeatable (hSet c · key field value ttl) := by
  unfold hSet
  split
  · exact Repeatable.const _
  · exact (hc.exec hB).then fun p => execResult p.1 p.2

theorem hSetObject_repeatable {key : String} {data : Val} {ttl : Duration}
    (hB : ∀ ps, B true (hsetBatch key ps ttl)) : Repeatable (hSetObject c · key data ttl) := by
  intro s r s' h
  unfold hSetObject at h ⊢
  cases hn : numFieldOf data with
  | error p => simp [hn] at h
  | ok fs =>
    cases hq : queueFields key fs (structVals data) with
    | error p => simp [hn, hq] at h
    | ok q =>
      cases q with
      | none =>
        simp only [hn, hq, ok_bind, pure_eq_ok, Except.ok.injEq, Prod.mk.injEq] at h ⊢
        obtain ⟨-, rfl⟩ := h
        exact ⟨_, rfl, trivial⟩
      | some cmds =>
        simp only [hn, hq, ok_bind, queueFields_some key fs _ hq] at h ⊢
        exact (hc.exec (hB _)).then (fun p => execResult p.1 p.2) s r s' h

theorem massDelete_repeatable {keys : List String} (hB : B false [delCmd keys]) :
    Repeatable (massDelete c · keys) :=
  (hc.exec hB).then fun p => massDeleteErr p.1 p.2

theorem setStruct_repeatable {marshal : Val → Except String String} {key : String} {val : Val}
    {expiration : Duration} (hA : ∀ v, A (setCmd key v expiration)) :
    Repeatable (setStruct marshal c · key val expiration) := by
  intro s r s' h
  unfold setStruct at h ⊢
  cases hm : marshal val with
  | error e =>
    simp only [hm, Except.ok.injEq, Prod.mk.injEq] at h ⊢
    obtain ⟨-, rfl⟩ := h
    exact ⟨_, rfl, trivial⟩
  | ok b =>
    simp only [hm] at h ⊢
    exact cmdErr_repeatable hc (hA _) s r s' h

end Methods

/-! ### Calls and sessions sent again -/

/-- What sending a call again asks of its connection: that it repeat the one command or
batch the call sends, for a call that writes; nothing for a read, which changes nothing. -/
def Op.Resends (A : Cmd → Prop) (B : Bool → List Cmd → Prop) : Op → Prop
  | .hSet key field value ttl => B true (hsetBatch key [(field, value)] ttl)
  | .hSetObject key _ ttl => ∀ ps, B true (hsetBatch key ps ttl)
  | .hIncrBy key field n => A (hincrbyCmd key field n)
  | .incr key => A (incrCmd key)
  | .decr key => A (decrCmd key)
  | .set key val expiration => A (setCmd key val expiration)
  | .delete key => A (delCmd [key])
  | .massDelete keys => B false [delCmd keys]
  | .setStruct _ key _ expiration => ∀ val, A (setCmd key val expiration)
  | .hGetAll .. | .hExists .. | .existsKey _ | .get .. | .hGet .. | .bool _ | .bytes _
  | .float64 _ | .int _ | .int64 _ | .uint64 _ | .string _ => True

/-- **The step.** A call sent again on the state it left returns, and leaves that state, on
a connection that repeats what the call writes and whose reads change nothing. -/
theorem Op.apply_repeats (env : Env) (order : List (String × String) → List (String × String))
    {c : Conn σ} {A : Cmd → Prop} {B : Bool → List Cmd → Prop} (hc : c.RepeatsOn A B)
    (hr : ∀ s₀, c.KeepsOn (Cmd.ReadOnly env) (· = s₀)) {s s' : σ} (op : Op) (hop : op.Resends A B)
    (h : op.apply env order c s = .ok s') : op.apply env order c s' = .ok s' := by
  cases hro : op.readOnly
  · cases op <;> simp only [Op.readOnly, Bool.true_eq_false] at hro <;>
      simp only [Op.Resends] at hop <;> simp only [Op.apply] at h ⊢
    case hSet => exact (hSet_repeatable hc hop).map_snd h
    case hSetObject => exact (hSetObject_repeatable hc hop).map_snd h
    case massDelete => exact (massDelete_repeatable hc hop).map_snd h
    case setStruct => exact (setStruct_repeatable hc hop).map_snd h
    case hIncrBy | incr | decr | set | delete => exact (cmdErr_repeatable hc hop).map_snd h
  · obtain rfl := Op.apply_keepsOn env order (hr s) rfl op (op.sends_readOnly env hro) h
    exact h

/-- The session `ops'` is `ops` with some calls of which `R` holds sent again right after
they ran: go-redis sends a command again when its reply was lost (`MaxRetries`, and
`MaxRedirects` on a cluster), and the lost reply may be of a command that ran. -/
inductive Retried (R : Op → Prop) : List Op → List Op → Prop
  | nil : Retried R [] []
  | cons (op : Op) {ops ops' : List Op} : Retried R ops ops' → Retried R (op :: ops) (op :: ops')
  | again (op : Op) {ops ops' : List Op} : R op → Retried R (op :: ops) ops' →
      Retried R (op :: ops) (op :: ops')

/-- **The run.** A session with calls sent again ends as it would have without them, on a
connection that repeats what those calls write and whose reads change nothing. -/
theorem runOps_retried (env : Env) (order : List (String × String) → List (String × String))
    {c : Conn σ} {A : Cmd → Prop} {B : Bool → List Cmd → Prop} (hc : c.RepeatsOn A B)
    (hr : ∀ s₀, c.KeepsOn (Cmd.ReadOnly env) (· = s₀)) {R : Op → Prop}
    (hR : ∀ op, R op → op.Resends A B) {ops ops' : List Op} (hi : Retried R ops ops') (s : σ) :
    runOps env order c s ops' = runOps env order c s ops := by
  induction hi generalizing s with
  | nil => rfl
  | cons op _ ih => simp only [runOps, ih]
  | again op hop _ ih =>
    simp only [runOps, ih]
    cases h : op.apply env order c s with
    | error p => rfl
    | ok s₁ => simp only [ok_bind, Op.apply_repeats env order hc hr op (hR op hop) h]

/-! ### On a Redis server and a cluster -/

/-- `SET` and `DEL`, as the client writes them. -/
def SetOrDel (argv : List String) : Prop :=
  ∃ rest, argv = "set" :: rest ∨ argv = "del" :: rest

/-- The pipeline of `MassDelete`, as written. -/
def DelPipeline (argvs : List (List String)) : Prop :=
  ∃ keys, argvs = [("del" :: keys)]

/-- The transaction of `HSet` and `HSetObject`, as written: the `HSET`s of the fields, then
`EXPIRE` with at most ten digits. -/
def HSetTx (argvs : List (List String)) : Prop :=
  ∃ (key : String) (qs : List (String × String)) (n : Int),
    |n| < 10 ^ 10 ∧ argvs = qs.map (hsetArgv key) ++ [["expire", key, formatInt n]]

theorem redis_repeatsOn : Deployment.RepeatsOn ⟨execute, runAll, execTx⟩ SetOrDel DelPipeline HSetTx where
  execute := by
    rintro _ ⟨rest, rfl | rfl⟩ s
    · exact execute_set_twice s rest
    · exact execute_del_twice s rest
  runAll := by
    rintro _ ⟨keys, rfl⟩ s
    exact execute_del_twice s keys
  execTx := by
    rintro _ ⟨key, qs, n, hn, rfl⟩ s
    exact execTx_hsetBatch_twice s key qs hn

theorem redisCluster_repeatsOn :
    Deployment.RepeatsOn ⟨executeCluster, runAllCluster, execTxCluster⟩ SetOrDel DelPipeline HSetTx where
  execute := by
    rintro _ ⟨rest, rfl | rfl⟩ s
    · exact executeCluster_twice (execute_set_twice · rest) s
    · exact executeCluster_twice (execute_del_twice · rest) s
  runAll := by
    rintro _ ⟨keys, rfl⟩ s
    exact executeCluster_twice (execute_del_twice · keys) s
  execTx := by
    rintro _ ⟨key, qs, n, hn, rfl⟩ s
    exact execTxCluster_twice (execTx_hsetBatch_twice · key qs hn) s

/-- The counters: `Incr`, `Decr` and `HIncrBy`. -/
def Op.counts : Op → Bool
  | .hIncrBy .. | .incr _ | .decr _ => true
  | _ => false

/-- A command whose name is written first. -/
theorem writeArgs_str_cons {env : Env} {name : String} {vs : List Val} {argv : List String}
    (hw : writeArgs env (.str name :: vs) = .ok (.ok argv)) : ∃ rest, argv = name :: rest := by
  rw [writeArgs_cons_ok _ _ (writeArg_str env name)] at hw
  cases hr : writeArgs env vs with
  | error p => simp [hr] at hw
  | ok w =>
    cases w with
    | error e => simp [hr] at hw
    | ok rest =>
      simp only [hr, exceptMap_ok, Except.map, Except.ok.injEq] at hw
      exact ⟨rest, hw.symm⟩

theorem hSetTx_of_encodeAll {env : Env} {key : String} {ps : List (String × Val)} {ttl : Duration}
    {argvs : List (List String)} (he : encodeAll env (hsetBatch key ps ttl) = .ok (.ok argvs)) :
    HSetTx argvs := by
  rcases encodeAll_hsetBatch env key ttl ps he with ⟨e, h⟩ | ⟨qs, -, h⟩
  · cases h
  · exact ⟨key, qs, _, formatSec_abs_lt ttl, Except.ok.inj h⟩

/-- Every call but the counters asks of a Redis connection only to repeat `SET`, `DEL`,
the pipeline of `MassDelete` and the transaction of `HSet` and `HSetObject`. -/
theorem Op.resends_of_counts (env : Env) (op : Op) (h : op.counts = false) :
    op.Resends (fun cmd => ∀ argv, writeArgs env cmd.args = .ok (.ok argv) → SetOrDel argv)
      (fun tx cs => ∀ argvs, encodeAll env cs = .ok (.ok argvs) →
        (if tx then HSetTx else DelPipeline) argvs) := by
  have hset : ∀ {key val expiration}, ∀ argv,
      writeArgs env (setCmd key val expiration).args = .ok (.ok argv) → SetOrDel argv :=
    fun _ hw => (writeArgs_str_cons hw).imp fun _ => .inl
  cases op <;> simp only [Op.counts, Bool.true_eq_false] at h <;> simp only [Op.Resends]
  case hSet => exact fun _ he => hSetTx_of_encodeAll he
  case hSetObject => exact fun _ _ he => hSetTx_of_encodeAll he
  case set => exact hset
  case setStruct => exact fun _ => hset
  case delete => exact fun _ hw => (writeArgs_str_cons hw).imp fun _ => .inr
  case massDelete keys =>
    intro argvs he
    rw [encodeAll_cons, show (delCmd keys).args = ("del" :: keys).map .str from rfl,
      writeArgs_strs] at he
    cases he
    exact ⟨keys, rfl⟩

/-- **A call sent again changes nothing more.** A session in which calls other than the
counters are sent again right after they ran, as go-redis does after a network error,
ends as the session without them: the same panic, or the same keyspace, on a single
server as on a cluster. -/
theorem session_retried (env : Env) (order : List (String × String) → List (String × String))
    {ops ops' : List Op} (hi : Retried (Op.counts · = false) ops ops') (s : Store) :
    ∀ c ∈ [redis env, redisCluster env], runOps env order c s ops' = runOps env order c s ops := by
  intro c hc
  simp only [List.mem_cons, List.mem_singleton, List.not_mem_nil, or_false] at hc
  rcases hc with rfl | rfl
  · exact runOps_retried env order (serve_repeatsOn env redis_repeatsOn)
      (fun s₀ => serve_keepsOn env (redis_keepsOn_reads s₀)) (Op.resends_of_counts env) hi s
  · exact runOps_retried env order (serve_repeatsOn env redisCluster_repeatsOn)
      (fun s₀ => serve_keepsOn env (redisCluster_keepsOn_reads s₀)) (Op.resends_of_counts env) hi s

theorem session_retried_hSet :
    Retried (Op.counts · = false) [.hSet "k" "f" (.str "v") ⟨10000000000, rfl⟩, .incr "n", .massDelete ["k"]]
        [.hSet "k" "f" (.str "v") ⟨10000000000, rfl⟩, .hSet "k" "f" (.str "v") ⟨10000000000, rfl⟩, .incr "n",
          .massDelete ["k"], .massDelete ["k"]] ∧
      runOps Env.bare id (redis Env.bare) Store.empty
          [.hSet "k" "f" (.str "v") ⟨10000000000, rfl⟩, .hSet "k" "f" (.str "v") ⟨10000000000, rfl⟩, .incr "n",
            .massDelete ["k"], .massDelete ["k"]] =
        runOps Env.bare id (redis Env.bare) Store.empty
          [.hSet "k" "f" (.str "v") ⟨10000000000, rfl⟩, .incr "n", .massDelete ["k"]] ∧
      (runOps Env.bare id (redis Env.bare) Store.empty [.incr "n", .incr "n"]).map (· "n") =
        .ok (some ⟨.str "2", none⟩) ∧
      (runOps Env.bare id (redis Env.bare) Store.empty [.incr "n"]).map (· "n") = .ok (some ⟨.str "1", none⟩) :=
  have hi : Retried (Op.counts · = false) [.hSet "k" "f" (.str "v") ⟨10000000000, rfl⟩, .incr "n",
      .massDelete ["k"]] [.hSet "k" "f" (.str "v") ⟨10000000000, rfl⟩, .hSet "k" "f" (.str "v")
        ⟨10000000000, rfl⟩, .incr "n", .massDelete ["k"], .massDelete ["k"]] :=
    .again _ rfl (.cons _ (.cons _ (.again _ rfl (.cons _ .nil))))
  ⟨hi, session_retried Env.bare id hi Store.empty _ (List.mem_cons_self _ _), rfl, rfl⟩

end Client
end Xredis
