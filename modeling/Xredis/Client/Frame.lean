import Xredis.Client.Session
import Xredis.Server.Frame

/-!
# What a call may change

Every method of the client builds its commands from its own arguments: one command on
its key, the batch of `HSet` and `HSetObject` on its key, or the `DEL` of `MassDelete` on
its keys. A command changes the keyspace only at its keys (`Server.run_frame`). So a call
changes nothing but the keys it names, and a session nothing but the keys its calls
name, on a single server as on a cluster; whatever else the keyspace holds is left as it
was, time to live included.

* `Cmd.Within` — a command whose written arguments name only some keys;
* `Op.keys`, `Op.sends_keys` — the keys a call names, and that each command it sends
  names only those;
* `Deployment.Frames` — a deployment whose commands change only their keys, as a single
  server's and a cluster's do (`redis_frames`, `redisCluster_frames`);
* `runOps_frame` — **the run**: a session changes only the keys its calls name;
* `session_frame` — so a key no call of a session names keeps its entry.
-/

namespace Xredis
namespace Rdb

open Go Server

/-- A command whose written arguments name only keys of which `K` holds. -/
def Cmd.Within (env : Env) (K : String → Prop) (cmd : Cmd) : Prop :=
  ∀ argv, writeArgs env cmd.args = .ok (.ok argv) → ∀ k ∈ commandKeys argv, K k

theorem Cmd.Within.mono {env : Env} {K K' : String → Prop} {cmd : Cmd} (h : cmd.Within env K)
    (hK : ∀ k, K k → K' k) : cmd.Within env K' :=
  fun argv hw k hk => hK k (h argv hw k hk)

/-- A deployment whose every command, pipeline and transaction changes only the keys of
its commands. -/
structure Deployment.Frames (d : Deployment) : Prop where
  execute : ∀ (s : Store) argv, s.Frame (d.execute s argv).2 (· ∈ commandKeys argv)
  runAll : ∀ (s : Store) cmds, s.Frame (d.runAll s cmds).2 fun x => ∃ c ∈ cmds, x ∈ commandKeys c
  execTx : ∀ (s : Store) cmds, s.Frame (d.execTx s cmds).2 fun x => ∃ c ∈ cmds, x ∈ commandKeys c

/-- Such a deployment keeps the keys outside `K` as they were in `s₀`, for commands whose
keys are in `K`. -/
theorem Deployment.Frames.keepsOn {d : Deployment} (hd : d.Frames) (s₀ : Store) (K : String → Prop) :
    d.KeepsOn (fun argv => ∀ k ∈ commandKeys argv, K k) (fun s => s₀.Frame s K) :=
  ⟨fun hA hs => (hs.trans (hd.execute _ _)).mono fun x hx => hx.elim id (hA x),
    fun hA hs => (hs.trans (hd.runAll _ _)).mono fun x hx => hx.elim id fun ⟨c, hc, hk⟩ => hA c hc x hk,
    fun hA hs => (hs.trans (hd.execTx _ _)).mono fun x hx => hx.elim id fun ⟨c, hc, hk⟩ => hA c hc x hk⟩

/-- A command whose written arguments are a read of the command table. -/
def Cmd.ReadOnly (env : Env) (cmd : Cmd) : Prop :=
  ∀ argv, writeArgs env cmd.args = .ok (.ok argv) → readOnly argv = true

end Rdb

namespace Client

open Go Rdb Server

theorem redis_frames : Deployment.Frames ⟨execute, runAll, execTx⟩ :=
  ⟨execute_frame, runAll_frame, execTx_frame⟩

theorem redisCluster_frames : Deployment.Frames ⟨executeCluster, runAllCluster, execTxCluster⟩ :=
  ⟨executeCluster_frame, runAllCluster_frame, execTxCluster_frame⟩

/-- A connection to such a deployment keeps the keys outside `K` as they were in `s₀`, for
commands within `K`. -/
theorem serve_frame (env : Env) {d : Deployment} (hd : d.Frames) (s₀ : Store) (K : String → Prop) :
    (serve env d).KeepsOn (Cmd.Within env K) (fun s => s₀.Frame s K) :=
  serve_keepsOn env (hd.keepsOn s₀ K)

/-! ### The keys of a call -/

/-- A command on one key: the name and the key first, nothing after them for `DEL` and
`EXISTS`. -/
theorem within_one_key {env : Env} {K : String → Prop} {cmd : Cmd} {name key : String}
    {vs : List Val} (hc : cmd.args = .str name :: .str key :: vs)
    (h : vs = [] ∨ ¬(lower name = "del" ∨ lower name = "exists")) (hk : K key) :
    cmd.Within env K := by
  intro argv hw k hm
  rw [hc, writeArgs_cons_ok _ _ (writeArg_str env name),
    writeArgs_cons_ok _ _ (writeArg_str env key)] at hw
  cases hr : writeArgs env vs with
  | error p => simp [hr] at hw
  | ok w =>
    cases w with
    | error e => simp [hr] at hw
    | ok rest =>
      simp only [hr, exceptMap_ok, Except.map, Except.ok.injEq] at hw
      subst hw
      have hkeys : commandKeys (name :: key :: rest) = [key] := by
        rcases h with rfl | h
        · cases hr
          simp only [commandKeys]
          split <;> rfl
        · simp [commandKeys, h]
      rw [hkeys, List.mem_singleton] at hm
      exact hm ▸ hk

theorem within_del {env : Env} {K : String → Prop} {keys : List String} (hk : ∀ k ∈ keys, K k) :
    (delCmd keys).Within env K := by
  intro argv hw k hm
  have hd : lower "del" = "del" := rfl
  rw [show (delCmd keys).args = ("del" :: keys).map .str from rfl, writeArgs_strs] at hw
  cases hw
  simp only [commandKeys, hd, true_or, if_true] at hm
  exact hk k hm

theorem within_hsetBatch {env : Env} {K : String → Prop} {key : String} (hk : K key)
    (ps : List (String × Val)) (ttl : Duration) : ∀ cmd ∈ hsetBatch key ps ttl, cmd.Within env K := by
  intro cmd hc
  simp only [hsetBatch, List.mem_append, List.mem_map, List.mem_singleton] at hc
  rcases hc with ⟨p, -, rfl⟩ | rfl <;> exact within_one_key rfl (.inr (by decide)) hk

/-- The keys a call names: its key, or the keys of `MassDelete`. -/
def Op.keys : Op → List String
  | .massDelete keys => keys
  | .hSet key .. | .hSetObject key .. | .hGetAll key .. | .hExists key .. | .hIncrBy key ..
  | .existsKey key | .incr key | .decr key | .set key .. | .delete key | .get key ..
  | .hGet key .. | .bool key | .bytes key | .float64 key | .int key | .int64 key
  | .uint64 key | .string key => [key]
  | .setStruct _ key .. => [key]

theorem Op.Sends.mono {A B : Cmd → Prop} (hAB : ∀ cmd, A cmd → B cmd) {op : Op} (h : op.Sends A) :
    op.Sends B := by
  cases op <;> simp only [Op.Sends] at h ⊢
  case hSet => exact fun c hc => hAB c (h c hc)
  case hSetObject => exact fun ps c hc => hAB c (h ps c hc)
  case setStruct => exact fun v => hAB _ (h v)
  all_goals exact hAB _ h

/-- Every command a call sends names only the call's keys. -/
theorem Op.sends_keys (env : Env) (op : Op) : op.Sends (Cmd.Within env (· ∈ op.keys)) := by
  have hk : ∀ key : String, key ∈ [key] := fun key => List.mem_singleton_self key
  cases op <;> simp only [Op.Sends, Op.keys]
  case hSet key _ _ _ => exact within_hsetBatch (hk key) _ _
  case hSetObject key _ _ => exact fun ps => within_hsetBatch (hk key) ps _
  case massDelete keys => exact within_del fun _ => id
  case hIncrBy key _ _ | set key _ _ => exact within_one_key rfl (.inr (by decide)) (hk key)
  case hExists key _ | hGet key _ _ => exact within_one_key rfl (.inr (by decide)) (hk key)
  case setStruct key _ _ => exact fun _ => within_one_key rfl (.inr (by decide)) (hk key)
  all_goals exact within_one_key rfl (.inl rfl) (hk _)

/-! ### Sessions -/

/-- **The run.** A session changes only the keys its calls name. -/
theorem runOps_frame (env : Env) (order : List (String × String) → List (String × String))
    {d : Deployment} (hd : d.Frames) {s s' : Store} (ops : List Op)
    (h : runOps env order (serve env d) s ops = .ok s') :
    s.Frame s' fun x => ∃ op ∈ ops, x ∈ op.keys :=
  runOps_keepsOn env order (serve_frame env hd s _) ops
    (fun op ho => (op.sends_keys env).mono fun _ hc => hc.mono fun _ hx => ⟨op, ho, hx⟩)
    (Store.Frame.refl _ _) h

/-- **A session changes only the keys its calls name**, on a single server as on a
cluster: a key that no call of the session names keeps its entry, value and time to live. -/
theorem session_frame (env : Env) (order : List (String × String) → List (String × String))
    (ops : List Op) {s s' : Store}
    (h : runOps env order (redis env) s ops = .ok s' ∨ runOps env order (redisCluster env) s ops = .ok s')
    (x : String) (hx : ∀ op ∈ ops, x ∉ op.keys) : s' x = s x := by
  have hf : s.Frame s' fun x => ∃ op ∈ ops, x ∈ op.keys :=
    h.elim (runOps_frame env order redis_frames ops) (runOps_frame env order redisCluster_frames ops)
  exact hf x fun ⟨op, ho, hk⟩ => hx op ho hk

theorem session_frame_massDelete :
    ∃ s', runOps Env.bare id (redis Env.bare) (Store.empty.put "x" (some ⟨.str "1", some 5000⟩))
        [.hSet "k" "f" (.str "v") ⟨10000000000, rfl⟩, .massDelete ["a", "b"], .incr "n"] = .ok s' ∧
      s' "x" = some ⟨.str "1", some 5000⟩ :=
  ⟨_, rfl, session_frame Env.bare id
    [.hSet "k" "f" (.str "v") ⟨10000000000, rfl⟩, .massDelete ["a", "b"], .incr "n"] (.inl rfl) "x"
    (by simp [Op.keys])⟩

/-! ### The reads change nothing -/

/-- The calls that only read: `HGetAll`, `HExists`, `Exists`, `Get`, `HGet` and the typed
getters. -/
def Op.readOnly : Op → Bool
  | .hGetAll .. | .hExists .. | .existsKey _ | .get .. | .hGet .. | .bool _ | .bytes _
  | .float64 _ | .int _ | .int64 _ | .uint64 _ | .string _ => true
  | _ => false

/-- A single server's reads leave the keyspace as it was. -/
theorem redis_keepsOn_reads (s₀ : Store) :
    Deployment.KeepsOn ⟨execute, runAll, execTx⟩ (readOnly · = true) (· = s₀) :=
  ⟨fun hA hs => (execute_readOnly _ _ hA).trans hs, fun hA hs => (runAll_readOnly _ _ hA).trans hs,
    fun hA hs => (execTx_readOnly _ _ hA).trans hs⟩

/-- A cluster's reads leave the keyspace as it was. -/
theorem redisCluster_keepsOn_reads (s₀ : Store) :
    Deployment.KeepsOn ⟨executeCluster, runAllCluster, execTxCluster⟩ (readOnly · = true) (· = s₀) :=
  ⟨fun hA hs => (executeCluster_readOnly _ _ hA).trans hs,
    fun hA hs => (runAllCluster_readOnly _ _ hA).trans hs,
    fun hA hs => (execTxCluster_readOnly _ _ hA).trans hs⟩

/-- A command written as a read's name first is a read. -/
theorem readOnly_of_name {env : Env} {cmd : Cmd} {name : String} {vs : List Val}
    (hc : cmd.args = .str name :: vs) (h : readOnly [name] = true) : cmd.ReadOnly env := by
  intro argv hw
  rw [hc, writeArgs_cons_ok _ _ (writeArg_str env name)] at hw
  cases hr : writeArgs env vs with
  | error p => simp [hr] at hw
  | ok w =>
    cases w with
    | error e => simp [hr] at hw
    | ok rest =>
      simp only [hr, exceptMap_ok, Except.map, Except.ok.injEq] at hw
      subst hw
      exact h

/-- A call that only reads sends only reads. -/
theorem Op.sends_readOnly (env : Env) (op : Op) (h : op.readOnly = true) :
    op.Sends (Cmd.ReadOnly env) := by
  cases op <;> simp only [Op.readOnly, Bool.false_eq_true] at h <;>
    exact readOnly_of_name rfl (by decide)

/-- **The reads never write.** A session of `HGetAll`, `HExists`, `Exists`, `Get`, `HGet`
and the typed getters leaves the keyspace as it was, on a single server as on a
cluster: no key is created, changed or deleted, and no time to live moves. -/
theorem session_readOnly (env : Env) (order : List (String × String) → List (String × String))
    (ops : List Op) (hr : ∀ op ∈ ops, op.readOnly = true) {s s' : Store}
    (h : runOps env order (redis env) s ops = .ok s' ∨ runOps env order (redisCluster env) s ops = .ok s') :
    s' = s := by
  have hA : ∀ op ∈ ops, op.Sends (Cmd.ReadOnly env) := fun op ho => op.sends_readOnly env (hr op ho)
  rcases h with h | h
  · exact runOps_keepsOn env order (serve_keepsOn env (redis_keepsOn_reads s)) ops hA rfl h
  · exact runOps_keepsOn env order (serve_keepsOn env (redisCluster_keepsOn_reads s)) ops hA rfl h

theorem session_readOnly_getters :
    (∀ op ∈ [Op.get "k" (.iface (.pointer .string) (.ptr (.str ""))), .hGetAll "h" (.iface (.pointer
        (.struct [.ascii "A" (some "a") .int])) (.ptr (.struct [.int 0]))), .existsKey "k", .int64 "n"],
      op.readOnly = true) ∧
    ∃ s', runOps Env.bare id (redis Env.bare) (Store.empty.put "n" (some ⟨.str "7", some 1000⟩))
        [.get "k" (.iface (.pointer .string) (.ptr (.str ""))), .hGetAll "h" (.iface (.pointer
          (.struct [.ascii "A" (some "a") .int])) (.ptr (.struct [.int 0]))), .existsKey "k", .int64 "n"] = .ok s' ∧
      s' = Store.empty.put "n" (some ⟨.str "7", some 1000⟩) :=
  have hr : ∀ op ∈ [Op.get "k" (.iface (.pointer .string) (.ptr (.str ""))), .hGetAll "h" (.iface
      (.pointer (.struct [.ascii "A" (some "a") .int])) (.ptr (.struct [.int 0]))), .existsKey "k", .int64 "n"],
      op.readOnly = true := by decide
  ⟨hr, _, rfl, session_readOnly Env.bare id _ hr (.inl rfl)⟩

end Client
end Xredis
