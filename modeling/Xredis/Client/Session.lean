import Xredis.Client.Get
import Xredis.Server.Invariant

/-!
# A session of client calls

The client touches what it talks to only through its connection. So a property of that
state which every call of the connection keeps (`Conn.Keeps`) is kept by every method of
the client, and by any sequence of them (`runOps`). A Redis server keeps its keyspace in
the shape of `Store.WF`; every keyspace a session reaches from the empty one has it.

* `serve_process_cases`, `serve_exec_cases` — what a command and a batch sent to a
  deployment leave: the state as it was, or what the deployment leaves of the written
  commands, from every state alike;
* `redis_keeps_wf` — a Redis connection keeps `Store.WF`, one command, a pipeline or a
  transaction at a time;
* `Op.apply_keepsOn`, `runOps_keepsOn` — **the step and the run**: each call, and a session
  of them, keeps what the connection keeps of the commands the calls send (`Op.Sends`);
* `session_wf` — every keyspace a session reaches from the empty one is well formed;
* `session_hGetAll_keyNotFound_iff` — on such a keyspace `HGetAll` returns `ErrKeyNotFound`
  exactly when the key is missing.
-/

namespace Xredis
namespace Rdb

/-- A connection whose every call that returns keeps `P` of the state it talks to. -/
structure Conn.Keeps {σ : Type} (c : Conn σ) (P : σ → Prop) : Prop where
  process : ∀ {s cmd r s'}, P s → c.process s cmd = .ok (r, s') → P s'
  exec : ∀ {s tx cs r s'}, P s → c.exec s tx cs = .ok (r, s') → P s'

/-- A connection whose every call that returns keeps `P`, when `A` holds of the commands
it is given. -/
structure Conn.KeepsOn {σ : Type} (c : Conn σ) (A : Cmd → Prop) (P : σ → Prop) : Prop where
  process : ∀ {s cmd r s'}, A cmd → P s → c.process s cmd = .ok (r, s') → P s'
  exec : ∀ {s tx cs r s'}, (∀ cmd ∈ cs, A cmd) → P s → c.exec s tx cs = .ok (r, s') → P s'

theorem Conn.Keeps.keepsOn {σ : Type} {c : Conn σ} {P : σ → Prop} (hc : c.Keeps P) (A : Cmd → Prop) :
    c.KeepsOn A P :=
  ⟨fun _ => hc.process, fun _ => hc.exec⟩

/-- A deployment whose commands, pipelines and transactions keep `P`. -/
structure Deployment.Keeps (d : Deployment) (P : Server.Store → Prop) : Prop where
  execute : ∀ {s}, P s → ∀ argv, P (d.execute s argv).2
  runAll : ∀ {s}, P s → ∀ cmds, P (d.runAll s cmds).2
  execTx : ∀ {s}, P s → ∀ cmds, P (d.execTx s cmds).2

/-- A deployment whose commands, pipelines and transactions keep `P` when `A` holds of
the commands. -/
structure Deployment.KeepsOn (d : Deployment) (A : List String → Prop) (P : Server.Store → Prop) :
    Prop where
  execute : ∀ {s argv}, A argv → P s → P (d.execute s argv).2
  runAll : ∀ {s cmds}, (∀ c ∈ cmds, A c) → P s → P (d.runAll s cmds).2
  execTx : ∀ {s cmds}, (∀ c ∈ cmds, A c) → P s → P (d.execTx s cmds).2

theorem Deployment.Keeps.keepsOn {d : Deployment} {P : Server.Store → Prop} (hd : d.Keeps P)
    (A : List String → Prop) : d.KeepsOn A P :=
  ⟨fun _ hs => hd.execute hs _, fun _ hs => hd.runAll hs _, fun _ hs => hd.execTx hs _⟩

/-- The state the written commands of a batch leave on a deployment: its transaction's, or
its pipeline's. -/
def Deployment.batch (d : Deployment) (tx : Bool) (s : Server.Store) (argvs : List (List String)) :
    Server.Store :=
  if tx then (d.execTx s argvs).2 else (d.runAll s argvs).2

end Rdb

namespace Client

open Go Rdb Server

variable {σ : Type}

/-- A call that returns from every state, leaving `g` of it, left `g` of the state it ran on. -/
theorem eq_of_forall_ok {α : Type} {f : Store → Except Panic (α × Store)} {g : Store → Store}
    (hu : ∀ u, ∃ r', f u = .ok (r', g u)) {s s' : Store} {r : α} (h : f s = .ok (r, s')) : s' = g s := by
  obtain ⟨r', h'⟩ := hu s
  rw [h'] at h
  cases h
  rfl

/-- **What `process` does to the state.** A command sent to a deployment returns from every
state or from none; it leaves the state as it was when an argument is refused, and
otherwise what the deployment leaves of the written command. -/
theorem serve_process_cases {env : Env} {d : Deployment} {s : Store} {cmd : Cmd} {r : Cmder}
    {s' : Store} (h : (serve env d).process s cmd = .ok (r, s')) :
    (s' = s ∧ ∀ u, ∃ r', (serve env d).process u cmd = .ok (r', u)) ∨
      ∃ argv, writeArgs env cmd.args = .ok (.ok argv) ∧ s' = (d.execute s argv).2 ∧
        ∀ u, ∃ r', (serve env d).process u cmd = .ok (r', (d.execute u argv).2) := by
  cases hw : writeArgs env cmd.args with
  | error p => simp [serve, hw] at h
  | ok w =>
    cases w with
    | error e =>
      have hu : ∀ u, ∃ r', (serve env d).process u cmd = .ok (r', u) := fun _ => by simp [serve, hw]
      exact .inl ⟨eq_of_forall_ok hu h, hu⟩
    | ok argv =>
      have hu : ∀ u, ∃ r', (serve env d).process u cmd = .ok (r', (d.execute u argv).2) :=
        fun _ => by simp [serve, hw]
      exact .inr ⟨argv, rfl, eq_of_forall_ok hu h, hu⟩

/-- **What `exec` does to the state.** A batch sent to a deployment returns from every state
or from none; it leaves the state as it was when it is empty or an argument is refused,
and otherwise what the deployment's transaction or pipeline leaves of the written
commands. -/
theorem serve_exec_cases {env : Env} {d : Deployment} {s : Store} {tx : Bool} {cs : List Cmd}
    {r : Option Error × List Cmder} {s' : Store} (h : (serve env d).exec s tx cs = .ok (r, s')) :
    (s' = s ∧ ∀ u, ∃ r', (serve env d).exec u tx cs = .ok (r', u)) ∨
      ∃ argvs, encodeAll env cs = .ok (.ok argvs) ∧ s' = d.batch tx s argvs ∧
        ∀ u, ∃ r', (serve env d).exec u tx cs = .ok (r', d.batch tx u argvs) := by
  cases hc : cs.isEmpty
  · cases he : encodeAll env cs with
    | error p => simp [serve, hc, he] at h
    | ok w =>
      cases w with
      | error e =>
        have hu : ∀ u, ∃ r', (serve env d).exec u tx cs = .ok (r', u) :=
          fun _ => by simp [serve, hc, he]
        exact .inl ⟨eq_of_forall_ok hu h, hu⟩
      | ok argvs =>
        have hu : ∀ u, ∃ r', (serve env d).exec u tx cs = .ok (r', d.batch tx u argvs) := fun u => by
          simp only [serve, hc, he, Bool.false_eq_true, if_false, ok_bind, Deployment.batch]
          split
          · rcases d.execTx u argvs with ⟨_ | _, t⟩ <;> exact ⟨_, rfl⟩
          · exact ⟨_, rfl⟩
        exact .inr ⟨argvs, rfl, eq_of_forall_ok hu h, hu⟩
  · have hu : ∀ u, ∃ r', (serve env d).exec u tx cs = .ok (r', u) := fun _ => by simp [serve, hc]
    exact .inl ⟨eq_of_forall_ok hu h, hu⟩

/-- A connection to a deployment keeps what the deployment keeps of the commands as
`WriteArg` writes them. -/
theorem serve_keepsOn (env : Env) {d : Deployment} {A : List String → Prop} {P : Store → Prop}
    (hd : d.KeepsOn A P) :
    (serve env d).KeepsOn (fun cmd => ∀ argv, writeArgs env cmd.args = .ok (.ok argv) → A argv) P where
  process hA hs h := by
    rcases serve_process_cases h with ⟨rfl, -⟩ | ⟨argv, hw, rfl, -⟩
    · exact hs
    · exact hd.execute (hA _ hw) hs
  exec hA hs h := by
    rcases serve_exec_cases h with ⟨rfl, -⟩ | ⟨argvs, he, rfl, -⟩
    · exact hs
    · have hA' : ∀ argv ∈ argvs, A argv := fun argv hm => by
        obtain ⟨cmd, hc, hw⟩ := mem_encodeAll he argv hm
        exact hA cmd hc argv hw
      unfold Deployment.batch
      split
      · exact hd.execTx hA' hs
      · exact hd.runAll hA' hs

/-- A connection to a deployment keeps what each of its commands, pipelines and
transactions keeps. -/
theorem serve_keeps (env : Env) {d : Deployment} {P : Store → Prop} (hd : d.Keeps P) :
    (serve env d).Keeps P :=
  have hc := serve_keepsOn env (hd.keepsOn fun _ => True)
  ⟨hc.process fun _ _ => trivial, hc.exec fun _ _ _ _ => trivial⟩

/-- A Redis connection keeps the keyspace as Redis keeps it. -/
theorem redis_keeps_wf (env : Env) : (redis env).Keeps Store.WF :=
  serve_keeps env ⟨fun hs => execute_wf hs, fun hs => runAll_wf hs, fun hs => execTx_wf hs⟩

/-! ### Each method keeps what the connection keeps of the commands it sends -/

section Keeps

variable {c : Conn σ} {A : Cmd → Prop} {P : σ → Prop} (hc : c.KeepsOn A P)
include hc

/-- A method that makes one call of `process` and returns the state it left keeps what the
connection keeps. -/
theorem process_then_keeps {α : Type} {s s' : σ} {cmd : Cmd} {k : Cmder × σ → Except Panic (α × σ)}
    {r : α} (hk : ∀ q r s'', k q = .ok (r, s'') → s'' = q.2) (hA : A cmd) (hs : P s)
    (h : (c.process s cmd >>= k) = .ok (r, s')) : P s' := by
  cases hp : c.process s cmd with
  | error p => simp [hp] at h
  | ok q =>
    simp only [hp, ok_bind] at h
    exact hk q r s' h ▸ hc.process hA hs hp

theorem cmdErr_keeps {s s' : σ} {cmd : Cmd} {r : Option Error} (hA : A cmd) (hs : P s)
    (h : cmdErr c s cmd = .ok (r, s')) : P s' :=
  process_then_keeps hc (fun _ _ _ h => by cases h; rfl) hA hs h

theorem existsKey_keeps {s s' : σ} {key : String} {r : Bool × Option Error}
    (hA : A (existsCmd [key])) (hs : P s) (h : existsKey c s key = .ok (r, s')) : P s' :=
  process_then_keeps hc (fun ⟨q, _⟩ _ _ h => by
    simp only at h
    split at h <;> cases h <;> rfl) hA hs h

theorem hExists_keeps {s s' : σ} {key field : String} {r : Bool × Option Error}
    (hA : A (hexistsCmd key field)) (hs : P s) (h : hExists c s key field = .ok (r, s')) : P s' :=
  process_then_keeps hc (fun _ _ _ h => by cases h; rfl) hA hs h

theorem hSet_keeps {s s' : σ} {key field : String} {value : Val} {ttl : Duration}
    {r : Option Error} (hA : ∀ cmd ∈ hsetBatch key [(field, value)] ttl, A cmd) (hs : P s)
    (h : hSet c s key field value ttl = .ok (r, s')) : P s' := by
  rcases hSet_cases h with ⟨-, rfl⟩ | ⟨e, rs, hx, -⟩
  · exact hs
  · exact hc.exec hA hs hx

theorem hSetObject_keeps {s s' : σ} {key : String} {data : Val} {ttl : Duration}
    {r : Option Error} (hA : ∀ ps, ∀ cmd ∈ hsetBatch key ps ttl, A cmd) (hs : P s)
    (h : hSetObject c s key data ttl = .ok (r, s')) : P s' := by
  rcases hSetObject_cases h with ⟨-, rfl⟩ | ⟨fs, e, rs, -, hx, -⟩
  · exact hs
  · exact hc.exec (hA _) hs hx

theorem hGetAll_keeps (env : Env) (order : List (String × String) → List (String × String))
    {s s' : σ} {key : String} {dst : Val} {r : Option Error × Val} (hA : A (hgetallCmd key))
    (hs : P s) (h : hGetAll env c s key dst order = .ok (r, s')) : P s' := by
  refine process_then_keeps hc (fun ⟨q, _⟩ r s'' h => ?_) hA hs h
  simp only at h
  split at h
  · cases h; rfl
  · split at h
    · cases h; rfl
    · cases hm : scanMap env (order (mapOfReply q.val)) dst with
      | error p => simp [hm] at h
      | ok d => simp only [hm, ok_bind, pure_eq_ok, Except.ok.injEq, Prod.mk.injEq] at h; exact h.2.symm

theorem massDelete_keeps {s s' : σ} {keys : List String} {r : Option Error} (hA : A (delCmd keys))
    (hs : P s) (h : massDelete c s keys = .ok (r, s')) : P s' := by
  unfold massDelete at h
  cases hx : c.exec s false [delCmd keys] with
  | error p => simp [hx] at h
  | ok q =>
    simp only [hx, ok_bind, pure_eq_ok, Except.ok.injEq, Prod.mk.injEq] at h
    exact h.2 ▸ hc.exec (fun _ hm => List.mem_singleton.1 hm ▸ hA) hs hx

theorem getInto_keeps (env : Env) {s s' : σ} {cmd : Cmd} {dst : Val} {r : Option Error × Val}
    (hA : A cmd) (hs : P s) (h : getInto env c s cmd dst = .ok (r, s')) : P s' := by
  refine process_then_keeps hc (fun q r s'' h => ?_) hA hs h
  cases hr : scanReply env q.1 dst with
  | error p => simp [hr] at h
  | ok d => simp only [hr, ok_bind, pure_eq_ok, Except.ok.injEq, Prod.mk.injEq] at h; exact h.2.symm

theorem getAs_keeps {α : Type} {zero : α} {conv : String → α × Option Error} {s s' : σ}
    {key : String} {r : α × Bool × Option Error} (hA : A (getCmd key)) (hs : P s)
    (h : getAs zero conv c s key = .ok (r, s')) : P s' :=
  process_then_keeps hc (fun _ _ _ h => by cases h; rfl) hA hs h

theorem setStruct_keeps {marshal : Val → Except String String} {s s' : σ} {key : String}
    {val : Val} {expiration : Duration} {r : Option Error} (hA : ∀ v, A (setCmd key v expiration))
    (hs : P s) (h : setStruct marshal c s key val expiration = .ok (r, s')) : P s' := by
  unfold setStruct at h
  split at h
  · simp only [Except.ok.injEq, Prod.mk.injEq] at h
    exact h.2 ▸ hs
  · exact cmdErr_keeps hc (hA _) hs h

end Keeps

/-! ### Sessions -/

/-- A call of the client's API, with its arguments. -/
inductive Op
  | hSet (key field : String) (value : Val) (ttl : Duration)
  | hSetObject (key : String) (data : Val) (ttl : Duration)
  | hGetAll (key : String) (dst : Val)
  | hExists (key field : String)
  | hIncrBy (key field : String) (incr : Int)
  | existsKey (key : String)
  | incr (key : String)
  | decr (key : String)
  | set (key : String) (val : Val) (expiration : Duration)
  | delete (key : String)
  | massDelete (keys : List String)
  | get (key : String) (dst : Val)
  | hGet (key field : String) (dst : Val)
  | bool (key : String)
  | bytes (key : String)
  | float64 (key : String)
  | int (key : String)
  | int64 (key : String)
  | uint64 (key : String)
  | string (key : String)
  | setStruct (marshal : Val → Except String String) (key : String) (val : Val) (expiration : Duration)

/-- The state after one call over the connection `c`, or its panic; `order` is the order in
which Go's `range` visits `HGetAll`'s map. -/
def Op.apply (env : Env) (order : List (String × String) → List (String × String))
    (c : Conn σ) (s : σ) : Op → Except Panic σ
  | .hSet key field value ttl => (Client.hSet c s key field value ttl).map Prod.snd
  | .hSetObject key data ttl => (Client.hSetObject c s key data ttl).map Prod.snd
  | .hGetAll key dst => (Client.hGetAll env c s key dst order).map Prod.snd
  | .hExists key field => (Client.hExists c s key field).map Prod.snd
  | .hIncrBy key field n => (Client.hIncrBy c s key field n).map Prod.snd
  | .existsKey key => (Client.existsKey c s key).map Prod.snd
  | .incr key => (Client.incr c s key).map Prod.snd
  | .decr key => (Client.decr c s key).map Prod.snd
  | .set key val expiration => (Client.set c s key val expiration).map Prod.snd
  | .delete key => (Client.delete c s key).map Prod.snd
  | .massDelete keys => (Client.massDelete c s keys).map Prod.snd
  | .get key dst => (Client.get env c s key dst).map Prod.snd
  | .hGet key field dst => (Client.hGet env c s key field dst).map Prod.snd
  | .bool key => (Client.bool c s key).map Prod.snd
  | .bytes key => (Client.bytes c s key).map Prod.snd
  | .float64 key => (Client.float64 env c s key).map Prod.snd
  | .int key => (Client.int c s key).map Prod.snd
  | .int64 key => (Client.int64 c s key).map Prod.snd
  | .uint64 key => (Client.uint64 c s key).map Prod.snd
  | .string key => (Client.string c s key).map Prod.snd
  | .setStruct marshal key val expiration => (Client.setStruct marshal c s key val expiration).map Prod.snd

/-- A session: the calls one after another, on the state each leaves; a panic ends it. -/
def runOps (env : Env) (order : List (String × String) → List (String × String)) (c : Conn σ) :
    σ → List Op → Except Panic σ
  | s, [] => .ok s
  | s, op :: ops => do
    let s' ← op.apply env order c s
    runOps env order c s' ops

theorem exceptMap_snd_ok {α : Type} {x : Except Panic (α × σ)} {s' : σ} (h : x.map Prod.snd = .ok s') :
    ∃ a, x = .ok (a, s') := by
  cases x with
  | error p => cases h
  | ok q => exact ⟨q.1, by cases h; rfl⟩

/-- `A` holds of every command a call sends, as its method builds them: the batch of
`HSet` and of `HSetObject` (whatever fields it tags), the `DEL` of `MassDelete`, the
`SET` of `SetStruct` (whatever the marshaller wrote), and the one command of each other
method. -/
def Op.Sends (A : Cmd → Prop) : Op → Prop
  | .hSet key field value ttl => ∀ cmd ∈ hsetBatch key [(field, value)] ttl, A cmd
  | .hSetObject key _ ttl => ∀ ps, ∀ cmd ∈ hsetBatch key ps ttl, A cmd
  | .hGetAll key _ => A (hgetallCmd key)
  | .hExists key field => A (hexistsCmd key field)
  | .hIncrBy key field n => A (hincrbyCmd key field n)
  | .existsKey key => A (existsCmd [key])
  | .incr key => A (incrCmd key)
  | .decr key => A (decrCmd key)
  | .set key val expiration => A (setCmd key val expiration)
  | .delete key => A (delCmd [key])
  | .massDelete keys => A (delCmd keys)
  | .get key _ => A (getCmd key)
  | .hGet key field _ => A (hgetCmd key field)
  | .bool key | .bytes key | .float64 key | .int key | .int64 key | .uint64 key | .string key =>
    A (getCmd key)
  | .setStruct _ key _ expiration => ∀ val, A (setCmd key val expiration)

theorem Op.sends_true (op : Op) : op.Sends fun _ => True := by
  cases op <;> simp [Op.Sends]

/-- **The step.** Each call keeps what the connection keeps of the commands it sends. -/
theorem Op.apply_keepsOn (env : Env) (order : List (String × String) → List (String × String))
    {c : Conn σ} {A : Cmd → Prop} {P : σ → Prop} (hc : c.KeepsOn A P) {s s' : σ} (hs : P s) :
    ∀ op : Op, op.Sends A → op.apply env order c s = .ok s' → P s' := by
  intro op hA h
  cases op <;> simp only [Op.apply] at h <;> obtain ⟨_, h⟩ := exceptMap_snd_ok h
  case hSet => exact hSet_keeps hc hA hs h
  case hSetObject => exact hSetObject_keeps hc hA hs h
  case hGetAll => exact hGetAll_keeps hc env order hA hs h
  case massDelete => exact massDelete_keeps hc hA hs h
  case hExists => exact hExists_keeps hc hA hs h
  case existsKey => exact existsKey_keeps hc hA hs h
  case setStruct => exact setStruct_keeps hc hA hs h
  case get | hGet => exact getInto_keeps hc env hA hs h
  case hIncrBy | incr | decr | set | delete => exact cmdErr_keeps hc hA hs h
  case bool | bytes | float64 | int | int64 | uint64 | string => exact getAs_keeps hc hA hs h

/-- **The run.** A session keeps what the connection keeps of the commands its calls send. -/
theorem runOps_keepsOn (env : Env) (order : List (String × String) → List (String × String))
    {c : Conn σ} {A : Cmd → Prop} {P : σ → Prop} (hc : c.KeepsOn A P) :
    ∀ {s s' : σ} (ops : List Op), (∀ op ∈ ops, op.Sends A) → P s →
      runOps env order c s ops = .ok s' → P s'
  | _, _, [], _, hs, h => by cases h; exact hs
  | s, _, op :: ops, hA, hs, h => by
    simp only [runOps] at h
    cases ha : op.apply env order c s with
    | error p => simp [ha] at h
    | ok s1 =>
      simp only [ha, ok_bind] at h
      exact runOps_keepsOn env order hc ops (fun o ho => hA o (List.mem_cons_of_mem _ ho))
        (Op.apply_keepsOn env order hc hs op (hA op (List.mem_cons_self _ _)) ha) h

/-- A session keeps what the connection keeps. -/
theorem runOps_keeps (env : Env) (order : List (String × String) → List (String × String))
    {c : Conn σ} {P : σ → Prop} (hc : c.Keeps P) {s s' : σ} (ops : List Op) (hs : P s)
    (h : runOps env order c s ops = .ok s') : P s' :=
  runOps_keepsOn env order (hc.keepsOn _) ops (fun op _ => op.sends_true) hs h

/-- **Every reachable keyspace is well formed.** A session of client calls over a Redis
server, from the empty keyspace, leaves no empty hash and no time to live that is not
positive. -/
theorem session_wf (env : Env) (order : List (String × String) → List (String × String))
    (ops : List Op) {s : Store} (h : runOps env order (redis env) Store.empty ops = .ok s) :
    s.WF :=
  runOps_keeps env order (redis_keeps_wf env) ops Store.wf_empty h

theorem session_wf_hSet :
    ∃ s, runOps Env.bare id (redis Env.bare) Store.empty
        [.hSet "k" "f" (.str "v") ⟨10000000000, rfl⟩, .set "n" (i64 7) ⟨0, rfl⟩, .incr "n"] = .ok s ∧
      s.WF :=
  ⟨_, rfl, session_wf Env.bare id
    [.hSet "k" "f" (.str "v") ⟨10000000000, rfl⟩, .set "n" (i64 7) ⟨0, rfl⟩, .incr "n"] rfl⟩

/-- **`ErrKeyNotFound` on a reachable keyspace.** After any session from the empty keyspace,
`HGetAll` returns `ErrKeyNotFound` exactly when the key is missing: a key that exists holds
a string, on which it fails with `WRONGTYPE`, or a hash with a field, whose map is not
empty. -/
theorem session_hGetAll_keyNotFound_iff (env : Env)
    (order : List (String × String) → List (String × String)) (ops : List Op) {s : Store}
    (h : runOps env order (redis env) Store.empty ops = .ok s) (key : String) (dst : Val) :
    (∃ d, hGetAll env (redis env) s key dst order = .ok ((some .keyNotFound, d), s)) ↔
      s key = none := by
  refine ⟨fun ⟨d, hd⟩ => ?_, fun hk => ⟨dst, (hGetAll_no_hash env s key dst order).1 hk⟩⟩
  cases hk : s key with
  | none => rfl
  | some e =>
    obtain ⟨v, t⟩ := e
    cases v with
    | str v =>
      rw [(hGetAll_no_hash env s key dst order).2 v t hk] at hd
      cases hd
    | hash H =>
      have hwf := runOps_keeps env order (redis_keeps_wf env) ops Store.wf_empty h
      obtain ⟨⟨k, v⟩, hm⟩ := List.exists_mem_of_ne_nil _ ((hwf key _ hk).hash_ne H rfl)
      have hmem := (mem_mapOfReply_hgetall H k v).2 (Option.mem_def.1 (AList.mem_lookup_iff.2 hm))
      have hs : s.hashFor key = some (H, t) := by simp [Store.hashFor, hk]
      rw [hGetAll_redis_hash env hs, if_neg (by simpa using List.ne_nil_of_mem hmem)] at hd
      cases hsm : scanMap env _ dst with
      | error p => rw [hsm] at hd; cases hd
      | ok r => rw [hsm] at hd; cases r.1 <;> simp_all

theorem session_hGetAll_keyNotFound_iff_hSet :
    ∃ s, runOps Env.bare id (redis Env.bare) Store.empty
        [.hSet "k" "f" (.str "v") ⟨10000000000, rfl⟩] = .ok s ∧
      ((∃ d, hGetAll Env.bare (redis Env.bare) s "g" .nil id = .ok ((some .keyNotFound, d), s)) ↔
        s "g" = none) :=
  ⟨_, rfl, session_hGetAll_keyNotFound_iff Env.bare id [.hSet "k" "f" (.str "v") ⟨10000000000, rfl⟩]
    rfl "g" .nil⟩

end Client
end Xredis
