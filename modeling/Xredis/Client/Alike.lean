import Xredis.Client.Frame
import Xredis.Server.Local

/-!
# A call is a function of its connection's answers

Every method of the client reaches the state it talks to only through its connection
(`Conn.process`, `Conn.exec`), and computes what it returns from the connection's answers
and its own arguments. So two connections that answer alike the commands a call sends,
from states in some relation, make the call alike: the same panic, or the same value
from related states. A Redis server answers alike from keyspaces that agree at the
commands' keys (`Server.run_local`), so a call, and a session, reads the keyspace only
at the keys its calls name.

* `Alike`, `Same` — two results alike up to a relation: the same panic, or the same value
  from related states;
* `Conn.AlikeOn` — two connections that answer alike the commands of which `A` holds;
* `Deployment.Local` — a deployment whose commands read the keyspace only at their keys,
  as a single server's and a cluster's do (`redis_local`, `redisCluster_local`);
* `Op.apply_alike`, `runOps_alike` — **the step and the run**: a call, and a session,
  on connections that answer alike;
* `runOps_local`, `session_local` — a session reads the keyspace only at the keys its
  calls name, on a single server as on a cluster.
-/

namespace Xredis
namespace Rdb

open Go Server

/-- Two results alike up to `R`: the same panic, or values related by `R`. -/
def Alike {β₁ β₂ : Type} (R : β₁ → β₂ → Prop) : Except Panic β₁ → Except Panic β₂ → Prop
  | .error p, .error q => p = q
  | .ok b₁, .ok b₂ => R b₁ b₂
  | _, _ => False

/-- The same value, with states related by `R`. -/
structure Same {α σ₁ σ₂ : Type} (R : σ₁ → σ₂ → Prop) (p : α × σ₁) (q : α × σ₂) : Prop where
  value : p.1 = q.1
  state : R p.2 q.2

section Alike

variable {β₁ β₂ γ₁ γ₂ : Type} {R : β₁ → β₂ → Prop} {S : γ₁ → γ₂ → Prop}

theorem Alike.ok {b₁ : β₁} {b₂ : β₂} (h : R b₁ b₂) : Alike R (.ok b₁) (.ok b₂) := h

theorem Alike.error (p : Panic) : Alike R (.error p) (.error p) := rfl

theorem Alike.bind {x₁ : Except Panic β₁} {x₂ : Except Panic β₂} {k₁ : β₁ → Except Panic γ₁}
    {k₂ : β₂ → Except Panic γ₂} (h : Alike R x₁ x₂) (hk : ∀ b₁ b₂, R b₁ b₂ → Alike S (k₁ b₁) (k₂ b₂)) :
    Alike S (x₁ >>= k₁) (x₂ >>= k₂) := by
  cases x₁ <;> cases x₂ <;> simp only [Alike] at h
  · exact h
  · exact hk _ _ h

theorem Alike.map {x₁ : Except Panic β₁} {x₂ : Except Panic β₂} {f₁ : β₁ → γ₁} {f₂ : β₂ → γ₂}
    (h : Alike R x₁ x₂) (hf : ∀ b₁ b₂, R b₁ b₂ → S (f₁ b₁) (f₂ b₂)) :
    Alike S (x₁.map f₁) (x₂.map f₂) := by
  cases x₁ <;> cases x₂ <;> simp only [Alike] at h
  · exact h
  · exact hf _ _ h

/-- A result alike another returns when it does. -/
theorem Alike.ok_left {x₁ : Except Panic β₁} {x₂ : Except Panic β₂} {b₁ : β₁} (h : Alike R x₁ x₂)
    (h₁ : x₁ = .ok b₁) : ∃ b₂, x₂ = .ok b₂ ∧ R b₁ b₂ := by
  subst h₁
  cases x₂ with
  | error q => exact h.elim
  | ok b₂ => exact ⟨b₂, rfl, h⟩

theorem Alike.refl {β : Type} {R : β → β → Prop} (h : ∀ b, R b b) : ∀ x : Except Panic β, Alike R x x
  | .error _ => rfl
  | .ok b => h b

end Alike

/-- A computation that reads no state: its value, with either of two related states. -/
theorem Alike.stateless {α β σ₁ σ₂ : Type} {R : σ₁ → σ₂ → Prop} (y : Except Panic β) (g : β → α)
    {t₁ : σ₁} {t₂ : σ₂} (ht : R t₁ t₂) :
    Alike (Same R) (y >>= fun b => pure (g b, t₁)) (y >>= fun b => pure (g b, t₂)) := by
  cases y with
  | error p => exact Alike.error p
  | ok b => exact Alike.ok ⟨rfl, ht⟩

/-- A call that goes on with the connection's answer and the state it left. -/
theorem Alike.bind_same {α γ σ₁ σ₂ : Type} {R : σ₁ → σ₂ → Prop} {x₁ : Except Panic (α × σ₁)}
    {x₂ : Except Panic (α × σ₂)} {k₁ : α × σ₁ → Except Panic (γ × σ₁)}
    {k₂ : α × σ₂ → Except Panic (γ × σ₂)} (h : Alike (Same R) x₁ x₂)
    (hk : ∀ a t₁ t₂, R t₁ t₂ → Alike (Same R) (k₁ (a, t₁)) (k₂ (a, t₂))) :
    Alike (Same R) (x₁ >>= k₁) (x₂ >>= k₂) :=
  h.bind fun ⟨a, t₁⟩ ⟨a', t₂⟩ ⟨ha, ht⟩ => by obtain rfl : a = a' := ha; exact hk a t₁ t₂ ht

/-- Two connections that answer alike, from states related by `R`, the commands of which
`A` holds, one at a time and in batches. -/
structure Conn.AlikeOn {σ₁ σ₂ : Type} (c₁ : Conn σ₁) (c₂ : Conn σ₂) (A : Cmd → Prop)
    (R : σ₁ → σ₂ → Prop) : Prop where
  process : ∀ {s₁ s₂ cmd}, A cmd → R s₁ s₂ → Alike (Same R) (c₁.process s₁ cmd) (c₂.process s₂ cmd)
  exec : ∀ {s₁ s₂ tx cs}, (∀ cmd ∈ cs, A cmd) → R s₁ s₂ →
    Alike (Same R) (c₁.exec s₁ tx cs) (c₂.exec s₂ tx cs)

/-- A deployment whose commands, pipelines and transactions read the keyspace only at
their keys. -/
structure Deployment.Local (d : Deployment) : Prop where
  execute : ∀ {s₁ s₂ : Store} {K : Set String} argv, Set.EqOn s₁ s₂ K →
    (∀ k ∈ commandKeys argv, k ∈ K) → Store.SameOn K (d.execute s₁ argv) (d.execute s₂ argv)
  runAll : ∀ {s₁ s₂ : Store} {K : Set String} cmds, Set.EqOn s₁ s₂ K →
    (∀ c ∈ cmds, ∀ k ∈ commandKeys c, k ∈ K) → Store.SameOn K (d.runAll s₁ cmds) (d.runAll s₂ cmds)
  execTx : ∀ {s₁ s₂ : Store} {K : Set String} cmds, Set.EqOn s₁ s₂ K →
    (∀ c ∈ cmds, ∀ k ∈ commandKeys c, k ∈ K) → Store.SameOn K (d.execTx s₁ cmds) (d.execTx s₂ cmds)

end Rdb

namespace Client

open Go Rdb Server

theorem redis_local : Deployment.Local ⟨execute, runAll, execTx⟩ :=
  ⟨fun argv h hK => execute_local h argv hK, fun cmds h hK => runAll_local cmds h hK,
    fun cmds h hK => execTx_local h cmds hK⟩

theorem redisCluster_local : Deployment.Local ⟨executeCluster, runAllCluster, execTxCluster⟩ :=
  ⟨fun argv h hK => executeCluster_local h argv hK, fun cmds h hK => runAllCluster_local cmds h hK,
    fun cmds h hK => execTxCluster_local h cmds hK⟩

/-- A connection to such a deployment answers alike, from keyspaces that agree on `K`, the
commands whose keys are in `K`. -/
theorem serve_alike (env : Env) {d : Deployment} (hd : d.Local) (K : Set String) :
    (serve env d).AlikeOn (serve env d) (Cmd.Within env (· ∈ K)) (Set.EqOn · · K) where
  process := by
    intro s₁ s₂ cmd hA hs
    simp only [serve]
    cases hw : writeArgs env cmd.args with
    | error p => exact Alike.error p
    | ok w =>
      cases w with
      | error e => exact Alike.ok ⟨rfl, hs⟩
      | ok argv =>
        have hr := hd.execute argv hs (hA argv hw)
        exact Alike.ok ⟨congrArg cmd.type.read hr.reply, hr.store⟩
  exec := by
    intro s₁ s₂ tx cs hA hs
    simp only [serve]
    split
    · exact Alike.ok ⟨rfl, hs⟩
    · cases he : encodeAll env cs with
      | error p => exact Alike.error p
      | ok w =>
        cases w with
        | error e => exact Alike.ok ⟨rfl, hs⟩
        | ok argvs =>
          have hK : ∀ c ∈ argvs, ∀ k ∈ commandKeys c, k ∈ K := fun c hc => by
            obtain ⟨cmd, hcmd, hw⟩ := mem_encodeAll he c hc
            exact hA cmd hcmd c hw
          simp only [ok_bind]
          split
          · have hr := hd.execTx argvs hs hK
            revert hr
            cases d.execTx s₁ argvs with
            | mk r₁ t₁ =>
              cases d.execTx s₂ argvs with
              | mk r₂ t₂ =>
                rintro ⟨hr, ht⟩
                cases hr
                cases r₁ <;> exact Alike.ok ⟨rfl, ht⟩
          · have hr := hd.runAll argvs hs hK
            exact Alike.ok ⟨congrArg (finish cs) hr.reply, hr.store⟩

/-! ### Each method is a function of its connection's answers -/

section Methods

variable {σ₁ σ₂ : Type} {c₁ : Conn σ₁} {c₂ : Conn σ₂} {A : Cmd → Prop} {R : σ₁ → σ₂ → Prop}
  (hc : c₁.AlikeOn c₂ A R) {s₁ : σ₁} {s₂ : σ₂} (hs : R s₁ s₂)
include hc hs

theorem cmdErr_alike {cmd : Cmd} (hA : A cmd) :
    Alike (Same R) (cmdErr c₁ s₁ cmd) (cmdErr c₂ s₂ cmd) :=
  (hc.process hA hs).bind_same fun _ _ _ ht => Alike.ok ⟨rfl, ht⟩

theorem existsKey_alike {key : String} (hA : A (existsCmd [key])) :
    Alike (Same R) (existsKey c₁ s₁ key) (existsKey c₂ s₂ key) :=
  (hc.process hA hs).bind_same fun r _ _ ht => by
    dsimp only
    cases r.err <;> exact Alike.ok ⟨rfl, ht⟩

theorem hExists_alike {key field : String} (hA : A (hexistsCmd key field)) :
    Alike (Same R) (hExists c₁ s₁ key field) (hExists c₂ s₂ key field) :=
  (hc.process hA hs).bind_same fun _ _ _ ht => Alike.ok ⟨rfl, ht⟩

theorem hGetAll_alike (env : Env) (order : List (String × String) → List (String × String))
    {key : String} {dst : Val} (hA : A (hgetallCmd key)) :
    Alike (Same R) (hGetAll env c₁ s₁ key dst order) (hGetAll env c₂ s₂ key dst order) :=
  (hc.process hA hs).bind_same fun r _ _ ht => by
    dsimp only
    cases r.err with
    | some e => exact Alike.ok ⟨rfl, ht⟩
    | none =>
      dsimp only
      split
      · exact Alike.ok ⟨rfl, ht⟩
      · cases scanMap env (order (mapOfReply r.val)) dst with
        | error p => exact Alike.error p
        | ok q => exact Alike.ok ⟨rfl, ht⟩

theorem getInto_alike (env : Env) {cmd : Cmd} {dst : Val} (hA : A cmd) :
    Alike (Same R) (getInto env c₁ s₁ cmd dst) (getInto env c₂ s₂ cmd dst) :=
  (hc.process hA hs).bind_same fun r _ _ ht => Alike.stateless (scanReply env r dst) id ht

theorem getAs_alike {α : Type} {zero : α} {conv : String → α × Option Error} {key : String}
    (hA : A (getCmd key)) : Alike (Same R) (getAs zero conv c₁ s₁ key) (getAs zero conv c₂ s₂ key) :=
  (hc.process hA hs).bind_same fun _ _ _ ht => Alike.ok ⟨rfl, ht⟩

theorem hSet_alike {key field : String} {value : Val} {ttl : Duration}
    (hA : ∀ cmd ∈ hsetBatch key [(field, value)] ttl, A cmd) :
    Alike (Same R) (hSet c₁ s₁ key field value ttl) (hSet c₂ s₂ key field value ttl) := by
  unfold hSet
  split
  · exact Alike.ok ⟨rfl, hs⟩
  · exact (hc.exec hA hs).bind_same fun _ _ _ ht => Alike.ok ⟨rfl, ht⟩

theorem hSetObject_alike {key : String} {data : Val} {ttl : Duration}
    (hA : ∀ ps, ∀ cmd ∈ hsetBatch key ps ttl, A cmd) :
    Alike (Same R) (hSetObject c₁ s₁ key data ttl) (hSetObject c₂ s₂ key data ttl) := by
  unfold hSetObject
  cases numFieldOf data with
  | error p => exact Alike.error p
  | ok fs =>
    simp only [ok_bind]
    cases hq : queueFields key fs (structVals data) with
    | error p => exact Alike.error p
    | ok q =>
      cases q with
      | none => exact Alike.ok ⟨rfl, hs⟩
      | some cmds =>
        simp only [ok_bind, queueFields_some key fs _ hq]
        exact (hc.exec (hA _) hs).bind_same fun _ _ _ ht => Alike.ok ⟨rfl, ht⟩

theorem massDelete_alike {keys : List String} (hA : A (delCmd keys)) :
    Alike (Same R) (massDelete c₁ s₁ keys) (massDelete c₂ s₂ keys) :=
  (hc.exec (fun _ hm => List.mem_singleton.1 hm ▸ hA) hs).bind_same fun _ _ _ ht =>
    Alike.ok ⟨rfl, ht⟩

theorem setStruct_alike {marshal : Val → Except String String} {key : String} {val : Val}
    {expiration : Duration} (hA : ∀ v, A (setCmd key v expiration)) :
    Alike (Same R) (setStruct marshal c₁ s₁ key val expiration)
      (setStruct marshal c₂ s₂ key val expiration) := by
  unfold setStruct
  cases marshal val with
  | error e => exact Alike.ok ⟨rfl, hs⟩
  | ok b => exact cmdErr_alike hc hs (hA _)

end Methods

/-! ### Calls and sessions -/

/-- **The step.** A call on two connections that answer alike the commands it sends, from
related states: the same panic, or related states. -/
theorem Op.apply_alike (env : Env) (order : List (String × String) → List (String × String))
    {σ₁ σ₂ : Type} {c₁ : Conn σ₁} {c₂ : Conn σ₂} {A : Cmd → Prop} {R : σ₁ → σ₂ → Prop}
    (hc : c₁.AlikeOn c₂ A R) {s₁ : σ₁} {s₂ : σ₂} (hs : R s₁ s₂) :
    ∀ op : Op, op.Sends A → Alike R (op.apply env order c₁ s₁) (op.apply env order c₂ s₂) := by
  intro op hA
  have hm : ∀ {α : Type} {x₁ : Except Panic (α × σ₁)} {x₂ : Except Panic (α × σ₂)},
      Alike (Same R) x₁ x₂ → Alike R (x₁.map Prod.snd) (x₂.map Prod.snd) :=
    fun h => h.map fun _ _ h => h.state
  cases op <;> simp only [Op.Sends] at hA <;> refine hm ?_
  case hSet => exact hSet_alike hc hs hA
  case hSetObject => exact hSetObject_alike hc hs hA
  case hGetAll => exact hGetAll_alike hc hs env order hA
  case massDelete => exact massDelete_alike hc hs hA
  case hExists => exact hExists_alike hc hs hA
  case existsKey => exact existsKey_alike hc hs hA
  case setStruct => exact setStruct_alike hc hs hA
  case get | hGet => exact getInto_alike hc hs env hA
  case hIncrBy | incr | decr | set | delete => exact cmdErr_alike hc hs hA
  case bool | bytes | float64 | int | int64 | uint64 | string => exact getAs_alike hc hs hA

/-- **The run.** A session on two connections that answer alike the commands its calls
send, from related states. -/
theorem runOps_alike (env : Env) (order : List (String × String) → List (String × String))
    {σ₁ σ₂ : Type} {c₁ : Conn σ₁} {c₂ : Conn σ₂} {A : Cmd → Prop} {R : σ₁ → σ₂ → Prop}
    (hc : c₁.AlikeOn c₂ A R) :
    ∀ {s₁ : σ₁} {s₂ : σ₂} (ops : List Op), (∀ op ∈ ops, op.Sends A) → R s₁ s₂ →
      Alike R (runOps env order c₁ s₁ ops) (runOps env order c₂ s₂ ops)
  | _, _, [], _, hs => Alike.ok hs
  | _, _, op :: ops, hA, hs =>
    (Op.apply_alike env order hc hs op (hA op (List.mem_cons_self _ _))).bind fun _ _ ht =>
      runOps_alike env order hc ops (fun o ho => hA o (List.mem_cons_of_mem _ ho)) ht

/-- A session reads the keyspace only at the keys its calls name: from two keyspaces that
agree there, it panics alike or leaves two keyspaces that still agree there. -/
theorem runOps_local (env : Env) (order : List (String × String) → List (String × String))
    {d : Deployment} (hd : d.Local) {K : Set String} {s₁ s₂ : Store} (ops : List Op)
    (hK : ∀ op ∈ ops, ∀ k ∈ op.keys, k ∈ K) (h : Set.EqOn s₁ s₂ K) :
    Alike (Set.EqOn · · K) (runOps env order (serve env d) s₁ ops) (runOps env order (serve env d) s₂ ops) :=
  runOps_alike env order (serve_alike env hd K) ops
    (fun op ho => (op.sends_keys env).mono fun _ hc => hc.mono fun k hk => hK op ho k hk) h

/-- **A session reads the keyspace only at the keys its calls name**, on a single server
as on a cluster: from two keyspaces that agree at those keys, it panics alike on both, or
returns on both and leaves keyspaces that still agree there. -/
theorem session_local (env : Env) (order : List (String × String) → List (String × String))
    {K : Set String} {s₁ s₂ : Store} (ops : List Op) (hK : ∀ op ∈ ops, ∀ k ∈ op.keys, k ∈ K)
    (h : Set.EqOn s₁ s₂ K) :
    Alike (Set.EqOn · · K) (runOps env order (redis env) s₁ ops) (runOps env order (redis env) s₂ ops) ∧
      Alike (Set.EqOn · · K) (runOps env order (redisCluster env) s₁ ops)
        (runOps env order (redisCluster env) s₂ ops) :=
  ⟨runOps_local env order redis_local ops hK h, runOps_local env order redisCluster_local ops hK h⟩

theorem session_local_incr :
    (∀ op ∈ [Op.incr "k"], ∀ k ∈ op.keys, k ∈ ({"k"} : Set String)) ∧
    Set.EqOn (Store.empty.put "x" (some ⟨.str "1", none⟩)) Store.empty {"k"} ∧
    Alike (Set.EqOn · · {"k"})
        (runOps Env.bare id (redis Env.bare) (Store.empty.put "x" (some ⟨.str "1", none⟩)) [.incr "k"])
        (runOps Env.bare id (redis Env.bare) Store.empty [.incr "k"]) ∧
      Alike (Set.EqOn · · {"k"})
        (runOps Env.bare id (redisCluster Env.bare) (Store.empty.put "x" (some ⟨.str "1", none⟩))
          [.incr "k"])
        (runOps Env.bare id (redisCluster Env.bare) Store.empty [.incr "k"]) :=
  have hK : ∀ op ∈ [Op.incr "k"], ∀ k ∈ op.keys, k ∈ ({"k"} : Set String) := by
    simp [Op.keys]
  have hE : Set.EqOn (Store.empty.put "x" (some ⟨.str "1", none⟩)) Store.empty {"k"} := by
    rintro _ rfl
    rfl
  ⟨hK, hE, session_local Env.bare id [.incr "k"] hK hE⟩

end Client
end Xredis
