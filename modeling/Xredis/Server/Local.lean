import Xredis.Server.Frame

/-!
# What a command reads

A command reads the keyspace only at its keys, as it changes it only there
(`Server.Frame`): every command of the table looks up its key (or, for `DEL` and
`EXISTS`, its keys) and nothing else. So on two keyspaces that agree at a command's keys
it gives the same reply and leaves two keyspaces that still agree there. A pipeline and
a transaction do the same with their commands' keys, on a single server as on a cluster:
what refuses a command or a transaction (`precheck`, the slots) looks only at the
commands.

* `Store.SameOn` — two results with the same reply whose keyspaces agree on a set of keys;
* `hset_local`, `expire_local`, `del_local`, `set_local`, `hincrBy_local`,
  `incrBy_local` and the reads — one lemma per command;
* `Prim.apply_local`, `run_local`, `execute_local`, `executeCluster_local` — **the step**;
* `runAll_local`, `execTx_local` and their cluster forms — **the run**.
-/

namespace Xredis
namespace Server

namespace Store

/-- Two results with the same reply whose keyspaces agree on `K`. -/
structure SameOn {ρ : Type} (K : Set String) (p q : ρ × Store) : Prop where
  reply : p.1 = q.1
  store : Set.EqOn p.2 q.2 K

theorem SameOn.same {ρ : Type} {K : Set String} {s₁ s₂ : Store} (h : Set.EqOn s₁ s₂ K) (r : ρ) :
    SameOn K (r, s₁) (r, s₂) :=
  ⟨rfl, h⟩

theorem eqOn_put {s₁ s₂ : Store} {K : Set String} (h : Set.EqOn s₁ s₂ K) (k : String)
    (e : Option Entry) : Set.EqOn (s₁.put k e) (s₂.put k e) K := fun x hx => by
  simp only [put, h hx]

theorem hashFor_congr {s₁ s₂ : Store} {key : String} (h : s₁ key = s₂ key) :
    s₁.hashFor key = s₂.hashFor key := by
  simp only [hashFor, h]

end Store

open Store

theorem del_local {K : Set String} : ∀ {s₁ s₂ : Store} {ks : List String}, Set.EqOn s₁ s₂ K →
    (∀ k ∈ ks, k ∈ K) → SameOn K (del s₁ ks) (del s₂ ks)
  | _, _, [], h, _ => SameOn.same h _
  | s₁, s₂, k :: ks, h, hks => by
    have ih := del_local (eqOn_put h k none) fun k' hk' => hks k' (List.mem_cons_of_mem _ hk')
    exact ⟨by simp only [del, h (hks k (List.mem_cons_self _ _)), ih.reply], ih.store⟩

section Local

variable {s₁ s₂ : Store} {K : Set String} (h : Set.EqOn s₁ s₂ K)
include h

/-! ### One lemma per command -/

theorem hset_local {key : String} (hk : key ∈ K) (ps : List (String × String)) :
    SameOn K (hset s₁ key ps) (hset s₂ key ps) := by
  unfold hset
  rw [hashFor_congr (h hk)]
  cases s₂.hashFor key with
  | none => exact SameOn.same h _
  | some p => exact ⟨rfl, eqOn_put h _ _⟩

theorem expire_local {key : String} (hk : key ∈ K) (fl : ExpireFlags) (ms : Int) :
    SameOn K (expire s₁ key fl ms) (expire s₂ key fl ms) := by
  unfold expire
  rw [h hk]
  cases s₂ key with
  | none => exact SameOn.same h _
  | some e =>
    dsimp only
    split_ifs
    · exact SameOn.same h _
    · exact ⟨rfl, eqOn_put h _ _⟩
    · exact ⟨rfl, eqOn_put h _ _⟩

theorem set_local {key : String} (hk : key ∈ K) (v : String) (ex : SetExpiry) :
    Set.EqOn (set s₁ key v ex) (set s₂ key v ex) K := by
  simp only [set, h hk]
  exact eqOn_put h _ _

theorem hincrBy_local {key : String} (hk : key ∈ K) (field : String) (d : Int) :
    SameOn K (hincrBy s₁ key field d) (hincrBy s₂ key field d) := by
  unfold hincrBy
  rw [hashFor_congr (h hk)]
  cases s₂.hashFor key with
  | none => exact SameOn.same h _
  | some p =>
    dsimp only
    split
    · exact SameOn.same h _
    · exact ⟨rfl, eqOn_put h _ _⟩

theorem incrBy_local {key : String} (hk : key ∈ K) (d : Int) :
    SameOn K (incrBy s₁ key d) (incrBy s₂ key d) := by
  unfold incrBy
  rw [h hk]
  split
  · exact SameOn.same h _
  · dsimp only
    split
    · exact SameOn.same h _
    · exact ⟨rfl, eqOn_put h _ _⟩

/-! ### The reads -/

theorem get_local {key : String} (hk : key ∈ K) : get s₁ key = get s₂ key := by
  simp only [get, h hk]

theorem hgetall_local {key : String} (hk : key ∈ K) : hgetall s₁ key = hgetall s₂ key := by
  simp only [hgetall, hashFor_congr (h hk)]

theorem hget_local {key : String} (hk : key ∈ K) (field : String) :
    hget s₁ key field = hget s₂ key field := by
  simp only [hget, hashFor_congr (h hk)]

theorem hexists_local {key : String} (hk : key ∈ K) (field : String) :
    hexists s₁ key field = hexists s₂ key field := by
  simp only [hexists, hashFor_congr (h hk)]

theorem existsKeys_local {ks : List String} (hks : ∀ k ∈ ks, k ∈ K) :
    existsKeys s₁ ks = existsKeys s₂ ks :=
  congrArg List.length (List.filter_congr fun k hk => by rw [h (hks k hk)])

/-! ### The step -/

/-- A primitive gives, on two keyspaces that agree at its keys, the same reply, and leaves
them agreeing there. -/
theorem Prim.apply_local : ∀ p : Prim, (∀ k ∈ p.keys, k ∈ K) → SameOn K (p.apply s₁) (p.apply s₂)
  | .reply _, _ => SameOn.same h _
  | .del _, hK =>
    have hd := del_local h hK
    ⟨congrArg (fun n : Nat => Reply.int n) hd.reply, hd.store⟩
  | .existsKeys _, hK => ⟨congrArg (fun n : Nat => Reply.int n) (existsKeys_local h hK), h⟩
  | .get key, hK => ⟨get_local h (hK key (List.mem_singleton_self _)), h⟩
  | .hgetall key, hK => ⟨hgetall_local h (hK key (List.mem_singleton_self _)), h⟩
  | .hget key f, hK => ⟨hget_local h (hK key (List.mem_singleton_self _)) f, h⟩
  | .hexists key f, hK => ⟨hexists_local h (hK key (List.mem_singleton_self _)) f, h⟩
  | .hset key _ _, hK => hset_local h (hK key (List.mem_singleton_self _)) _
  | .expire key fl ms, hK => expire_local h (hK key (List.mem_singleton_self _)) fl ms
  | .set key v ex _, hK => ⟨rfl, set_local h (hK key (List.mem_singleton_self _)) v ex⟩
  | .hincrBy key f d, hK => hincrBy_local h (hK key (List.mem_singleton_self _)) f d
  | .incrBy key d, hK => incrBy_local h (hK key (List.mem_singleton_self _)) d

/-- **The step.** A command gives, on two keyspaces that agree at its keys, the same reply,
and leaves them agreeing there. -/
theorem run_local : ∀ argv, (∀ k ∈ commandKeys argv, k ∈ K) → SameOn K (run s₁ argv) (run s₂ argv)
  | [], _ => SameOn.same h _
  | name :: args, hK => Prim.apply_local h _ fun k hk => hK k (keys_parse name args hk)

end Local

/-- A command the server receives: `precheck` looks only at the command. -/
theorem execute_local {s₁ s₂ : Store} {K : Set String} (h : Set.EqOn s₁ s₂ K) (argv : List String)
    (hK : ∀ k ∈ commandKeys argv, k ∈ K) : SameOn K (execute s₁ argv) (execute s₂ argv) := by
  unfold execute
  cases precheck argv
  · exact run_local h argv hK
  · exact SameOn.same h _

/-- On a cluster, the slots of a command's keys are the command's. -/
theorem executeCluster_local {s₁ s₂ : Store} {K : Set String} (h : Set.EqOn s₁ s₂ K)
    (argv : List String) (hK : ∀ k ∈ commandKeys argv, k ∈ K) :
    SameOn K (executeCluster s₁ argv) (executeCluster s₂ argv) := by
  cases hc : crossSlot argv
  · rw [executeCluster_of_not_crossSlot hc, executeCluster_of_not_crossSlot hc]
    exact execute_local h argv hK
  · unfold executeCluster
    cases precheck argv <;> simp only [hc, if_true] <;> exact SameOn.same h _

/-! ### The run -/

/-- **The run.** A pipeline gives, on two keyspaces that agree at its commands' keys, the
same replies, and leaves them agreeing there. -/
theorem runAll_local {K : Set String} : ∀ {s₁ s₂ : Store} (cmds : List (List String)),
    Set.EqOn s₁ s₂ K → (∀ c ∈ cmds, ∀ k ∈ commandKeys c, k ∈ K) →
      SameOn K (runAll s₁ cmds) (runAll s₂ cmds)
  | _, _, [], h, _ => SameOn.same h _
  | _, _, c :: cs, h, hK => by
    have hc := execute_local h c (hK c (List.mem_cons_self _ _))
    have ih := runAll_local cs hc.store fun c' hc' => hK c' (List.mem_cons_of_mem _ hc')
    exact ⟨by simp only [runAll, hc.reply, ih.reply], ih.store⟩

theorem execTx_local {s₁ s₂ : Store} {K : Set String} (h : Set.EqOn s₁ s₂ K)
    (cmds : List (List String)) (hK : ∀ c ∈ cmds, ∀ k ∈ commandKeys c, k ∈ K) :
    SameOn K (execTx s₁ cmds) (execTx s₂ cmds) := by
  unfold execTx
  split
  · exact SameOn.same h _
  · have hr := runAll_local cmds h hK
    exact ⟨congrArg Except.ok hr.reply, hr.store⟩

theorem runAllCluster_local {K : Set String} : ∀ {s₁ s₂ : Store} (cmds : List (List String)),
    Set.EqOn s₁ s₂ K → (∀ c ∈ cmds, ∀ k ∈ commandKeys c, k ∈ K) →
      SameOn K (runAllCluster s₁ cmds) (runAllCluster s₂ cmds)
  | _, _, [], h, _ => SameOn.same h _
  | _, _, c :: cs, h, hK => by
    have hc := executeCluster_local h c (hK c (List.mem_cons_self _ _))
    have ih := runAllCluster_local cs hc.store fun c' hc' => hK c' (List.mem_cons_of_mem _ hc')
    exact ⟨by simp only [runAllCluster, hc.reply, ih.reply], ih.store⟩

theorem execTxCluster_local {s₁ s₂ : Store} {K : Set String} (h : Set.EqOn s₁ s₂ K)
    (cmds : List (List String)) (hK : ∀ c ∈ cmds, ∀ k ∈ commandKeys c, k ∈ K) :
    SameOn K (execTxCluster s₁ cmds) (execTxCluster s₂ cmds) := by
  unfold execTxCluster
  split
  · exact SameOn.same h _
  · split
    · exact SameOn.same h _
    · exact execTx_local h cmds hK

end Server
end Xredis
