import Xredis.Server.Cluster

/-!
# What a command may change

A command changes the keyspace only at its keys, the keys `commandKeys` names and a
cluster routes it by: `DEL` deletes its arguments, every other write of the command table
writes its first argument, and the reads write nothing. So a pipeline or a transaction
changes only its commands' keys, on a single server as on a cluster, which runs a command
as a single server does or refuses it.

* `Store.Frame` — a keyspace changed only at some keys, with `refl`, `trans` and `mono`;
* `hset_frame`, `expire_frame`, `del_frame`, `set_frame`, `hincrBy_frame`,
  `incrBy_frame` — one lemma per write;
* `Prim.keys`, `Prim.apply_frame` — a primitive changes only its keys;
* `keys_parse` — the command table runs a command's primitive on the command's keys;
* `run_frame`, `execute_frame`, `executeCluster_frame` — **the step**: a command changes
  only its keys;
* `runAll_frame`, `execTx_frame` and their cluster forms — **the run**: a pipeline or a
  transaction changes only its commands' keys;
* `readOnly`, `run_readOnly`, `runAll_readOnly` … — the reads change nothing.
-/

namespace Xredis
namespace Server

namespace Store

/-- `t` is `s` changed only at keys of which `W` holds. -/
def Frame (s t : Store) (W : String → Prop) : Prop :=
  ∀ x, ¬W x → t x = s x

theorem Frame.refl (s : Store) (W : String → Prop) : s.Frame s W := fun _ _ => rfl

theorem Frame.trans {s t u : Store} {V W : String → Prop} (h₁ : s.Frame t V) (h₂ : t.Frame u W) :
    s.Frame u fun x => V x ∨ W x := fun x hx =>
  (h₂ x fun h => hx (.inr h)).trans (h₁ x fun h => hx (.inl h))

theorem Frame.mono {s t : Store} {V W : String → Prop} (h : s.Frame t V) (hW : ∀ x, V x → W x) :
    s.Frame t W := fun x hx => h x fun h => hx (hW x h)

theorem frame_put (s : Store) (k : String) (e : Option Entry) : s.Frame (s.put k e) (· = k) :=
  fun _ hx => s.put_ne e hx

end Store

open Store

/-! ### One lemma per write -/

theorem hset_frame (s : Store) (key : String) (ps : List (String × String)) :
    s.Frame (hset s key ps).2 (· = key) := by
  unfold hset
  cases s.hashFor key with
  | none => exact Frame.refl _ _
  | some ht => exact s.frame_put key _

theorem expire_frame (s : Store) (key : String) (fl : ExpireFlags) (ms : Int) :
    s.Frame (expire s key fl ms).2 (· = key) := by
  unfold expire
  cases s key with
  | none => exact Frame.refl _ _
  | some e =>
    dsimp only
    split_ifs
    · exact Frame.refl _ _
    · exact s.frame_put key none
    · exact s.frame_put key _

theorem del_frame : ∀ (s : Store) (ks : List String), s.Frame (del s ks).2 (· ∈ ks)
  | _, [] => Frame.refl _ _
  | s, k :: ks => ((s.frame_put k none).trans (del_frame _ ks)).mono fun _ => List.mem_cons.2

theorem set_frame (s : Store) (key v : String) (ex : SetExpiry) : s.Frame (set s key v ex) (· = key) :=
  s.frame_put key _

theorem hincrBy_frame (s : Store) (key field : String) (d : Int) :
    s.Frame (hincrBy s key field d).2 (· = key) := by
  unfold hincrBy
  cases s.hashFor key with
  | none => exact Frame.refl _ _
  | some ht =>
    dsimp only
    split
    · exact Frame.refl _ _
    · exact s.frame_put key _

theorem incrBy_frame (s : Store) (key : String) (d : Int) : s.Frame (incrBy s key d).2 (· = key) := by
  unfold incrBy
  split
  · exact Frame.refl _ _
  · dsimp only
    split
    · exact Frame.refl _ _
    · exact s.frame_put key _

/-! ### The step -/

/-- The keys a primitive looks up or writes. -/
def Prim.keys : Prim → List String
  | .reply _ => []
  | .del ks | .existsKeys ks => ks
  | .get key | .hgetall key | .hget key _ | .hexists key _ | .hset key _ _ | .expire key _ _
  | .set key _ _ _ | .hincrBy key _ _ | .incrBy key _ => [key]

/-- A primitive changes only its keys. -/
theorem Prim.apply_frame (s : Store) : ∀ p : Prim, s.Frame (p.apply s).2 (· ∈ p.keys)
  | .reply _ | .existsKeys _ | .get _ | .hgetall _ | .hget _ _ | .hexists _ _ => Frame.refl _ _
  | .del ks => del_frame s ks
  | .hset key _ _ => (hset_frame s key _).mono fun _ => List.mem_singleton.2
  | .expire key fl ms => (expire_frame s key fl ms).mono fun _ => List.mem_singleton.2
  | .set key v ex _ => (set_frame s key v ex).mono fun _ => List.mem_singleton.2
  | .hincrBy key f d => (hincrBy_frame s key f d).mono fun _ => List.mem_singleton.2
  | .incrBy key d => (incrBy_frame s key d).mono fun _ => List.mem_singleton.2

theorem keys_hsetCommand (args : List String) : (hsetCommand args).keys ⊆ args.take 1 := by
  unfold hsetCommand
  split
  · split <;> simp [Prim.keys]
  · simp [unknownCommand, Prim.keys]

theorem keys_expireCommand (args : List String) : (expireCommand args).keys ⊆ args.take 1 := by
  unfold expireCommand
  split
  · split <;> simp [Prim.keys]
  · simp [unknownCommand, Prim.keys]

theorem keys_setCommand (args : List String) : (setCommand args).keys ⊆ args.take 1 := by
  unfold setCommand
  split
  · split <;> simp [Prim.keys]
  · simp [unknownCommand, Prim.keys]

theorem keys_hincrbyCommand (args : List String) : (hincrbyCommand args).keys ⊆ args.take 1 := by
  unfold hincrbyCommand
  split
  · split <;> simp [Prim.keys]
  · simp [unknownCommand, Prim.keys]

theorem keys_keyCommand (name : String) {prim : String → Prim} (h : ∀ key, (prim key).keys = [key])
    (args : List String) : (keyCommand name prim args).keys ⊆ args.take 1 := by
  unfold keyCommand
  split
  · simp [h]
  · simp [unknownCommand, Prim.keys]

theorem keys_fieldCommand (name : String) {prim : String → String → Prim}
    (h : ∀ key f, (prim key f).keys = [key]) (args : List String) :
    (fieldCommand name prim args).keys ⊆ args.take 1 := by
  unfold fieldCommand
  split
  · simp [h]
  · simp [unknownCommand, Prim.keys]

/-- The command table names a command's keys: each procedure works on its first argument,
or on all of them for `DEL` and `EXISTS`. -/
theorem keys_parse (name : String) (args : List String) :
    (parse (lower name) args).keys ⊆ commandKeys (name :: args) := by
  unfold parse
  split
  next hn => simpa [commandKeys, hn] using keys_hsetCommand args
  next hn => simpa [commandKeys, hn] using keys_expireCommand args
  next hn => simp [commandKeys, hn, Prim.keys]
  next hn => simpa [commandKeys, hn] using @keys_keyCommand "get" .get (fun _ => rfl) args
  next hn => simpa [commandKeys, hn] using keys_setCommand args
  next hn => simpa [commandKeys, hn] using @keys_keyCommand "hgetall" .hgetall (fun _ => rfl) args
  next hn => simpa [commandKeys, hn] using @keys_fieldCommand "hget" .hget (fun _ _ => rfl) args
  next hn =>
    simpa [commandKeys, hn] using @keys_fieldCommand "hexists" .hexists (fun _ _ => rfl) args
  next hn => simpa [commandKeys, hn] using keys_hincrbyCommand args
  next hn => simp [commandKeys, hn, Prim.keys]
  next hn => simpa [commandKeys, hn] using @keys_keyCommand "incr" (.incrBy · 1) (fun _ => rfl) args
  next hn =>
    simpa [commandKeys, hn] using @keys_keyCommand "decr" (.incrBy · (-1)) (fun _ => rfl) args
  next => simp [unknownCommand, Prim.keys]

/-- **The step.** A command changes only its keys. -/
theorem run_frame (s : Store) : ∀ argv, s.Frame (run s argv).2 (· ∈ commandKeys argv)
  | [] => Frame.refl _ _
  | name :: args => (Prim.apply_frame s _).mono (keys_parse name args)

/-- A command the server receives changes only its keys. -/
theorem execute_frame (s : Store) (argv : List String) :
    s.Frame (execute s argv).2 (· ∈ commandKeys argv) := by
  unfold execute
  cases precheck argv
  · exact run_frame s argv
  · exact Frame.refl _ _

/-- On a cluster a command runs as on a single server or is refused. -/
theorem executeCluster_frame (s : Store) (argv : List String) :
    s.Frame (executeCluster s argv).2 (· ∈ commandKeys argv) := by
  cases hc : crossSlot argv
  · rw [executeCluster_of_not_crossSlot hc]
    exact execute_frame s argv
  · unfold executeCluster
    cases precheck argv <;> simp only [hc, if_true] <;> exact Frame.refl _ _

/-! ### The run -/

/-- **The run.** A pipeline changes only its commands' keys. -/
theorem runAll_frame : ∀ (s : Store) (cmds : List (List String)),
    s.Frame (runAll s cmds).2 fun x => ∃ c ∈ cmds, x ∈ commandKeys c
  | _, [] => Frame.refl _ _
  | s, c :: cs => ((execute_frame s c).trans (runAll_frame _ cs)).mono fun x =>
    (List.exists_mem_cons_iff (x ∈ commandKeys ·) c cs).2

theorem execTx_frame (s : Store) (cmds : List (List String)) :
    s.Frame (execTx s cmds).2 fun x => ∃ c ∈ cmds, x ∈ commandKeys c := by
  unfold execTx
  split
  · exact Frame.refl _ _
  · exact runAll_frame s cmds

theorem runAllCluster_frame : ∀ (s : Store) (cmds : List (List String)),
    s.Frame (runAllCluster s cmds).2 fun x => ∃ c ∈ cmds, x ∈ commandKeys c
  | _, [] => Frame.refl _ _
  | s, c :: cs =>
    ((executeCluster_frame s c).trans (runAllCluster_frame _ cs)).mono fun x =>
      (List.exists_mem_cons_iff (x ∈ commandKeys ·) c cs).2

theorem execTxCluster_frame (s : Store) (cmds : List (List String)) :
    s.Frame (execTxCluster s cmds).2 fun x => ∃ c ∈ cmds, x ∈ commandKeys c := by
  unfold execTxCluster
  split
  · exact Frame.refl _ _
  · split
    · exact Frame.refl _ _
    · exact execTx_frame s cmds

/-! ### The reads change nothing -/

/-- A command of the table that only reads: `GET`, `HGETALL`, `HGET`, `HEXISTS` or `EXISTS`
(or no command at all). -/
def readOnly : List String → Bool
  | name :: _ => lower name ∈ ["get", "hgetall", "hget", "hexists", "exists"]
  | [] => true

/-- **The step.** A read leaves the keyspace as it was, whatever its arguments. -/
theorem run_readOnly (s : Store) (name : String) (args : List String)
    (h : readOnly (name :: args) = true) : (run s (name :: args)).2 = s := by
  simp only [readOnly, decide_eq_true_eq, List.mem_cons, List.mem_singleton, List.not_mem_nil,
    or_false] at h
  show ((parse (lower name) args).apply s).2 = s
  rcases h with hn | hn | hn | hn | hn <;> rw [hn] <;>
    rcases args with _ | ⟨_, _ | ⟨_, _ | ⟨_, _⟩⟩⟩ <;> rfl

theorem execute_readOnly (s : Store) : ∀ argv, readOnly argv = true → (execute s argv).2 = s
  | [], _ => rfl
  | name :: args, h => by
    unfold execute
    cases precheck (name :: args)
    · exact run_readOnly s name args h
    · rfl

theorem executeCluster_readOnly (s : Store) (argv : List String) (h : readOnly argv = true) :
    (executeCluster s argv).2 = s := by
  cases hc : crossSlot argv
  · rw [executeCluster_of_not_crossSlot hc]
    exact execute_readOnly s argv h
  · unfold executeCluster
    cases precheck argv <;> simp only [hc, if_true]

/-- **The run.** A pipeline of reads leaves the keyspace as it was. -/
theorem runAll_readOnly : ∀ (s : Store) (cmds : List (List String)), (∀ c ∈ cmds, readOnly c = true) →
    (runAll s cmds).2 = s
  | _, [], _ => rfl
  | s, c :: cs, h => by
    have hc := execute_readOnly s c (h c (List.mem_cons_self _ _))
    show (runAll (execute s c).2 cs).2 = s
    rw [hc]
    exact runAll_readOnly s cs fun c' hc' => h c' (List.mem_cons_of_mem _ hc')

theorem execTx_readOnly (s : Store) (cmds : List (List String)) (h : ∀ c ∈ cmds, readOnly c = true) :
    (execTx s cmds).2 = s := by
  unfold execTx
  split
  · rfl
  · exact runAll_readOnly s cmds h

theorem runAllCluster_readOnly : ∀ (s : Store) (cmds : List (List String)),
    (∀ c ∈ cmds, readOnly c = true) → (runAllCluster s cmds).2 = s
  | _, [], _ => rfl
  | s, c :: cs, h => by
    have hc := executeCluster_readOnly s c (h c (List.mem_cons_self _ _))
    show (runAllCluster (executeCluster s c).2 cs).2 = s
    rw [hc]
    exact runAllCluster_readOnly s cs fun c' hc' => h c' (List.mem_cons_of_mem _ hc')

theorem execTxCluster_readOnly (s : Store) (cmds : List (List String))
    (h : ∀ c ∈ cmds, readOnly c = true) : (execTxCluster s cmds).2 = s := by
  unfold execTxCluster
  split
  · rfl
  · split
    · rfl
    · exact execTx_readOnly s cmds h

end Server
end Xredis
