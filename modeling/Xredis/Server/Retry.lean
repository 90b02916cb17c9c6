import Xredis.Server.Batch
import Xredis.Server.Cluster

/-!
# A command run twice

go-redis sends a command again after a network error (`MaxRetries`, and `MaxRedirects` on
a cluster), and a command whose reply was lost may have run already. Every write the
client sends but the counters (`INCR`, `DECR`, `HINCRBY`) leaves, run a second time on
what it left, the keyspace as it was after the first run: `SET` (whatever its options),
`DEL`, and the `HSET`s and `EXPIRE` of the batch of `HSet` and `HSetObject`; on a cluster
too, whose refusals look only at the commands.

* `hsetFields_twice` — `HSET`'s pairs set twice leave the hash as set once, its order of
  fields included;
* `hsetEntry`, `expireEntry` — what the `HSET`s and the `EXPIRE` of the batch leave under
  their key, from what it held (`hsetStore_eq`, `expire_eq`);
* `hsetExpire_twice`, `execTx_hsetBatch_twice` — the batch of `HSet` and `HSetObject`;
* `execute_set_twice`, `execute_del_twice` — one command;
* `executeCluster_twice`, `execTxCluster_twice` — on a cluster.
-/

namespace Xredis
namespace Server

open Go

/-! ### Hashes -/

/-- Erasing a key of a list with distinct keys drops its entry. -/
theorem kerase_eq_filter {a : String} :
    ∀ {l : List (Σ _ : String, String)}, l.NodupKeys → l.kerase a = l.filter fun e => e.1 ≠ a
  | [], _ => rfl
  | e :: l, h => by
    rw [List.nodupKeys_cons] at h
    by_cases ha : a = e.1
    · rw [List.kerase_cons_eq ha, List.filter_cons_of_neg (by simp [ha]), eq_comm,
        List.filter_eq_self]
      intro e' he'
      simp only [ne_eq, decide_eq_true_eq]
      rintro rfl
      exact h.1 (ha ▸ List.mem_keys_of_mem he')
    · rw [List.kerase_cons_ne ha, List.filter_cons, if_pos (decide_eq_true (Ne.symm ha)),
        kerase_eq_filter h.2]

/-- `HSET`'s pairs put their fields first, in the order the empty hash would get them, and
keep the other fields in their order. -/
theorem hsetFields_entries : ∀ (h : Hash) (ps : List (String × String)),
    (hsetFields h ps).2.entries =
      (hsetFields ∅ ps).2.entries ++ h.entries.filter fun e => e.1 ∉ ps.map Prod.fst
  | h, [] => by simp [hsetFields]
  | h, (f, v) :: ps => by
    have hY : ((h.entries.filter fun e => e.1 ≠ f).filter fun e => e.1 ∉ ps.map Prod.fst) =
        h.entries.filter fun e => e.1 ∉ ((f, v) :: ps).map Prod.fst := by
      rw [List.filter_filter]
      exact List.filter_congr fun e _ => Bool.eq_iff_iff.2 (by simp [and_comm])
    simp only [hsetFields]
    rw [hsetFields_entries (h.insert f v) ps, hsetFields_entries ((∅ : Hash).insert f v) ps,
      AList.insert_entries, AList.insert_entries, kerase_eq_filter h.nodupKeys, List.append_assoc,
      show (∅ : Hash).entries = [] from rfl, List.kerase_nil, List.filter_cons, List.filter_cons,
      List.filter_nil, hY]
    split_ifs <;> rfl

theorem mem_hsetFields_empty {ps : List (String × String)} {e : Σ _ : String, String}
    (he : e ∈ (hsetFields ∅ ps).2.entries) : e.1 ∈ ps.map Prod.fst := by
  by_contra hk
  have hl := hsetFields_lookup_of_not_mem ∅ ps hk
  rw [AList.lookup_empty] at hl
  exact (AList.lookup_eq_none.1 hl) (List.mem_keys_of_mem he)

/-- `HSET`'s pairs set twice leave the hash as set once. -/
theorem hsetFields_twice (h : Hash) (ps : List (String × String)) :
    (hsetFields (hsetFields h ps).2 ps).2 = (hsetFields h ps).2 := by
  have hG : (hsetFields ∅ ps).2.entries.filter (fun e => e.1 ∉ ps.map Prod.fst) = [] :=
    List.filter_eq_nil_iff.2 fun e he => by simpa using mem_hsetFields_empty he
  apply AList.ext
  rw [hsetFields_entries, hsetFields_entries h, List.filter_append, hG, List.nil_append,
    List.filter_filter]
  simp only [Bool.and_self]

/-! ### The batch of `HSet` and `HSetObject` -/

theorem put_eq_self (s : Store) (k : String) : s.put k (s k) = s := by
  funext x
  by_cases hx : x = k <;> simp [Store.put, hx]

/-- What the `HSET`s of `qs` leave under their key, from what it held. -/
def hsetEntry (qs : List (String × String)) : Option Entry → Option Entry
  | some ⟨.str v, t⟩ => some ⟨.str v, t⟩
  | some ⟨.hash h, t⟩ => some ⟨.hash (hsetFields h qs).2, t⟩
  | none => if qs = [] then none else some ⟨.hash (hsetFields ∅ qs).2, none⟩

/-- What `EXPIRE` with no option leaves under its key. -/
def expireEntry (ms : Int) : Option Entry → Option Entry
  | none => none
  | some e => if ms ≤ 0 then none else some { e with ttl := some ms }

theorem hsetStore_eq (s : Store) (key : String) (qs : List (String × String)) :
    hsetStore s key qs = s.put key (hsetEntry qs (s key)) := by
  rcases qs with _ | ⟨q, qs⟩
  · show s = _
    conv_lhs => rw [← put_eq_self s key]
    rcases s key with _ | ⟨_ | h, t⟩ <;> rfl
  · rcases hk : s key with _ | ⟨v | h, t⟩
    · rw [hsetStore_of_hash (show s.hashFor key = some (∅, none) by simp [Store.hashFor, hk])]
      rfl
    · rw [hsetStore_of_string (by simp [Store.hashFor, hk])]
      conv_lhs => rw [← put_eq_self s key]
      rw [hk]
      rfl
    · rw [hsetStore_of_hash (show s.hashFor key = some (h, t) by simp [Store.hashFor, hk])]
      rfl

theorem expire_eq (s : Store) (key : String) (ms : Int) :
    (expire s key {} ms).2 = s.put key (expireEntry ms (s key)) := by
  rcases hk : s key with _ | e
  · rw [expire_of_none hk]
    conv_lhs => rw [← put_eq_self s key]
    rw [hk]
    rfl
  · rw [expire_of_some hk]
    by_cases hm : ms ≤ 0 <;> simp [expireEntry, hm]

/-- Per key: what the batch leaves, run again on it, is what it left. -/
theorem hsetExpireEntry_twice (qs : List (String × String)) (ms : Int) (x : Option Entry) :
    expireEntry ms (hsetEntry qs (expireEntry ms (hsetEntry qs x))) =
      expireEntry ms (hsetEntry qs x) := by
  by_cases hm : ms ≤ 0 <;> rcases x with _ | ⟨_ | h, t⟩ <;> by_cases hq : qs = [] <;>
    simp [hsetEntry, expireEntry, hm, hq, hsetFields_twice]

/-- The `HSET`s and the `EXPIRE` of `HSet` and `HSetObject`, run again on what they left,
leave it as it was. -/
theorem hsetExpire_twice (s : Store) (key : String) (qs : List (String × String)) (ms : Int) :
    (expire (hsetStore (expire (hsetStore s key qs) key {} ms).2 key qs) key {} ms).2 =
      (expire (hsetStore s key qs) key {} ms).2 := by
  simp only [hsetStore_eq, expire_eq, Store.put_self, put_put, hsetExpireEntry_twice]

/-! ### One command, and the cluster -/

theorem set_twice (s : Store) (key v : String) (ex : SetExpiry) :
    set (set s key v ex) key v ex = set s key v ex := by
  cases ex <;> simp [set, put_put]

/-- `SET`, whatever its arguments, run again on what it left. -/
theorem execute_set_twice (s : Store) (rest : List String) :
    (execute (execute s ("set" :: rest)).2 ("set" :: rest)).2 = (execute s ("set" :: rest)).2 := by
  unfold execute
  cases precheck ("set" :: rest)
  · rcases rest with _ | ⟨key, _ | ⟨v, opts⟩⟩
    · rfl
    · rfl
    · show (run (run s _).2 _).2 = (run s _).2
      have hrun : ∀ u : Store, (run u ("set" :: key :: v :: opts)).2 =
          match parseSetExpiry opts with
          | .error _ => u
          | .ok ex => set u key v ex := fun u => by
        cases hp : parseSetExpiry opts
        · exact congrArg Prod.snd (setCommand_apply_error hp u)
        · exact congrArg Prod.snd (setCommand_apply hp u)
      rw [hrun, hrun]
      cases parseSetExpiry opts
      · rfl
      · exact set_twice s key v _
  · rfl

/-- `DEL`, whatever its arguments, run again on what it left. -/
theorem execute_del_twice (s : Store) (ks : List String) :
    (execute (execute s ("del" :: ks)).2 ("del" :: ks)).2 = (execute s ("del" :: ks)).2 := by
  unfold execute
  cases precheck ("del" :: ks)
  · show (del (del s ks).2 ks).2 = (del s ks).2
    funext x
    simp only [del_store]
    split <;> rfl
  · rfl

/-- The batch of `HSet` and `HSetObject` as a transaction, run again on what it left. -/
theorem execTx_hsetBatch_twice (s : Store) (key : String) (qs : List (String × String)) {n : Int}
    (hn : |n| < 10 ^ 10) :
    (execTx (execTx s (qs.map (hsetArgv key) ++ [["expire", key, formatInt n]])).2
        (qs.map (hsetArgv key) ++ [["expire", key, formatInt n]])).2 =
      (execTx s (qs.map (hsetArgv key) ++ [["expire", key, formatInt n]])).2 := by
  have hpre : ∀ c ∈ qs.map (hsetArgv key) ++ [["expire", key, formatInt n]], precheck c = none := by
    intro c hc
    simp only [List.mem_append, List.mem_map, List.mem_singleton] at hc
    rcases hc with ⟨q, -, rfl⟩ | rfl
    · exact precheck_hset key q.1 q.2
    · exact precheck_expire key _
  simp only [execTx_of_prechecked hpre, runAll_hsets_expire _ key qs hn, hsetExpire_twice]

/-- On a cluster a command runs as on a single server or is refused, by its own slots. -/
theorem executeCluster_twice {argv : List String}
    (h : ∀ s, (execute (execute s argv).2 argv).2 = (execute s argv).2) (s : Store) :
    (executeCluster (executeCluster s argv).2 argv).2 = (executeCluster s argv).2 := by
  cases hc : crossSlot argv
  · simp only [executeCluster_of_not_crossSlot hc, h]
  · have hs : ∀ u, (executeCluster u argv).2 = u := fun u => by
      unfold executeCluster
      cases precheck argv <;> simp [hc]
    rw [hs, hs]

theorem execTxCluster_twice {cmds : List (List String)}
    (h : ∀ s, (execTx (execTx s cmds).2 cmds).2 = (execTx s cmds).2) (s : Store) :
    (execTxCluster (execTxCluster s cmds).2 cmds).2 = (execTxCluster s cmds).2 := by
  unfold execTxCluster
  split
  · rfl
  · split
    · rfl
    · exact h s

end Server
end Xredis
