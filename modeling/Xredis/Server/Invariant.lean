import Xredis.Server.Commands

/-!
# The shape of a reachable keyspace

Redis keeps its keyspace in a shape its commands rely on: a hash loses its key with its
last field, so no key holds an empty hash, and a key whose time to live has run out is
gone, so every time to live is positive. Each command keeps that shape: `HSET` needs a
field, `EXPIRE` with a time already passed deletes the key, `SET` refuses a time that is
not positive, and the others keep the time to live they find.

* `Store.WF` — the shape, as `Entry.WF` of every entry;
* `hset_wf`, `expire_wf`, `del_wf`, `set_wf`, `hincrBy_wf`, `incrBy_wf` — one lemma per
  command that writes;
* `Prim.apply_wf`, `run_wf`, `execute_wf` — **the step**: every primitive, so every
  command the server runs, keeps the shape;
* `runAll_wf`, `execTx_wf` — **the run**: so do a pipeline and a transaction.
-/

namespace Xredis
namespace Server

open Go

/-- An entry as Redis keeps it. -/
structure Entry.WF (e : Entry) : Prop where
  /-- A hash has a field. -/
  hash_ne : ∀ h, e.value = .hash h → h.entries ≠ []
  /-- A time to live is positive. -/
  ttl_pos : ∀ t, e.ttl = some t → 0 < t

/-- A keyspace as Redis keeps it: every entry is. -/
def Store.WF (s : Store) : Prop :=
  ∀ k e, s k = some e → e.WF

namespace Store

theorem wf_empty : Store.empty.WF := fun _ _ h => nomatch h

theorem WF.put {s : Store} (hs : s.WF) (k : String) {o : Option Entry}
    (he : ∀ e, o = some e → e.WF) : (s.put k o).WF := by
  intro x e hx
  by_cases h : x = k
  · subst h
    exact he e (by simpa using hx)
  · exact hs x e (by simpa [h] using hx)

theorem WF.put_none {s : Store} (hs : s.WF) (k : String) : (s.put k none).WF :=
  hs.put k fun _ h => nomatch h

/-- The time to live a hash command finds is positive. -/
theorem WF.hashFor_ttl {s : Store} (hs : s.WF) {key : String} {h : Hash} {t : Option Int}
    (hk : s.hashFor key = some (h, t)) : ∀ n, t = some n → 0 < n := by
  unfold hashFor at hk
  split at hk
  · simp only [Option.some.injEq, Prod.mk.injEq] at hk
    rw [← hk.2]
    exact fun _ hn => nomatch hn
  · simp only [Option.some.injEq, Prod.mk.injEq] at hk
    rw [← hk.2]
    exact (hs _ _ ‹_›).ttl_pos
  · cases hk

/-- The time to live a key has is positive. -/
theorem WF.bind_ttl {s : Store} (hs : s.WF) (key : String) :
    ∀ n, (s key).bind Entry.ttl = some n → 0 < n := by
  intro n hn
  cases hk : s key with
  | none => simp [hk] at hn
  | some e =>
    simp only [hk, Option.bind_some] at hn
    exact (hs key e hk).ttl_pos n hn

end Store

/-! ### One lemma per command that writes -/

theorem hsetFields_entries_ne :
    ∀ (h : Hash) (ps : List (String × String)), h.entries ≠ [] → (hsetFields h ps).2.entries ≠ []
  | _, [], hne => hne
  | h, (f, v) :: ps, _ => hsetFields_entries_ne (h.insert f v) ps (by simp [AList.insert_entries])

theorem hset_wf {s : Store} (hs : s.WF) (key : String) {ps : List (String × String)}
    (hp : ps ≠ []) : (hset s key ps).2.WF := by
  unfold hset
  cases hk : s.hashFor key with
  | none => exact hs
  | some ht =>
    obtain ⟨h, t⟩ := ht
    obtain ⟨⟨f, v⟩, ps, rfl⟩ := List.exists_cons_of_ne_nil hp
    refine hs.put key fun e he => ?_
    cases he
    exact ⟨fun _ hh => by
      cases hh
      exact hsetFields_entries_ne (h.insert f v) ps (by simp [AList.insert_entries]),
      hs.hashFor_ttl hk⟩

theorem expire_wf {s : Store} (hs : s.WF) (key : String) (fl : ExpireFlags) (ms : Int) :
    (expire s key fl ms).2.WF := by
  unfold expire
  cases hk : s key with
  | none => exact hs
  | some e =>
    by_cases hr : fl.refuses e.ttl ms
    · simpa [hr] using hs
    · by_cases hm : ms ≤ 0
      · simpa [hr, hm] using hs.put_none key
      · simp only [hr, hm, Bool.false_eq_true, if_false]
        refine hs.put key fun e' he => ?_
        cases he
        exact ⟨(hs key e hk).hash_ne, fun t ht => by cases ht; omega⟩

theorem del_wf : ∀ {s : Store}, s.WF → ∀ ks, (del s ks).2.WF
  | _, hs, [] => hs
  | _, hs, k :: ks => del_wf (hs.put_none k) ks

theorem set_wf {s : Store} (hs : s.WF) (key v : String) {ex : SetExpiry}
    (hex : ∀ t, ex = .ms t → 0 < t) : (set s key v ex).WF := by
  refine hs.put key fun e he => ?_
  cases he
  refine ⟨(fun _ hh => nomatch hh), fun t ht => ?_⟩
  cases ex with
  | persist => cases ht
  | keepTTL => exact hs.bind_ttl key t ht
  | ms t' => exact Option.some.inj ht ▸ hex t' rfl

theorem hincrBy_wf {s : Store} (hs : s.WF) (key field : String) (d : Int) :
    (hincrBy s key field d).2.WF := by
  unfold hincrBy
  cases hk : s.hashFor key with
  | none => exact hs
  | some ht =>
    obtain ⟨h, t⟩ := ht
    simp only
    split
    · exact hs
    · refine hs.put key fun e he => ?_
      cases he
      exact ⟨fun _ hh => by cases hh; simp [AList.insert_entries], hs.hashFor_ttl hk⟩

theorem incrBy_wf {s : Store} (hs : s.WF) (key : String) (d : Int) : (incrBy s key d).2.WF := by
  unfold incrBy
  split
  · exact hs
  · simp only
    split
    · exact hs
    · refine hs.put key fun e he => ?_
      cases he
      exact ⟨(fun _ hh => nomatch hh), hs.bind_ttl key⟩

/-! ### Runs -/

/-- **What a primitive does to the keyspace**: each keeps the shape, with the pair of
`HSET` and the positive time to live of `SET` that `Prim` carries. -/
theorem Prim.apply_wf {s : Store} (hs : s.WF) : ∀ p : Prim, (p.apply s).2.WF
  | .reply _ | .existsKeys _ | .get _ | .hgetall _ | .hget _ _ | .hexists _ _ => hs
  | .del ks => del_wf hs ks
  | .hset key _ _ => hset_wf hs key (List.cons_ne_nil _ _)
  | .expire key fl ms => expire_wf hs key fl ms
  | .set key v _ hex => set_wf hs key v hex
  | .hincrBy key f d => hincrBy_wf hs key f d
  | .incrBy key d => incrBy_wf hs key d

/-- **The step.** Every command keeps the keyspace as Redis keeps it. -/
theorem run_wf {s : Store} (hs : s.WF) : ∀ argv, (run s argv).2.WF
  | [] => hs
  | _ :: _ => Prim.apply_wf hs _

/-- A command the server receives keeps the keyspace as Redis keeps it. -/
theorem execute_wf {s : Store} (hs : s.WF) (argv : List String) : (execute s argv).2.WF := by
  unfold execute
  cases precheck argv
  · exact run_wf hs argv
  · exact hs

/-- **The run.** A pipeline keeps the keyspace as Redis keeps it. -/
theorem runAll_wf : ∀ {s : Store}, s.WF → ∀ cmds, (runAll s cmds).2.WF
  | _, hs, [] => hs
  | _, hs, c :: cs => runAll_wf (execute_wf hs c) cs

/-- So does a transaction, run or discarded. -/
theorem execTx_wf {s : Store} (hs : s.WF) (cmds : List (List String)) : (execTx s cmds).2.WF := by
  unfold execTx
  split
  · exact hs
  · exact runAll_wf hs cmds

end Server
end Xredis
