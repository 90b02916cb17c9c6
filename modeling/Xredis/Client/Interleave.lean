import Xredis.Client.Alike

/-!
# Calls from two goroutines

A go-redis client is safe for concurrent use, and every method of `Client` reaches Redis
as one step of the server: one command, one `MULTI … EXEC` (`HSet`, `HSetObject`), or a
pipeline of one `DEL` (`MassDelete`). Redis runs another connection's commands only
between such steps. So when two goroutines share a client, their calls reach the server
in some interleaving of their two sequences, each in its own order (`Interleaving`).

When no key is named by calls of both goroutines, the interleaving does not matter. The
interleaved session returns exactly when each goroutine's calls, run alone on the same
keyspace, return; and it leaves every key as the goroutine whose calls name it would
have left it alone, and every other key as it was. No update of either goroutine is
lost or seen by the other, on a single server as on a cluster. The proof takes one call
at a time: a call changes only its keys (`runOps_frame`) and reads only them
(`runOps_local`), so the other goroutine's calls run on what they would have seen alone.

* `Interleaving` — the calls of two sequences, each in its order;
* `sessionKeys` — the keys a session's calls name;
* `Merged` — a keyspace made of two others, each at its own keys;
* `runOps_interleaving` — **the run**: an interleaving of two sessions on disjoint keys;
* `session_interleaving` — on a single server and on a cluster.
-/

namespace Xredis
namespace Client

open Go Rdb Server

/-- `l` holds the elements of `xs` and of `ys`, each list in its order. -/
inductive Interleaving {α : Type} : List α → List α → List α → Prop
  | nil : Interleaving [] [] []
  | left {a : α} {l xs ys : List α} : Interleaving l xs ys → Interleaving (a :: l) (a :: xs) ys
  | right {a : α} {l xs ys : List α} : Interleaving l xs ys → Interleaving (a :: l) xs (a :: ys)

/-- An interleaving holds the elements of both lists. -/
theorem Interleaving.perm {α : Type} {l xs ys : List α} (h : Interleaving l xs ys) :
    l.Perm (xs ++ ys) := by
  induction h with
  | nil => exact .nil
  | left _ ih => exact ih.cons _
  | right _ ih => exact (ih.cons _).trans List.perm_middle.symm

/-- The keys a session's calls name. -/
def sessionKeys (ops : List Op) : List String :=
  ops.flatMap Op.keys

theorem mem_sessionKeys {x : String} {ops : List Op} :
    x ∈ sessionKeys ops ↔ ∃ op ∈ ops, x ∈ op.keys :=
  List.mem_flatMap

theorem mem_sessionKeys_cons {x : String} {op : Op} {ops : List Op} :
    x ∈ sessionKeys (op :: ops) ↔ x ∈ op.keys ∨ x ∈ sessionKeys ops := by
  simp only [sessionKeys, List.flatMap_cons, List.mem_append]

/-- `t` holds what `t₁` holds at the keys `K₁`, what `t₂` holds at the keys `K₂`, and what
`s` holds at every other key. -/
structure Merged (s t₁ t₂ : Store) (K₁ K₂ : List String) (t : Store) : Prop where
  left : ∀ x ∈ K₁, t x = t₁ x
  right : ∀ x ∈ K₂, t x = t₂ x
  rest : ∀ x, x ∉ K₁ → x ∉ K₂ → t x = s x

theorem Merged.symm {s t₁ t₂ t : Store} {K₁ K₂ : List String} (h : Merged s t₁ t₂ K₁ K₂ t) :
    Merged s t₂ t₁ K₂ K₁ t :=
  ⟨h.right, h.left, fun x h₂ h₁ => h.rest x h₁ h₂⟩

section Interleave

variable (env : Env) (order : List (String × String) → List (String × String)) {d : Deployment}
  (hd : d.Frames) (hl : d.Local)

/-- A session of the calls of `l` returns exactly when those of `A` and of `B` return
alone, and leaves what they leave, each at its keys. -/
def InterleavesAs (d : Deployment) (l A B : List Op) : Prop :=
  ∀ s t : Store, runOps env order (serve env d) s l = .ok t ↔
    ∃ t₁ t₂, runOps env order (serve env d) s A = .ok t₁ ∧ runOps env order (serve env d) s B = .ok t₂ ∧
      Merged s t₁ t₂ (sessionKeys A) (sessionKeys B) t

theorem InterleavesAs.symm {l A B : List Op} (h : InterleavesAs env order d l A B) :
    InterleavesAs env order d l B A := fun s t =>
  (h s t).trans ⟨fun ⟨t₁, t₂, h₁, h₂, hm⟩ => ⟨t₂, t₁, h₂, h₁, hm.symm⟩,
    fun ⟨t₂, t₁, h₂, h₁, hm⟩ => ⟨t₁, t₂, h₁, h₂, hm.symm⟩⟩

include hd

/-- A session changes only the keys its calls name. -/
theorem runOps_frame_keys {s t : Store} (ops : List Op)
    (h : runOps env order (serve env d) s ops = .ok t) (x : String) (hx : x ∉ sessionKeys ops) :
    t x = s x :=
  runOps_frame env order hd ops h x fun hk => hx (mem_sessionKeys.2 hk)

include hl

/-- **The step.** A call of the first goroutine: it changes none of the second one's
keys, so the second one's calls run on what they would have seen without it. -/
theorem InterleavesAs.cons_left {l A B : List Op} (op : Op) (h : InterleavesAs env order d l A B)
    (hdisj : ∀ x ∈ sessionKeys (op :: A), x ∉ sessionKeys B) :
    InterleavesAs env order d (op :: l) (op :: A) B := by
  have hB : ∀ o ∈ B, ∀ k ∈ o.keys, k ∈ {x | x ∈ sessionKeys B} := fun o ho k hk =>
    mem_sessionKeys.2 ⟨o, ho, hk⟩
  -- the call leaves the second goroutine's keys as they were
  have hop : ∀ {s u : Store}, op.apply env order (serve env d) s = .ok u →
      (∀ x ∉ op.keys, u x = s x) ∧ Set.EqOn s u {x | x ∈ sessionKeys B} := by
    intro s u hu
    have hf : ∀ x ∉ op.keys, u x = s x := fun x hx =>
      runOps_frame_keys env order hd [op] (by simp only [runOps, hu, ok_bind]) x
        (by simpa [sessionKeys] using hx)
    exact ⟨hf, fun x hx => (hf x fun hk => hdisj x (mem_sessionKeys_cons.2 (.inl hk)) hx).symm⟩
  intro s t
  constructor
  · intro hrun
    simp only [runOps] at hrun
    cases hu : op.apply env order (serve env d) s with
    | error p => simp [hu] at hrun
    | ok u =>
      simp only [hu, ok_bind] at hrun
      obtain ⟨hf, hsu⟩ := hop hu
      obtain ⟨t₁, t₂, h₁, h₂, hm⟩ := (h u t).1 hrun
      obtain ⟨t₂', h₂', ht₂⟩ := (runOps_local env order hl B hB hsu.symm).ok_left h₂
      refine ⟨t₁, t₂', by simp only [runOps, hu, ok_bind, h₁], h₂', ⟨?_, ?_, ?_⟩⟩
      · intro x hx
        by_cases hA : x ∈ sessionKeys A
        · exact hm.left x hA
        · have hxB : x ∉ sessionKeys B := hdisj x hx
          rw [hm.rest x hA hxB, runOps_frame_keys env order hd A h₁ x hA]
      · exact fun x hx => (hm.right x hx).trans (ht₂ hx)
      · intro x hx hxB
        have hk := mem_sessionKeys_cons.not.1 hx
        rw [hm.rest x (not_or.1 hk).2 hxB, hf x (not_or.1 hk).1]
  · rintro ⟨t₁, t₂, h₁, h₂, hm⟩
    simp only [runOps] at h₁ ⊢
    cases hu : op.apply env order (serve env d) s with
    | error p => simp [hu] at h₁
    | ok u =>
      simp only [hu, ok_bind] at h₁ ⊢
      obtain ⟨hf, hsu⟩ := hop hu
      obtain ⟨t₂', h₂', ht₂⟩ := (runOps_local env order hl B hB hsu).ok_left h₂
      refine (h u t).2 ⟨t₁, t₂', h₁, h₂', ⟨?_, ?_, ?_⟩⟩
      · exact fun x hx => hm.left x (mem_sessionKeys_cons.2 (.inr hx))
      · exact fun x hx => (hm.right x hx).trans (ht₂ hx)
      · intro x hA hxB
        by_cases hk : x ∈ op.keys
        · rw [hm.left x (mem_sessionKeys_cons.2 (.inl hk)), runOps_frame_keys env order hd A h₁ x hA]
        · rw [hm.rest x (fun h => (mem_sessionKeys_cons.1 h).elim hk hA) hxB, hf x hk]

/-- **The run.** Any interleaving of two sessions whose calls name disjoint keys returns
exactly when each returns alone, and leaves each key as the session that names it
leaves it alone. -/
theorem runOps_interleaving {l A B : List Op} (hi : Interleaving l A B)
    (hdisj : ∀ x ∈ sessionKeys A, x ∉ sessionKeys B) : InterleavesAs env order d l A B := by
  induction hi with
  | nil =>
    intro s t
    refine ⟨fun h => ⟨s, s, rfl, rfl, ?_⟩, fun ⟨_, _, _, _, hm⟩ => ?_⟩
    · cases h
      exact ⟨fun _ h => absurd h (List.not_mem_nil _), fun _ h => absurd h (List.not_mem_nil _),
        fun _ _ _ => rfl⟩
    · exact congrArg Except.ok (funext fun x => (hm.rest x (List.not_mem_nil _) (List.not_mem_nil _)).symm)
  | @left op l A B _ ih =>
    exact InterleavesAs.cons_left env order hd hl op
      (ih fun x hx => hdisj x (mem_sessionKeys_cons.2 (.inr hx))) hdisj
  | @right op l A B _ ih =>
    have hdisj' : ∀ x ∈ sessionKeys (op :: B), x ∉ sessionKeys A := fun x hx hA => hdisj x hA hx
    have ih' := ih fun x hx hB => hdisj x hx (mem_sessionKeys_cons.2 (.inr hB))
    exact InterleavesAs.symm env order
      (InterleavesAs.cons_left env order hd hl op (InterleavesAs.symm env order ih') hdisj')

end Interleave

/-- With the keys `K₁` and `K₂` disjoint and `t₂` changed only at `K₂`, the keyspace made
of `t₁` at `K₁`, of `t₂` at `K₂` and of `s` elsewhere is `t₁` at `K₁` and `t₂` elsewhere. -/
theorem merged_iff {s t₁ t₂ t : Store} {K₁ K₂ : List String} (hdisj : ∀ x ∈ K₁, x ∉ K₂)
    (h₂ : ∀ x ∉ K₂, t₂ x = s x) :
    Merged s t₁ t₂ K₁ K₂ t ↔ t = fun x => if x ∈ K₁ then t₁ x else t₂ x := by
  constructor
  · intro hm
    funext x
    by_cases hx : x ∈ K₁
    · rw [if_pos hx, hm.left x hx]
    · rw [if_neg hx]
      by_cases hx₂ : x ∈ K₂
      · exact hm.right x hx₂
      · rw [hm.rest x hx hx₂, h₂ x hx₂]
  · rintro rfl
    exact ⟨fun x hx => if_pos hx, fun x hx => if_neg fun h => hdisj x h hx,
      fun x hx hx₂ => by rw [if_neg hx, h₂ x hx₂]⟩

/-- **Calls from two goroutines on disjoint keys.** On a single Redis server and on a
Redis Cluster, any interleaving of two sequences of calls, no key named by calls of both,
returns exactly when each sequence, run alone on the same keyspace, returns; and then it
leaves every key named by the first sequence as the first leaves it, and every other key
as the second leaves it (which is as it was, at the keys the second does not name). -/
theorem session_interleaving (env : Env) (order : List (String × String) → List (String × String))
    {l ops₁ ops₂ : List Op} (hi : Interleaving l ops₁ ops₂)
    (hdisj : ∀ x ∈ sessionKeys ops₁, x ∉ sessionKeys ops₂) (s t : Store) :
    ∀ c ∈ [redis env, redisCluster env], (runOps env order c s l = .ok t ↔
      ∃ t₁ t₂, runOps env order c s ops₁ = .ok t₁ ∧ runOps env order c s ops₂ = .ok t₂ ∧
        t = fun x => if x ∈ sessionKeys ops₁ then t₁ x else t₂ x) := by
  have hrun : ∀ {d : Deployment}, d.Frames → d.Local →
      (runOps env order (serve env d) s l = .ok t ↔
        ∃ t₁ t₂, runOps env order (serve env d) s ops₁ = .ok t₁ ∧
          runOps env order (serve env d) s ops₂ = .ok t₂ ∧
          t = fun x => if x ∈ sessionKeys ops₁ then t₁ x else t₂ x) := fun hd hl =>
    (runOps_interleaving env order hd hl hi hdisj s t).trans <| exists_congr fun t₁ =>
      exists_congr fun t₂ => and_congr_right fun _ => and_congr_right fun h₂ =>
        merged_iff hdisj (runOps_frame_keys env order hd ops₂ h₂)
  intro c hc
  simp only [List.mem_cons, List.mem_singleton, List.not_mem_nil, or_false] at hc
  rcases hc with rfl | rfl
  · exact hrun redis_frames redis_local
  · exact hrun redisCluster_frames redisCluster_local

/-- One goroutine writes the hash `a` and counts `n`; the other deletes `b` and sets `c`;
their calls interleaved. -/
theorem session_interleaving_two :
    Interleaving
        [Op.hSet "a" "f" (.str "1") ⟨10000000000, rfl⟩, .massDelete ["b"], .incr "n", .set "c" (.str "v") ⟨0, rfl⟩]
        [Op.hSet "a" "f" (.str "1") ⟨10000000000, rfl⟩, .incr "n"]
        [Op.massDelete ["b"], .set "c" (.str "v") ⟨0, rfl⟩] ∧
    (∀ x ∈ sessionKeys [Op.hSet "a" "f" (.str "1") ⟨10000000000, rfl⟩, .incr "n"],
      x ∉ sessionKeys [Op.massDelete ["b"], .set "c" (.str "v") ⟨0, rfl⟩]) ∧
    ∀ c ∈ [redis Env.bare, redisCluster Env.bare],
      (runOps Env.bare id c Store.empty
          [Op.hSet "a" "f" (.str "1") ⟨10000000000, rfl⟩, .massDelete ["b"], .incr "n",
            .set "c" (.str "v") ⟨0, rfl⟩] = .ok Store.empty ↔
        ∃ t₁ t₂, runOps Env.bare id c Store.empty [Op.hSet "a" "f" (.str "1") ⟨10000000000, rfl⟩, .incr "n"] = .ok t₁ ∧
          runOps Env.bare id c Store.empty [Op.massDelete ["b"], .set "c" (.str "v") ⟨0, rfl⟩] = .ok t₂ ∧
          Store.empty = fun x =>
            if x ∈ sessionKeys [Op.hSet "a" "f" (.str "1") ⟨10000000000, rfl⟩, .incr "n"] then t₁ x else t₂ x) :=
  have hi : Interleaving
      [Op.hSet "a" "f" (.str "1") ⟨10000000000, rfl⟩, .massDelete ["b"], .incr "n", .set "c" (.str "v") ⟨0, rfl⟩]
      [Op.hSet "a" "f" (.str "1") ⟨10000000000, rfl⟩, .incr "n"]
      [Op.massDelete ["b"], .set "c" (.str "v") ⟨0, rfl⟩] := .left (.right (.left (.right .nil)))
  ⟨hi, by decide, session_interleaving Env.bare id hi (by decide) Store.empty Store.empty⟩

end Client
end Xredis
