import Xredis.Client.Session
import Xredis.Client.Interleave

/-!
# Counters: `Incr`, `Decr` and `Int64`

`Incr` and `Decr` send `INCR` and `DECR`. Redis reads the value as a 64-bit integer
(`string2ll`), adds one or subtracts one, and stores the result as its decimal text,
keeping the key's time to live; a result outside the `int64` range is refused with
`ERR increment or decrement would overflow`, and the value is kept. `Set` of an `int64`
writes the text `strconv.FormatInt` gives, which `string2ll` reads back, and `Int64`
parses the text with `strconv.ParseInt`. So a key written by `Set` of an `int64` is a
counter that no step loses: after any sequence of `Incr` and `Decr` calls, `Int64` reads
the start value moved by every step that stayed in range.

* `counterWalk` — the counter after a list of steps, a step that would leave the `int64`
  range refused;
* `step_redis` — **the step**: one `Incr` or `Decr` on a key holding an `int64`;
* `steps_redis` — **the run**: a sequence of them;
* `counter_session` — `Set` of an `int64`, any sequence of `Incr` and `Decr`, then `Int64`;
* `counter_interleaving` — two goroutines' `Incr` and `Decr` on one key, in any
  interleaving: no step of either is lost.
-/

namespace Xredis
namespace Client

open Go Rdb Server

/-- The value of a counter that starts at `n` after the deltas in turn: a delta whose sum
would leave the `int64` range is refused, and the value kept. -/
def counterWalk (n : Int) : List Int → Int
  | [] => n
  | d :: ds => if fitsSigned 64 (n + d) then counterWalk (n + d) ds else counterWalk n ds

/-- `Incr` for `true`, `Decr` for `false`. -/
def Op.step (key : String) (b : Bool) : Op :=
  if b then .incr key else .decr key

/-- The delta of `Op.step`. -/
def stepDelta (b : Bool) : Int :=
  if b then 1 else -1

theorem counterWalk_fits : ∀ {n : Int} (ds : List Int), fitsSigned 64 n = true →
    fitsSigned 64 (counterWalk n ds) = true
  | _, [], hn => hn
  | n, d :: ds, hn => by
    unfold counterWalk
    split
    · exact counterWalk_fits ds ‹_›
    · exact counterWalk_fits ds hn

/-- While every partial sum stays in range, nothing is refused. -/
theorem counterWalk_eq_sum : ∀ {n : Int} (bs : List Bool), |n| + bs.length < 2 ^ 63 →
    counterWalk n (bs.map stepDelta) = n + (bs.map stepDelta).sum
  | _, [], _ => by simp [counterWalk]
  | n, b :: bs, h => by
    simp only [List.length_cons, Nat.cast_add, Nat.cast_one] at h
    have hfit : fitsSigned 64 (n + stepDelta b) = true := by
      have := le_abs_self n
      have := neg_abs_le n
      cases b <;> simp only [fitsSigned, stepDelta, if_true, Bool.false_eq_true, if_false, Nat.reduceSub,
        Bool.and_eq_true, decide_eq_true_eq] <;> omega
    have hd : |stepDelta b| = 1 := by cases b <;> rfl
    have hrest : |n + stepDelta b| + bs.length < 2 ^ 63 := by linarith [abs_add n (stepDelta b)]
    simp only [List.map_cons, counterWalk, hfit, if_true, counterWalk_eq_sum bs hrest, List.sum_cons]
    ring

/-! ### The step and the run -/

theorem execute_incr (s : Store) (key : String) : execute s ["incr", key] = incrBy s key 1 := rfl

theorem execute_decr (s : Store) (key : String) : execute s ["decr", key] = incrBy s key (-1) := rfl

/-- `INCRBY` on a key holding the text of an `int64`. -/
theorem incrBy_int {s : Store} {key : String} {n : Int} {t : Option Int}
    (hk : s key = some ⟨.str (formatInt n), t⟩) (hn : fitsSigned 64 n = true) (d : Int) :
    (incrBy s key d).2 =
      if fitsSigned 64 (n + d) then s.put key (some ⟨.str (formatInt (n + d)), t⟩) else s := by
  unfold incrBy
  rw [hk]
  by_cases hf : fitsSigned 64 (n + d) = true <;> simp [incrResult, string2ll_formatInt hn, hf]

/-- **The step.** One `Incr` or `Decr` on a key holding the text of an `int64`. -/
theorem step_redis (env : Env) (order : List (String × String) → List (String × String))
    {s : Store} {key : String} {n : Int} {t : Option Int}
    (hk : s key = some ⟨.str (formatInt n), t⟩) (hn : fitsSigned 64 n = true) (b : Bool) :
    (Op.step key b).apply env order (redis env) s =
      .ok (if fitsSigned 64 (n + stepDelta b) then
        s.put key (some ⟨.str (formatInt (n + stepDelta b)), t⟩) else s) := by
  cases b
  · rw [show Op.step key false = .decr key from rfl, ← incrBy_int hk hn]
    simp only [Op.apply, Client.decr, cmdErr, show decrCmd key = ⟨.int, ["decr", key].map .str⟩ from rfl,
      process_redis_strs, execute_decr, ok_bind, pure_eq_ok, exceptMap_ok]
    rfl
  · rw [show Op.step key true = .incr key from rfl, ← incrBy_int hk hn]
    simp only [Op.apply, Client.incr, cmdErr, show incrCmd key = ⟨.int, ["incr", key].map .str⟩ from rfl,
      process_redis_strs, execute_incr, ok_bind, pure_eq_ok, exceptMap_ok]
    rfl

/-- **The run.** A sequence of `Incr` and `Decr` on a key holding the text of an `int64`
leaves it holding the text of `counterWalk` of their steps, with its time to live. -/
theorem steps_redis (env : Env) (order : List (String × String) → List (String × String))
    (key : String) :
    ∀ (bs : List Bool) {s : Store} {n : Int} {t : Option Int}, s key = some ⟨.str (formatInt n), t⟩ →
      fitsSigned 64 n = true → ∃ s', runOps env order (redis env) s (bs.map (Op.step key)) = .ok s' ∧
        s' key = some ⟨.str (formatInt (counterWalk n (bs.map stepDelta))), t⟩
  | [], _, _, _, hk, _ => ⟨_, rfl, hk⟩
  | b :: bs, s, n, t, hk, hn => by
    simp only [List.map_cons, runOps, step_redis env order hk hn b, ok_bind, counterWalk]
    split
    · exact steps_redis env order key bs (Store.put_self _ _ _) ‹_›
    · exact steps_redis env order key bs hk hn

/-! ### `Set`, then the steps, then `Int64` -/

/-- **`Incr` and `Decr` count.** After `Set` of an `int64` `n`, any sequence of `Incr` and
`Decr` calls on the key leaves it with the time to live `Set` gave it, and `Int64` reads
`counterWalk` of the steps: every step taken but one that would leave the `int64` range.
While the steps cannot reach the ends of the range, that is `n` plus the number of `Incr`
calls minus the number of `Decr` calls. -/
theorem counter_session (env : Env) (order : List (String × String) → List (String × String))
    (s : Store) (key : String) {n : Int} (hn : fitsSigned 64 n = true) (d : Duration) (bs : List Bool) :
    ∃ s₁ s', Client.set (redis env) s key (i64 n) d = .ok (none, s₁) ∧
      runOps env order (redis env) s₁ (bs.map (Op.step key)) = .ok s' ∧
      (s' key).bind Entry.ttl = (s₁ key).bind Entry.ttl ∧
      int64 (redis env) s' key = .ok ((counterWalk n (bs.map stepDelta), true, none), s') ∧
      (|n| + bs.length < 2 ^ 63 → counterWalk n (bs.map stepDelta) = n + (bs.map stepDelta).sum) := by
  obtain ⟨ex, hset⟩ := process_redis_set env s key (writeArg_written env (.int n)
    (show written .int64 = true from rfl)) d
  have hk : Server.set s key (formatInt n) ex key =
      some ⟨.str (formatInt n), (Server.set s key (formatInt n) ex key).bind Entry.ttl⟩ := by
    simp [Server.set, Store.put]
  obtain ⟨s', hrun, hk'⟩ := steps_redis env order key bs hk hn
  have hp := parseIntResult_formatInt (by decide) (counterWalk_fits (bs.map stepDelta) hn)
  refine ⟨_, s', by simp [Client.set, cmdErr, i64, hset]; rfl, hrun, by simp [hk'], ?_,
    counterWalk_eq_sum bs⟩
  simp [int64, getAs, process_redis_get, Server.get, hk', CmdType.read, strVal, convNum, hp]

theorem counter_session_incr3 :
    fitsSigned 64 (2 ^ 63 - 2) = true ∧
    ∃ s₁ s₂, Client.set (redis Env.bare) Store.empty "n" (i64 (2 ^ 63 - 2)) ⟨0, rfl⟩ = .ok (none, s₁) ∧
      runOps Env.bare id (redis Env.bare) s₁ ([true, true, false].map (Op.step "n")) = .ok s₂ ∧
      (s₂ "n").bind Entry.ttl = (s₁ "n").bind Entry.ttl ∧
      int64 (redis Env.bare) s₂ "n" =
        .ok ((counterWalk (2 ^ 63 - 2) ([true, true, false].map stepDelta), true, none), s₂) ∧
      (|(2 ^ 63 - 2 : Int)| + [true, true, false].length < 2 ^ 63 →
        counterWalk (2 ^ 63 - 2) ([true, true, false].map stepDelta) =
          2 ^ 63 - 2 + ([true, true, false].map stepDelta).sum) :=
  ⟨by decide, counter_session Env.bare id Store.empty "n" (by decide) ⟨0, rfl⟩ [true, true, false]⟩

/-! ### Two goroutines on one counter -/

/-- **No update is lost.** Two goroutines share a client and send `Incr` and `Decr` to one
key holding the text of an `int64` `n`. Each call is one `INCR` or `DECR`, which Redis
runs as one step, so in whichever interleaving their calls reach the server the key ends
holding `n` moved by every step of both, with its time to live, while the steps cannot
reach the ends of the `int64` range. -/
theorem counter_interleaving (env : Env) (order : List (String × String) → List (String × String))
    {s : Store} {key : String} {n : Int} {t : Option Int} (hk : s key = some ⟨.str (formatInt n), t⟩)
    (hn : fitsSigned 64 n = true) {bs bs₁ bs₂ : List Bool} (hi : Interleaving bs bs₁ bs₂)
    (hb : |n| + bs₁.length + bs₂.length < 2 ^ 63) :
    ∃ s', runOps env order (redis env) s (bs.map (Op.step key)) = .ok s' ∧
      s' key = some ⟨.str (formatInt (n + (bs₁.map stepDelta).sum + (bs₂.map stepDelta).sum)), t⟩ := by
  obtain ⟨s', hrun, hk'⟩ := steps_redis env order key bs hk hn
  have hl : (bs.length : Int) = bs₁.length + bs₂.length := by
    rw [hi.perm.length_eq, List.length_append, Nat.cast_add]
  rw [counterWalk_eq_sum bs (by rw [hl]; linarith), (hi.perm.map stepDelta).sum_eq, List.map_append,
    List.sum_append, ← add_assoc] at hk'
  exact ⟨s', hrun, hk'⟩

theorem counter_interleaving_two :
    Store.empty.put "n" (some ⟨.str "5", none⟩) "n" = some ⟨.str (formatInt 5), none⟩ ∧
    fitsSigned 64 5 = true ∧ Interleaving [true, false, true] [true, true] [false] ∧
    |(5 : Int)| + [true, true].length + [false].length < 2 ^ 63 ∧
    ∃ s', runOps Env.bare id (redis Env.bare) (Store.empty.put "n" (some ⟨.str "5", none⟩))
        ([true, false, true].map (Op.step "n")) = .ok s' ∧
      s' "n" =
        some ⟨.str (formatInt (5 + ([true, true].map stepDelta).sum + ([false].map stepDelta).sum)), none⟩ :=
  have hk : Store.empty.put "n" (some ⟨.str "5", none⟩) "n" = some ⟨.str (formatInt 5), none⟩ := rfl
  have hi : Interleaving [true, false, true] [true, true] [false] := .left (.right (.left .nil))
  have hb : |(5 : Int)| + [true, true].length + [false].length < 2 ^ 63 := by norm_num
  ⟨hk, rfl, hi, hb, counter_interleaving Env.bare id hk rfl hi hb⟩

end Client
end Xredis
