import Xredis.Server.Commands

/-!
# The client's batches on the server

What the server does with the commands the client sends: `HSET key f v` (one pair per
command, as `HSet` and `HSetObject` queue them), `EXPIRE key n` with a decimal `n`, and
`DEL key …`.

* `runAll_hsets_of_string` — on a key holding a string every `HSET` replies `WRONGTYPE`
  and changes nothing;
* `runAll_hsets_of_hash` — on a hash or a missing key the `HSET`s reply with integers and
  leave the key holding the hash with every pair set, its time to live kept;
* `hsetStore_of_string`, `hsetStore_of_hash` — the store after the `HSET`s;
* `expire_of_some` — `EXPIRE` replaces the time to live, or deletes the key;
* `execTx_of_prechecked` — a transaction none of whose commands is refused while queueing
  runs them all, as a pipeline would;
* `del_store` — `DEL` removes exactly its keys.
-/

namespace Xredis
namespace Server

open Go

/-! ### One command -/

theorem execute_hset (s : Store) (key f v : String) :
    execute s ["hset", key, f, v] = hset s key [(f, v)] := rfl

theorem precheck_hset (key f v : String) : precheck ["hset", key, f, v] = none := rfl

theorem precheck_expire (key n : String) : precheck ["expire", key, n] = none := rfl

theorem execute_expire_secs (s : Store) (key secs : String) :
    execute s ["expire", key, secs] =
      match expireMillis secs with
      | .error e => (.err e, s)
      | .ok ms => expire s key {} ms := by
  show (expireCommand [key, secs]).apply s = _
  simp only [expireCommand]
  cases expireMillis secs <;> rfl

/-- `EXPIRE key n` with `n` written by `strconv.FormatInt`, for an `n` of at most ten
decimal digits: the seconds converted to milliseconds, no option. -/
theorem execute_expire (s : Store) (key : String) {n : Int} (h : |n| < 10 ^ 10) :
    execute s ["expire", key, formatInt n] = expire s key {} (n * 1000) := by
  obtain ⟨h1, h2⟩ := abs_lt.1 h
  norm_num at h1 h2
  have hf : fitsSigned 64 n = true := by
    simp only [fitsSigned, Bool.and_eq_true, decide_eq_true_eq]; norm_num; omega
  have hmax : llongMax.tdiv 1000 = 9223372036854775 := rfl
  have hmin : (-llongMax - 1).tdiv 1000 = -9223372036854775 := rfl
  have hb : ¬(llongMax.tdiv 1000 < n ∨ n < (-llongMax - 1).tdiv 1000) := by omega
  simp [execute_expire_secs, expireMillis, string2ll_formatInt hf, hb]

theorem precheck_del_nil : precheck ["del"] = some (wrongArity "del") := rfl

theorem precheck_del_cons (k : String) (ks : List String) : precheck ("del" :: k :: ks) = none := by
  have ha : arity (lower "del") = some (-2) := rfl
  simp only [precheck, ha, List.length_cons]
  rw [if_neg (by omega)]

theorem execute_del {ks : List String} (h : ks ≠ []) (s : Store) :
    execute s ("del" :: ks) = (.int (del s ks).1, (del s ks).2) := by
  obtain ⟨k, ks, rfl⟩ := List.exists_cons_of_ne_nil h
  simp only [execute, precheck_del_cons]
  rfl

/-- `DEL` removes exactly its keys. -/
theorem del_store (s : Store) (ks : List String) :
    (del s ks).2 = fun x => if x ∈ ks then none else s x := by
  induction ks generalizing s with
  | nil => rfl
  | cons k ks ih =>
    funext x
    simp only [del, ih, List.mem_cons]
    by_cases hx : x = k <;> by_cases hm : x ∈ ks <;> simp [hx, hm, Store.put]

/-! ### The `HSET`s of a batch -/

/-- The command `HSET key q.1 q.2`. -/
def hsetArgv (key : String) (q : String × String) : List String :=
  ["hset", key, q.1, q.2]

theorem hashFor_eq_none {s : Store} {key : String} :
    s.hashFor key = none ↔ ∃ v t, s key = some ⟨.str v, t⟩ := by
  unfold Store.hashFor
  split <;> simp_all

theorem hset_of_string {s : Store} {key : String} (hs : s.hashFor key = none)
    (ps : List (String × String)) : hset s key ps = (.err wrongType, s) := by
  simp [hset, hs]

theorem hashFor_put_hash (s : Store) (key : String) (h : Hash) (t : Option Int) :
    (s.put key (some ⟨.hash h, t⟩)).hashFor key = some (h, t) := by
  simp [Store.hashFor]

theorem put_put (s : Store) (key : String) (e e' : Option Entry) :
    (s.put key e).put key e' = s.put key e' := by
  funext x
  by_cases hx : x = key <;> simp [Store.put, hx]

theorem runAll_hset_cons (s : Store) (key : String) (q : String × String)
    (rest : List (List String)) :
    runAll s (hsetArgv key q :: rest) =
      ((hset s key [q]).1 :: (runAll (hset s key [q]).2 rest).1,
        (runAll (hset s key [q]).2 rest).2) := rfl

/-- On a key holding a string, every `HSET` replies `WRONGTYPE` and changes nothing. -/
theorem runAll_hsets_of_string {s : Store} {key : String} (hs : s.hashFor key = none)
    (qs : List (String × String)) (rest : List (List String)) :
    runAll s (qs.map (hsetArgv key) ++ rest) =
      (qs.map (fun _ => .err wrongType) ++ (runAll s rest).1, (runAll s rest).2) := by
  induction qs with
  | nil => rfl
  | cons q qs ih => simp only [List.map_cons, List.cons_append, runAll_hset_cons, hset_of_string hs, ih]

theorem hset_one_of_hash {s : Store} {key : String} {h : Hash} {t : Option Int}
    (hs : s.hashFor key = some (h, t)) (f v : String) :
    hset s key [(f, v)] =
      (.int ((if f ∈ h then 0 else 1 : Nat) : Int), s.put key (some ⟨.hash (h.insert f v), t⟩)) := by
  simp [hset, hs, hsetFields]

/-- On a hash `h` (or a missing key, `h` empty), the `HSET`s of `q :: qs` reply with
integers and leave `key` holding `h` with every pair set, under its time to live. -/
theorem runAll_hsets_of_hash {s : Store} {key : String} {h : Hash} {t : Option Int}
    (hs : s.hashFor key = some (h, t)) (q : String × String) (qs : List (String × String))
    (rest : List (List String)) :
    ∃ ns : List Int,
      runAll s ((q :: qs).map (hsetArgv key) ++ rest) =
        (ns.map .int ++ (runAll (s.put key (some ⟨.hash (hsetFields h (q :: qs)).2, t⟩)) rest).1,
          (runAll (s.put key (some ⟨.hash (hsetFields h (q :: qs)).2, t⟩)) rest).2) := by
  induction qs generalizing s h q with
  | nil =>
    obtain ⟨f, v⟩ := q
    exact ⟨[_], by simp only [List.map_cons, List.map_nil, List.cons_append, List.nil_append,
      runAll_hset_cons, hset_one_of_hash hs, hsetFields]; rfl⟩
  | cons q' qs ih =>
    obtain ⟨f, v⟩ := q
    obtain ⟨ns, hns⟩ := ih (hashFor_put_hash s key (h.insert f v) t) q'
    refine ⟨((if f ∈ h then 0 else 1 : Nat) : Int) :: ns, ?_⟩
    rw [List.map_cons, List.cons_append, runAll_hset_cons, hset_one_of_hash hs, hns]
    simp only [hsetFields, put_put]
    rfl

theorem runAll_append (s : Store) (as bs : List (List String)) :
    runAll s (as ++ bs) =
      ((runAll s as).1 ++ (runAll (runAll s as).2 bs).1, (runAll (runAll s as).2 bs).2) := by
  induction as generalizing s with
  | nil => rfl
  | cons a as ih => rw [List.cons_append]; simp only [runAll, ih, List.cons_append]

/-- The store after `HSET key q.1 q.2` for each pair in turn. -/
def hsetStore (s : Store) (key : String) (qs : List (String × String)) : Store :=
  (runAll s (qs.map (hsetArgv key))).2

theorem hsetStore_of_string {s : Store} {key : String} (hs : s.hashFor key = none)
    (qs : List (String × String)) : hsetStore s key qs = s := by
  simpa [hsetStore] using congrArg Prod.snd (runAll_hsets_of_string hs qs [])

theorem hsetStore_of_hash {s : Store} {key : String} {h : Hash} {t : Option Int}
    (hs : s.hashFor key = some (h, t)) (q : String × String) (qs : List (String × String)) :
    hsetStore s key (q :: qs) = s.put key (some ⟨.hash (hsetFields h (q :: qs)).2, t⟩) := by
  obtain ⟨ns, hns⟩ := runAll_hsets_of_hash hs q qs []
  simpa [hsetStore] using congrArg Prod.snd hns

/-- `EXPIRE` with no option on a key that exists: deleted by a time that has passed,
given the new time to live otherwise. -/
theorem expire_of_some {s : Store} {key : String} {e : Entry} (hs : s key = some e) (ms : Int) :
    expire s key {} ms =
      (.int 1, if ms ≤ 0 then s.put key none else s.put key (some { e with ttl := some ms })) := by
  by_cases hm : ms ≤ 0 <;> simp [expire, hs, ExpireFlags.refuses, hm]

theorem expire_of_none {s : Store} {key : String} (hs : s key = none) (ms : Int) :
    expire s key {} ms = (.int 0, s) := by
  simp [expire, hs]

theorem runAll_length (s : Store) (cmds : List (List String)) :
    (runAll s cmds).1.length = cmds.length := by
  induction cmds generalizing s with
  | nil => rfl
  | cons c cmds ih => simp [runAll, ih]

/-- The replies of the `HSET`s: all `WRONGTYPE` on a string, all integers otherwise. -/
theorem hsetReplies (s : Store) (key : String) (qs : List (String × String)) :
    ((s.hashFor key).isNone ∧
        (runAll s (qs.map (hsetArgv key))).1 = qs.map fun _ => .err wrongType) ∨
      ((s.hashFor key).isSome ∧ ∃ ns : List Int, (runAll s (qs.map (hsetArgv key))).1 = ns.map .int) := by
  cases hs : s.hashFor key with
  | none => simpa [runAll] using congrArg Prod.fst (runAll_hsets_of_string hs qs [])
  | some ht =>
    cases qs with
    | nil => exact .inr ⟨rfl, [], rfl⟩
    | cons q qs =>
      obtain ⟨ns, hns⟩ := runAll_hsets_of_hash hs q qs []
      exact .inr ⟨rfl, ns, by simpa [runAll] using congrArg Prod.fst hns⟩

/-- The `HSET`s and then `EXPIRE key n`: the `HSET`s' replies and the reply of `EXPIRE`
on the store they leave. -/
theorem runAll_hsets_expire (s : Store) (key : String) (qs : List (String × String)) {n : Int}
    (hn : |n| < 10 ^ 10) :
    runAll s (qs.map (hsetArgv key) ++ [["expire", key, formatInt n]]) =
      ((runAll s (qs.map (hsetArgv key))).1 ++ [(expire (hsetStore s key qs) key {} (n * 1000)).1],
        (expire (hsetStore s key qs) key {} (n * 1000)).2) := by
  rw [runAll_append]
  simp only [runAll, execute_expire _ _ hn, hsetStore]

/-- `HSET`'s pairs leave a field none of them sets as it was. -/
theorem hsetFields_lookup_of_not_mem {k : String} :
    ∀ (h : Hash) (qs : List (String × String)), k ∉ qs.map Prod.fst →
      ((hsetFields h qs).2).lookup k = h.lookup k
  | _, [], _ => rfl
  | h, (f, v) :: qs, hk => by
    simp only [List.map_cons, List.mem_cons, not_or] at hk
    simp [hsetFields, hsetFields_lookup_of_not_mem _ qs hk.2, AList.lookup_insert_ne hk.1]

/-- A transaction none of whose commands is refused while queueing runs them all. -/
theorem execTx_of_prechecked {cmds : List (List String)} (h : ∀ c ∈ cmds, precheck c = none)
    (s : Store) : execTx s cmds = (.ok (runAll s cmds).1, (runAll s cmds).2) := by
  have : (cmds.any fun c => (precheck c).isSome) = false := by
    simpa using fun c hc => h c hc
  simp [execTx, this]

end Server
end Xredis
