import Xredis.Client.Object
import Xredis.Server.Batch

/-!
# What the batched writes leave in a Redis store

`HSet` and `HSetObject` run one transaction of `HSET`s and an `EXPIRE` over a connection
to a Redis server (`redis env`, for every `Env`); `MassDelete` one pipelined `DEL`.

* `hSet_cases`, `hSetObject_cases` — what each method runs: nothing, after a refused
  kind, or one batch whose `Exec` result it returns;
* `redis_exec_hsetBatch` — **the transaction**: refused at an argument with the store
  untouched, or run whole, `EXPIRE` included, failing exactly when the key holds a
  string;
* `batched_write_error_leaves` — a failed `HSet` or `HSetObject` writes no hash field and
  changes no other key, but when the key held a string its `EXPIRE` still ran
  (`hSet_wrongType_expires`);
* `hSet_success_store` — after a successful `HSet` the key holds its hash with the field
  set to the text `WriteArg` wrote, under the time to live `ttl` gives it, or is deleted
  when `ttl` is not positive: a time to live set before is never kept
  (`hSet_replaces_ttl`); `hSetObject_success_store` is the same for each tagged field;
* `massDelete_eq_deleteEach` — on a non-empty list of keys `MassDelete` and `Delete` of
  each key return nil and leave the same store; on the empty list `MassDelete` sends a
  `DEL` with no key, which Redis refuses (`massDelete_empty_fails`).
-/

namespace Xredis
namespace Client

open Go Rdb Server

/-- The batch of `HSet` and `HSetObject`: an `HSET` per pair, then the `EXPIRE`. -/
def hsetBatch (key : String) (ps : List (String × Val)) (ttl : Duration) : List Cmd :=
  ps.map (fun p => hsetCmd key p.1 p.2) ++ [expireCmd key ttl]

/-! ### What the two methods run -/

/-- `HSet` returned: it refused the kind of `value` and ran nothing, or it ran the batch of
one `HSET` and the `EXPIRE` and returned `Exec`'s result. -/
theorem hSet_cases {σ : Type} {c : Conn σ} {s : σ} {key field : String} {value : Val}
    {ttl : Duration} {r : Option Error} {s' : σ} (h : hSet c s key field value ttl = .ok (r, s')) :
    (r = some .invalidFieldType ∧ s' = s) ∨
      ∃ e rs, c.exec s true (hsetBatch key [(field, value)] ttl) = .ok ((e, rs), s') ∧
        r = execResult e rs := by
  unfold hSet at h
  split at h
  · simp only [Except.ok.injEq, Prod.mk.injEq] at h
    exact .inl ⟨h.1.symm, h.2.symm⟩
  · cases hx : c.exec s true [hsetCmd key field value, expireCmd key ttl] with
    | error p => simp [hx] at h
    | ok q =>
      obtain ⟨⟨e, rs⟩, s1⟩ := q
      simp only [hx, ok_bind, pure_eq_ok, Except.ok.injEq, Prod.mk.injEq] at h
      obtain ⟨rfl, rfl⟩ := h
      exact .inr ⟨e, rs, hx, rfl⟩

/-- `HSetObject` returned: it refused a tagged field and ran nothing, or it ran the batch of
the tagged fields' `HSET`s and the `EXPIRE` and returned `Exec`'s result. -/
theorem hSetObject_cases {σ : Type} {c : Conn σ} {s : σ} {key : String} {data : Val}
    {ttl : Duration} {r : Option Error} {s' : σ} (h : hSetObject c s key data ttl = .ok (r, s')) :
    (r = some .invalidFieldType ∧ s' = s) ∨
      ∃ fs e rs, numFieldOf data = .ok fs ∧
        c.exec s true (hsetBatch key (taggedPairs fs (structVals data)) ttl) = .ok ((e, rs), s') ∧
        r = execResult e rs := by
  unfold hSetObject at h
  cases hn : numFieldOf data with
  | error p => simp [hn] at h
  | ok fs =>
    cases hq : queueFields key fs (structVals data) with
    | error p => simp [hn, hq] at h
    | ok q =>
      cases q with
      | none =>
        simp only [hn, hq, ok_bind, pure_eq_ok, Except.ok.injEq, Prod.mk.injEq] at h
        exact .inl ⟨h.1.symm, h.2.symm⟩
      | some cmds =>
        rw [queueFields_some key fs _ hq] at hq
        cases hx : c.exec s true (taggedHSets key fs (structVals data) ++ [expireCmd key ttl]) with
        | error p => simp [hn, hq, hx] at h
        | ok q =>
          obtain ⟨⟨e, rs⟩, s1⟩ := q
          simp only [hn, hq, hx, ok_bind, pure_eq_ok, Except.ok.injEq, Prod.mk.injEq] at h
          obtain ⟨rfl, rfl⟩ := h
          exact .inr ⟨fs, e, rs, rfl, hx, rfl⟩

/-! ### Writing the batch -/

theorem writeArgs_hsetCmd (env : Env) (key f : String) (a : Val) :
    writeArgs env (hsetCmd key f a).args =
      (writeArg env a).map (·.map fun t => ["hset", key, f, t]) := by
  cases h : writeArg env a with
  | error p => simp [hsetCmd, writeArgs, h]
  | ok w => cases w <;> simp [hsetCmd, writeArgs, h]

theorem writeArgs_expireCmd (env : Env) (key : String) (ttl : Duration) :
    writeArgs env (expireCmd key ttl).args = .ok (.ok ["expire", key, formatInt (formatSec ttl)]) :=
  rfl

/-- The arguments of the batch are written in order: a refusal, or the text of every
value, the fields and the key kept. -/
theorem encodeAll_hsetBatch (env : Env) (key : String) (ttl : Duration) :
    ∀ (ps : List (String × Val)) {r : Except String (List (List String))},
      encodeAll env (hsetBatch key ps ttl) = .ok r →
      (∃ e, r = .error e) ∨
        ∃ qs : List (String × String),
          List.Forall₂ (fun p q => p.1 = q.1 ∧ writeArg env p.2 = .ok (.ok q.2)) ps qs ∧
          r = .ok (qs.map (hsetArgv key) ++ [["expire", key, formatInt (formatSec ttl)]])
  | [], r, h => by
    right
    refine ⟨[], .nil, ?_⟩
    simpa [hsetBatch, encodeAll_cons, writeArgs_expireCmd, encodeAll] using h.symm
  | (f, a) :: ps, r, h => by
    simp only [hsetBatch, List.map_cons, List.cons_append, encodeAll_cons, writeArgs_hsetCmd] at h
    cases ha : writeArg env a with
    | error p => simp [ha] at h
    | ok w =>
      cases w with
      | error e => simp only [ha, exceptMap_ok, exceptMap_error, exceptBind_ok, Except.ok.injEq] at h
                   exact .inl ⟨e, h.symm⟩
      | ok t =>
        simp only [ha, exceptMap_ok, exceptBind_ok] at h
        cases hr : encodeAll env (hsetBatch key ps ttl) with
        | error p => simp [hsetBatch] at hr; simp [hr] at h
        | ok r' =>
          have hr' := hr
          simp only [hsetBatch] at hr'
          simp only [hr', exceptMap_ok, Except.ok.injEq] at h
          rcases encodeAll_hsetBatch env key ttl ps hr with ⟨e, rfl⟩ | ⟨qs, hqs, rfl⟩
          · exact .inl ⟨e, by simp [← h]⟩
          · exact .inr ⟨(f, t) :: qs, .cons ⟨rfl, ha⟩ hqs, by simp [← h, hsetArgv]⟩

/-- A `Duration` in whole seconds has at most ten decimal digits. -/
theorem formatSec_abs_lt (d : Duration) : |formatSec d| < 10 ^ 10 := by
  have hf := d.fits
  simp only [fitsSigned, Bool.and_eq_true, decide_eq_true_eq] at hf
  norm_num at hf
  rw [Int.abs_eq_natAbs]
  unfold formatSec
  split
  · norm_num
  · rw [Int.natAbs_tdiv, show Int.natAbs second = 1000000000 from rfl]
    change ((d.ns.natAbs / 1000000000 : Nat) : Int) < 10 ^ 10
    omega

/-! ### The transaction -/

/-- **The transaction on a Redis server.** `Exec` of the `HSET`s of `ps` and the
`EXPIRE` either fails on an argument, leaving the store as it was, or runs every
command: the values written as their texts `qs`, the `HSET`s, then `EXPIRE` on the store
they leave; it then fails exactly when some `HSET` met a string. `HSet` and `HSetObject`
return `Exec`'s error. -/
theorem redis_exec_hsetBatch (env : Env) (s : Store) (key : String) (ps : List (String × Val))
    (ttl : Duration) {e : Option Error} {rs : List Cmder} {s' : Store}
    (h : (redis env).exec s true (hsetBatch key ps ttl) = .ok ((e, rs), s')) :
    execResult e rs = e ∧
      ((e.isSome = true ∧ s' = s) ∨
        ∃ qs : List (String × String),
          List.Forall₂ (fun p q => p.1 = q.1 ∧ writeArg env p.2 = .ok (.ok q.2)) ps qs ∧
          s' = (expire (hsetStore s key qs) key {} (formatSec ttl * 1000)).2 ∧
          e = if (s.hashFor key).isNone && !qs.isEmpty then some (.server wrongType) else none) := by
  have hne : (hsetBatch key ps ttl).isEmpty = false := by simp [hsetBatch]
  simp only [redis, serve, hne, Bool.false_eq_true, if_false] at h
  cases henc : encodeAll env (hsetBatch key ps ttl) with
  | error p => simp [henc] at h
  | ok r =>
    rcases encodeAll_hsetBatch env key ttl ps henc with ⟨m, rfl⟩ | ⟨qs, hqs, rfl⟩
    · simp only [henc, ok_bind, pure_eq_ok, Except.ok.injEq, Prod.mk.injEq] at h
      obtain ⟨⟨rfl, rfl⟩, rfl⟩ := h
      exact ⟨rfl, .inl ⟨rfl, rfl⟩⟩
    · have hpre : ∀ c ∈ qs.map (hsetArgv key) ++ [["expire", key, formatInt (formatSec ttl)]],
          precheck c = none := by
        simp only [List.mem_append, List.mem_map, List.mem_singleton]
        rintro c (⟨q, -, rfl⟩ | rfl)
        · exact precheck_hset _ _ _
        · exact precheck_expire _ _
      simp only [henc, ok_bind, if_true, execTx_of_prechecked hpre,
        runAll_hsets_expire s key qs (formatSec_abs_lt ttl), pure_eq_ok, Except.ok.injEq,
        Prod.mk.injEq, finish] at h
      obtain ⟨⟨rfl, rfl⟩, rfl⟩ := h
      have hl : (ps.map fun p => hsetCmd key p.1 p.2).length =
          (runAll s (qs.map (hsetArgv key))).1.length := by
        simp [runAll_length, hqs.length_eq]
      have hexp : ∃ n, (expire (hsetStore s key qs) key {} (formatSec ttl * 1000)).1 = .int n := by
        unfold expire; split <;> [exact ⟨0, rfl⟩; (split <;> [exact ⟨0, rfl⟩; split <;> exact ⟨1, rfl⟩])]
      obtain ⟨n, hn⟩ := hexp
      have hlast : cmdsFirstErr (readAll [expireCmd key ttl] [.int n]) = none := rfl
      refine ⟨by cases hc : cmdsFirstErr _ <;> simp [execResult, hc], .inr ⟨qs, hqs, rfl, ?_⟩⟩
      rw [hsetBatch, hn, readAll_append hl, cmdsFirstErr_append]
      rcases hsetReplies s key qs with ⟨hs, hr⟩ | ⟨hs, ns, hr⟩
      · cases qs with
        | nil => cases hqs; simp [readAll, cmdsFirstErr, CmdType.read, expireCmd]
        | cons q qs =>
          have hc : (ps.map fun p => hsetCmd key p.1 p.2) ≠ [] := by
            cases hqs; simp
          rw [hr, cmdsFirstErr_readAll_err _ _ _ (by simpa [runAll_length, hr] using hl) hc]
          simp [hs]
      · rw [hr, cmdsFirstErr_readAll_int]
        simp [Option.ne_none_iff_isSome.2 hs, hlast]

/-! ### A failed write -/

/-- What a failed batched write may leave: the store as it was, or, when `key` held a
string, the store as `EXPIRE key ttl` leaves it. -/
def failedWriteLeaves (s : Store) (key : String) (ttl : Duration) (s' : Store) : Prop :=
  s' = s ∨ ((∃ v t, s key = some ⟨.str v, t⟩) ∧ s' = (expire s key {} (formatSec ttl * 1000)).2)

theorem failedWriteLeaves_of_exec {env : Env} {s : Store} {key : String} (ps : List (String × Val))
    {ttl : Duration} {e0 : Option Error} {rs : List Cmder} {s' : Store} {e : Error}
    (hx : (redis env).exec s true (hsetBatch key ps ttl) = .ok ((e0, rs), s'))
    (he : execResult e0 rs = some e) : failedWriteLeaves s key ttl s' := by
  obtain ⟨hr, hm | ⟨qs, -, rfl, he0⟩⟩ := redis_exec_hsetBatch env s key ps ttl hx
  · exact .inl hm.2
  · rw [hr] at he
    cases hs : s.hashFor key with
    | some _ => simp [hs, he] at he0
    | none => exact .inr ⟨hashFor_eq_none.1 hs, by rw [hsetStore_of_string hs]⟩

/-- **Error effect.** When `HSet` or `HSetObject` returns an error, no hash field was
written and no other key changed; `key` is as it was, or, when it held a string, as
`EXPIRE key ttl` leaves it. -/
theorem batched_write_error_leaves (env : Env) (s : Store) (key : String) (ttl : Duration) :
    (∀ field value e s', hSet (redis env) s key field value ttl = .ok (some e, s') →
      failedWriteLeaves s key ttl s') ∧
    (∀ data e s', hSetObject (redis env) s key data ttl = .ok (some e, s') →
      failedWriteLeaves s key ttl s') := by
  constructor
  · intro field value e s' h
    rcases hSet_cases h with ⟨-, rfl⟩ | ⟨e0, rs, hx, he⟩
    · exact .inl rfl
    · exact failedWriteLeaves_of_exec _ hx he.symm
  · intro data e s' h
    rcases hSetObject_cases h with ⟨-, rfl⟩ | ⟨fs, e0, rs, -, hx, he⟩
    · exact .inl rfl
    · exact failedWriteLeaves_of_exec _ hx he.symm

theorem batched_write_error_leaves_wrongType :
    ∃ s', hSet (redis Env.bare) (Store.empty.put "k" (some ⟨.str "x", none⟩)) "k" "f" (.str "v")
        ⟨10000000000, rfl⟩ = .ok (some (.server wrongType), s') ∧
      failedWriteLeaves (Store.empty.put "k" (some ⟨.str "x", none⟩)) "k" ⟨10000000000, rfl⟩ s' :=
  ⟨_, rfl, (batched_write_error_leaves Env.bare _ "k" ⟨10000000000, rfl⟩).1 "f" (.str "v")
    (.server wrongType) _ rfl⟩

/-- `HSet` on a key holding a string: `WRONGTYPE`, and the string now expires in ten
seconds. -/
theorem hSet_wrongType_expires :
    ∃ st, hSet (redis Env.bare) (Store.empty.put "k" (some ⟨.str "x", none⟩)) "k" "f" (.str "v")
        ⟨10000000000, rfl⟩ = .ok (some (.server wrongType), st) ∧
      (st "k").bind Entry.ttl = some 10000 :=
  ⟨_, rfl, rfl⟩

/-! ### A successful write -/

/-- A batch of at least one `HSET` whose `Exec` and commands returned no error found a hash
under `key` (or nothing) and left it with the written pairs set in order, under the time
to live `ttl` gives it, or deleted when `ttl` is not positive. -/
theorem exec_hsetBatch_success {env : Env} {s : Store} {key : String} (ps : List (String × Val))
    {ttl : Duration} {e : Option Error} {rs : List Cmder} {s' : Store} (hps : ps ≠ [])
    (hx : (redis env).exec s true (hsetBatch key ps ttl) = .ok ((e, rs), s'))
    (he : execResult e rs = none) :
    ∃ qs hsh t, List.Forall₂ (fun p q => p.1 = q.1 ∧ writeArg env p.2 = .ok (.ok q.2)) ps qs ∧
      s.hashFor key = some (hsh, t) ∧
      s' = if formatSec ttl ≤ 0 then s.put key none
        else s.put key (some ⟨.hash (hsetFields hsh qs).2, some (formatSec ttl * 1000)⟩) := by
  obtain ⟨hr, hm | ⟨qs, hqs, rfl, he0⟩⟩ := redis_exec_hsetBatch env s key ps ttl hx
  · rw [hr] at he; simp [he] at hm
  · rw [hr] at he
    obtain ⟨q, qs, rfl⟩ : ∃ q qs', qs = q :: qs' := by
      cases hqs with
      | nil => exact absurd rfl hps
      | cons => exact ⟨_, _, rfl⟩
    cases hs : s.hashFor key with
    | none => simp [hs, he] at he0
    | some ht =>
      obtain ⟨hsh, t⟩ := ht
      refine ⟨q :: qs, hsh, t, hqs, rfl, ?_⟩
      rw [hsetStore_of_hash hs, expire_of_some (Store.put_self _ _ _)]
      by_cases hp : formatSec ttl ≤ 0
      · simp [hp, show formatSec ttl * 1000 ≤ 0 by omega, put_put]
      · simp [hp, show ¬formatSec ttl * 1000 ≤ 0 by omega, put_put]

/-- **Success.** After `HSet` returns nil, `key` held a hash `hsh` (or nothing, `hsh`
empty) and now holds `hsh` with `field` set to the text `WriteArg` wrote for `value`,
under a time to live of `ttl` in whole seconds; a `ttl` that is not positive deletes it. -/
theorem hSet_success_store (env : Env) (s : Store) (key field : String) (value : Val)
    (ttl : Duration) {s' : Store} (h : hSet (redis env) s key field value ttl = .ok (none, s')) :
    ∃ txt hsh t, writeArg env value = .ok (.ok txt) ∧ s.hashFor key = some (hsh, t) ∧
      s' = if formatSec ttl ≤ 0 then s.put key none
        else s.put key (some ⟨.hash (hsh.insert field txt), some (formatSec ttl * 1000)⟩) := by
  rcases hSet_cases h with ⟨h1, -⟩ | ⟨e, rs, hx, he⟩
  · cases h1
  · obtain ⟨qs, hsh, t, hqs, hs, rfl⟩ :=
      exec_hsetBatch_success [(field, value)] (List.cons_ne_nil _ _) hx he.symm
    obtain ⟨⟨f, txt⟩, ⟨rfl, htxt⟩, rfl⟩ : ∃ q, (field = q.1 ∧ writeArg env value = .ok (.ok q.2)) ∧
        qs = [q] := by
      cases hqs with
      | cons hq hnil => cases hnil; exact ⟨_, hq, rfl⟩
    exact ⟨txt, hsh, t, htxt, hs, by simp [hsetFields]⟩

theorem hSet_success_store_string :
    hSet (redis Env.bare) Store.empty "k" "f" (.str "v") ⟨10000000000, rfl⟩ =
        .ok (none, Store.empty.put "k" (some ⟨.hash ((∅ : Hash).insert "f" "v"), some 10000⟩)) ∧
    ∃ txt hsh t, writeArg Env.bare (.str "v") = .ok (.ok txt) ∧ Store.empty.hashFor "k" = some (hsh, t) ∧
      Store.empty.put "k" (some ⟨.hash ((∅ : Hash).insert "f" "v"), some 10000⟩) =
        if formatSec ⟨10000000000, rfl⟩ ≤ 0 then Store.empty.put "k" none
        else Store.empty.put "k" (some ⟨.hash (hsh.insert "f" txt),
          some (formatSec ⟨10000000000, rfl⟩ * 1000)⟩) := by
  have h : hSet (redis Env.bare) Store.empty "k" "f" (.str "v") ⟨10000000000, rfl⟩ =
      .ok (none, Store.empty.put "k" (some ⟨.hash ((∅ : Hash).insert "f" "v"), some 10000⟩)) := by
    rw [← put_put Store.empty "k" (some ⟨.hash ((∅ : Hash).insert "f" "v"), none⟩)]
    rfl
  exact ⟨h, hSet_success_store Env.bare Store.empty "k" "f" (.str "v") ⟨10000000000, rfl⟩ h⟩

/-- **Success of `HSetObject`.** After `HSetObject` returns nil on a struct with at least
one tagged field, `key` held a hash `hsh` (or nothing) and now holds `hsh` with the tag of
each tagged field set, in declaration order, to the text `WriteArg` wrote for its value,
under a time to live of `ttl` in whole seconds; a `ttl` that is not positive deletes it. -/
theorem hSetObject_success_store (env : Env) (s : Store) (key : String) (t : GoType)
    (xs : List Val) (ttl : Duration) {fs : List (FieldDecl GoType)} (hfs : t.structFields = some fs)
    (hne : taggedPairs fs xs ≠ []) {s' : Store}
    (h : hSetObject (redis env) s key (.iface t (.struct xs)) ttl = .ok (none, s')) :
    ∃ qs hsh t0, List.Forall₂ (fun p q => p.1 = q.1 ∧ writeArg env p.2 = .ok (.ok q.2))
        (taggedPairs fs xs) qs ∧ s.hashFor key = some (hsh, t0) ∧
      s' = if formatSec ttl ≤ 0 then s.put key none
        else s.put key (some ⟨.hash (hsetFields hsh qs).2, some (formatSec ttl * 1000)⟩) := by
  rcases hSetObject_cases h with ⟨h1, -⟩ | ⟨fs', e, rs, hn, hx, he⟩
  · cases h1
  · rw [numFieldOf_iface _ hfs] at hn
    cases hn
    exact exec_hsetBatch_success _ hne hx he.symm

theorem hSetObject_success_store_int :
    ∃ st, hSetObject (redis Env.bare) Store.empty "k"
        (.iface (.struct [.ascii "A" (some "a") .int]) (.struct [.int 5])) ⟨10000000000, rfl⟩ =
        .ok (none, st) ∧
      ∃ qs hsh t0, List.Forall₂ (fun p q => p.1 = q.1 ∧ writeArg Env.bare p.2 = .ok (.ok q.2))
          (taggedPairs [.ascii "A" (some "a") .int] [.int 5]) qs ∧
        Store.empty.hashFor "k" = some (hsh, t0) ∧
        st = if formatSec ⟨10000000000, rfl⟩ ≤ 0 then Store.empty.put "k" none
          else Store.empty.put "k" (some ⟨.hash (hsetFields hsh qs).2,
            some (formatSec ⟨10000000000, rfl⟩ * 1000)⟩) :=
  ⟨_, rfl, hSetObject_success_store Env.bare Store.empty "k" (.struct [.ascii "A" (some "a") .int])
    [.int 5] ⟨10000000000, rfl⟩ rfl (List.cons_ne_nil _ _) rfl⟩

/-- `HSet` on a hash whose time to live is 100 s, with a `ttl` of 10 s: nil, and the
time to live is now 10 s; with a `ttl` of 0: nil, and the key is gone. -/
theorem hSet_replaces_ttl :
    (∃ st, hSet (redis Env.bare)
        (Store.empty.put "k" (some ⟨.hash ((∅ : Hash).insert "g" "a"), some 100000⟩)) "k" "f"
        (.str "v") ⟨10000000000, rfl⟩ = .ok (none, st) ∧ (st "k").bind Entry.ttl = some 10000) ∧
    (∃ st, hSet (redis Env.bare)
        (Store.empty.put "k" (some ⟨.hash ((∅ : Hash).insert "g" "a"), some 100000⟩)) "k" "f"
        (.str "v") ⟨0, rfl⟩ = .ok (none, st) ∧ st "k" = none) :=
  ⟨⟨_, rfl, rfl⟩, ⟨_, rfl, rfl⟩⟩

/-! ### `MassDelete` and `Delete` -/

theorem writeArgs_strs (env : Env) (xs : List String) :
    writeArgs env (xs.map .str) = .ok (.ok xs) := by
  induction xs with
  | nil => rfl
  | cons x xs ih => rw [List.map_cons, writeArgs_cons_ok _ _ (writeArg_str env x), ih]; rfl

theorem delete_redis (env : Env) (s : Store) (k : String) :
    delete (redis env) s k = .ok (none, s.put k none) := rfl

theorem deleteEach_redis (env : Env) (s : Store) (ks : List String) :
    deleteEach (redis env) s ks = .ok (none, fun x => if x ∈ ks then none else s x) := by
  induction ks generalizing s with
  | nil => rfl
  | cons k ks ih =>
    simp only [deleteEach, delete_redis, ok_bind, ih, Except.ok.injEq, Prod.mk.injEq, true_and]
    funext x
    by_cases hx : x = k <;> simp [hx, Store.put]

theorem massDelete_redis (env : Env) (s : Store) {ks : List String} (h : ks ≠ []) :
    massDelete (redis env) s ks = .ok (none, fun x => if x ∈ ks then none else s x) := by
  have hw : writeArgs env (delCmd ks).args = .ok (.ok ("del" :: ks)) := by
    simpa [delCmd] using writeArgs_strs env ("del" :: ks)
  simp only [massDelete, redis, serve, List.isEmpty_cons, Bool.false_eq_true, if_false, encodeAll_cons,
    hw, exceptBind_ok, encodeAll, exceptMap_ok, ok_bind, runAll, execute_del h, pure_eq_ok,
    finish, ← del_store]
  rfl

/-- **`MassDelete` refines `Delete` of each key** on a non-empty list of keys: both return
nil and leave the store without exactly those keys. -/
theorem massDelete_eq_deleteEach (env : Env) (s : Store) {ks : List String} (h : ks ≠ []) :
    massDelete (redis env) s ks = .ok (none, fun x => if x ∈ ks then none else s x) ∧
    deleteEach (redis env) s ks = .ok (none, fun x => if x ∈ ks then none else s x) :=
  ⟨massDelete_redis env s h, deleteEach_redis env s ks⟩

theorem massDelete_eq_deleteEach_one :
    ["k"] ≠ [] ∧
    massDelete (redis Env.bare) Store.empty ["k"] =
      .ok (none, fun x => if x ∈ ["k"] then none else Store.empty x) ∧
    deleteEach (redis Env.bare) Store.empty ["k"] =
      .ok (none, fun x => if x ∈ ["k"] then none else Store.empty x) :=
  ⟨by simp, massDelete_eq_deleteEach Env.bare Store.empty (by simp)⟩

/-- `MassDelete` of no key sends `DEL` alone, which Redis refuses; `Delete` of each of no
key returns nil. -/
theorem massDelete_empty_fails :
    massDelete (redis Env.bare) Store.empty [] = .ok (some (.server (wrongArity "del")), Store.empty) ∧
    deleteEach (redis Env.bare) Store.empty [] = .ok (none, Store.empty) :=
  ⟨rfl, rfl⟩

end Client
end Xredis
