import Xredis.Client.Read
import Xredis.Rdb.Scan

/-!
# `Get`, `HGet`, `Set`, `SetStruct` and the typed getters

`Get` and `HGet` send `GET` or `HGET` and scan the reply into `dst` with
`StringCmd.Scan`: the command's own error, or `proto.Scan` of the text read. The error
`redis.Nil`, of a missing key or field, becomes `ErrKeyNotFound`. The typed getters
`Bool`, `Bytes`, `Float64`, `Int`, `Int64`, `Uint64` and `String` send `GET` and convert
the text with the `StringCmd` method of their type; `redis.Nil` there is no error and not
`ok`. `Set` sends `SET` with the expiry arguments of its duration, and `SetStruct` sends
`SET` of the bytes its marshaller returns.

* `set_get_roundTrip` — **the round trip**: after `Set` of a value of a predeclared type
  `WriteArg` writes, `Get` into a pointer to that type reads the same value back, and
  `String` the text `Set` wrote;
* `set_typed_roundTrip` — each typed getter reads back what `Set` of its type wrote;
* `hSet_hGet_roundTrip` — the round trip of `HSet` and `HGet`.
-/

namespace Xredis
namespace Client

open Go Rdb Server

variable {σ : Type}

/-! ### The model -/

/-- `errors.Is(err, rdb.Nil)`: `rdb.Nil` is the `proto.RedisError` `"redis: nil"`, so an
error reply of the server with that text is it too. -/
def isNil : Error → Bool
  | .nil => true
  | .server m => m == "redis: nil"
  | _ => false

/-- The text a `StringCmd` read: `GET` and `HGET` reply with a bulk string, a nil or an
error, and the text is empty after the last two. -/
def strVal (r : Cmder) : String :=
  match r.val with
  | some (.bulk v) => v
  | _ => ""

/-- `StringCmd.Scan(dst)`, then the check of `Get` and `HGet`: `ErrKeyNotFound` in place
of `redis.Nil`. -/
def scanReply (env : Env) (r : Cmder) (dst : Val) : Except Panic (Option Error × Val) :=
  match r.err with
  | some e => .ok (some (if isNil e then .keyNotFound else e), dst)
  | none => (protoScan env (strVal r) dst).map fun p => (p.1.map .other, p.2)

/-- `Get` and `HGet`: one command, its reply scanned into `dst`. -/
def getInto (env : Env) (c : Conn σ) (s : σ) (cmd : Cmd) (dst : Val) :
    Except Panic ((Option Error × Val) × σ) := do
  let (r, s') ← c.process s cmd
  let res ← scanReply env r dst
  pure (res, s')

/-- `(*Client).Get`. -/
def get (env : Env) (c : Conn σ) (s : σ) (key : String) (dst : Val) :
    Except Panic ((Option Error × Val) × σ) :=
  getInto env c s (getCmd key) dst

/-- `(*Client).HGet`. -/
def hGet (env : Env) (c : Conn σ) (s : σ) (key field : String) (dst : Val) :
    Except Panic ((Option Error × Val) × σ) :=
  getInto env c s (hgetCmd key field) dst

/-- The typed getters: `GET`, then the `StringCmd` method `conv` on the text read (the
value is `zero` beside the command's own error), returned as `(val, ok, err)` with
`redis.Nil` as no error. -/
def getAs {α : Type} (zero : α) (conv : String → α × Option Error) (c : Conn σ) (s : σ)
    (key : String) : Except Panic ((α × Bool × Option Error) × σ) := do
  let (r, s') ← c.process s (getCmd key)
  let (val, err) := match r.err with
    | some e => (zero, some e)
    | none => conv (strVal r)
  pure (match err with
    | some e => if isNil e then (val, false, none) else (val, false, some e)
    | none => (val, true, none), s')

/-- A `strconv` result as the getters return it. -/
def convNum {α : Type} (fn s : String) (r : α × Option NumError) : α × Option Error :=
  (r.1, r.2.map fun e => .other (numErrorText fn s e))

/-- `(*Client).Bool`: `strconv.ParseBool`. -/
def bool (c : Conn σ) (s : σ) (key : String) : Except Panic ((Bool × Bool × Option Error) × σ) :=
  getAs false (fun t => match parseBool t with
    | .ok b => (b, none)
    | .error e => (false, some (.other (numErrorText "ParseBool" t e)))) c s key

/-- `(*Client).Bytes`: the bytes of the text, as the text they spell. -/
def bytes (c : Conn σ) (s : σ) (key : String) : Except Panic ((String × Bool × Option Error) × σ) :=
  getAs "" (fun t => (t, none)) c s key

/-- `(*Client).Float64`: `strconv.ParseFloat(…, 64)`. -/
def float64 (env : Env) (c : Conn σ) (s : σ) (key : String) :
    Except Panic ((Nat × Bool × Option Error) × σ) :=
  getAs 0 (fun t => convNum "ParseFloat" t (floatResult t (env.parseFloat 64 t))) c s key

/-- `(*Client).Int`: `strconv.Atoi`. -/
def int (c : Conn σ) (s : σ) (key : String) : Except Panic ((Int × Bool × Option Error) × σ) :=
  getAs 0 (fun t => convNum "Atoi" t (parseIntResult 64 t)) c s key

/-- `(*Client).Int64`: `strconv.ParseInt(…, 10, 64)`. -/
def int64 (c : Conn σ) (s : σ) (key : String) : Except Panic ((Int × Bool × Option Error) × σ) :=
  getAs 0 (fun t => convNum "ParseInt" t (parseIntResult 64 t)) c s key

/-- `(*Client).Uint64`: `strconv.ParseUint(…, 10, 64)`. -/
def uint64 (c : Conn σ) (s : σ) (key : String) : Except Panic ((Nat × Bool × Option Error) × σ) :=
  getAs 0 (fun t => convNum "ParseUint" t (parseUintResult 64 t)) c s key

/-- `(*Client).String`: `Result()`, the text as it was read. -/
def string (c : Conn σ) (s : σ) (key : String) : Except Panic ((String × Bool × Option Error) × σ) :=
  getAs "" (fun t => (t, none)) c s key

/-- `(*Client).SetStruct`: the marshaller's error, or `Set` of the bytes it returned. -/
def setStruct (marshal : Val → Except String String) (c : Conn σ) (s : σ) (key : String)
    (val : Val) (expiration : Duration) : Except Panic (Option Error × σ) :=
  match marshal val with
  | .error e => .ok (some (.other e), s)
  | .ok b => Client.set c s key (.iface (.slice .uint8) (bytesOf b)) expiration

/-! ### One command on a Redis server -/

/-- A command of texts only is written as they are and run by the server. -/
theorem process_redis_strs (env : Env) (s : Store) (t : CmdType) (argv : List String) :
    (redis env).process s ⟨t, argv.map .str⟩ = .ok (t.read (execute s argv).1, (execute s argv).2) := by
  simp only [redis, serve, writeArgs_strs, ok_bind]
  rfl

theorem process_redis_get (env : Env) (s : Store) (key : String) :
    (redis env).process s (getCmd key) = .ok (CmdType.string.read (Server.get s key), s) :=
  process_redis_strs env s .string ["get", key]

theorem process_redis_hget (env : Env) (s : Store) (key field : String) :
    (redis env).process s (hgetCmd key field) = .ok (CmdType.string.read (hget s key field), s) :=
  process_redis_strs env s .string ["hget", key, field]

/-- `formatMs` of a positive duration: positive, and an `int64`. -/
theorem formatMs_pos_fits {d : Duration} (h : 0 < d.ns) :
    0 < formatMs d ∧ fitsSigned 64 (formatMs d) = true := by
  have hf := d.fits
  simp only [fitsSigned, Bool.and_eq_true, decide_eq_true_eq] at hf ⊢
  norm_num at hf ⊢
  unfold formatMs
  split
  · norm_num
  · rw [Int.tdiv_eq_ediv h.le (by decide)]
    omega

/-- The expiry arguments of `Set` are written, and `SET` accepts what they say. -/
theorem setExpiry_accepted (env : Env) (d : Duration) :
    ∃ texts ex, writeArgs env (setExpiryArgs d) = .ok (.ok texts) ∧ parseSetExpiry texts = .ok ex := by
  unfold setExpiryArgs
  split_ifs with hp hu hk
  · obtain ⟨hpos, hfit⟩ := formatMs_pos_fits hp
    refine ⟨["px", formatInt (formatMs d)], .ms (formatMs d * 1), rfl, ?_⟩
    simp [parseSetExpiry, string2ll_formatInt hfit, show lower "px" = "px" from rfl, hpos.not_le]
  · have hpos := formatSec_pos hp
    have hlt := abs_lt.mp (formatSec_abs_lt d)
    have hfit : fitsSigned 64 (formatSec d) = true := by
      simp only [fitsSigned, Bool.and_eq_true, decide_eq_true_eq]
      norm_num
      omega
    refine ⟨["ex", formatInt (formatSec d)], .ms (formatSec d * 1000), rfl, ?_⟩
    simp [parseSetExpiry, string2ll_formatInt hfit, show lower "ex" = "ex" from rfl, hpos.not_le,
      show llongMax.tdiv 1000 = 9223372036854775 from rfl]
    omega
  · exact ⟨["keepttl"], _, rfl, rfl⟩
  · exact ⟨[], _, rfl, rfl⟩

/-- `SET` of a written value on a Redis server replies `OK` and stores its text. -/
theorem process_redis_set (env : Env) (s : Store) (key : String) {v : Val} {txt : String}
    (hw : writeArg env v = .ok (.ok txt)) (d : Duration) :
    ∃ ex, (redis env).process s (setCmd key v d) = .ok (⟨none, some (.status "OK")⟩, Server.set s key txt ex) := by
  obtain ⟨texts, ex, hwa, hp⟩ := setExpiry_accepted env d
  have hargs : writeArgs env ([.str "set", .str key, v] ++ setExpiryArgs d) =
      .ok (.ok ("set" :: key :: txt :: texts)) := by
    simp only [List.cons_append, List.nil_append, writeArgs_cons_ok _ _ (writeArg_str _ _),
      writeArgs_cons_ok _ _ hw, hwa]
    rfl
  have hpre : precheck ("set" :: key :: txt :: texts) = none := by
    simp only [precheck, show lower "set" = "set" from rfl, show arity "set" = some (-3) from rfl,
      List.length_cons]
    rw [if_neg (by omega)]
  have hrun : run s ("set" :: key :: txt :: texts) = (.status "OK", Server.set s key txt ex) :=
    setCommand_apply hp s
  refine ⟨ex, ?_⟩
  simp only [redis, serve, setCmd, hargs, ok_bind, execute, hpre, hrun]
  rfl

/-- The types `WriteArg` writes by their text are predeclared scalar types. -/
theorem scalarType_of_written {t : GoType} (h : written t = true) : scalarType t = true := by
  cases t <;> first | rfl | cases h

/-! ### Reading a key -/

/-- `Set` of a value `WriteArg` writes as `txt` returns nil; the key then holds `txt`, and
a typed getter whose conversion accepts `txt` returns what it made of it, `ok`. -/
theorem set_getAs (env : Env) (s : Store) (key : String) {v : Val} {txt : String}
    (hw : writeArg env v = .ok (.ok txt)) (d : Duration) :
    ∃ s', Client.set (redis env) s key v d = .ok (none, s') ∧ Server.get s' key = .bulk txt ∧
      ∀ {α : Type} (zero : α) (conv : String → α × Option Error) (a : α), conv txt = (a, none) →
        getAs zero conv (redis env) s' key = .ok ((a, true, none), s') := by
  obtain ⟨ex, hset⟩ := process_redis_set env s key hw d
  have hg : Server.get (Server.set s key txt ex) key = .bulk txt := by
    simp [Server.get, Server.set, Store.put]
  refine ⟨Server.set s key txt ex, by simp [Client.set, cmdErr, hset], hg, fun zero conv a hc => ?_⟩
  simp [getAs, process_redis_get, hg, CmdType.read, strVal, hc]

/-- **The round trip.** `Set` of a value of a predeclared type `WriteArg` writes returns
nil, whatever the duration. After it `Get` into a pointer to that type reads the same
value back, whatever the pointer pointed to, when it is not a NaN; and `String` reads the
text `Set` wrote, `ok`. -/
theorem set_get_roundTrip (env : Env) (hf : env.FloatRoundTrip) (s : Store) (key : String)
    {t : GoType} {x : Val} (d : Duration) (cur : Val) (hw : written t = true)
    (hx : x.HasType t = true) (hn : notNaN t x = true) :
    ∃ s', Client.set (redis env) s key (.iface t x) d = .ok (none, s') ∧
      get env (redis env) s' key (.iface (.pointer t) (.ptr cur)) =
        .ok ((none, .iface (.pointer t) (.ptr x)), s') ∧
      string (redis env) s' key = .ok ((scalarText env t x, true, none), s') := by
  have hwa := writeArg_written env x hw
  obtain ⟨s', hset, hg, hget⟩ := set_getAs env s key hwa d
  refine ⟨s', hset, ?_, hget "" _ _ rfl⟩
  simp [get, getInto, process_redis_get, hg, CmdType.read, scanReply, strVal,
    protoScan_written env hf cur (scalarType_of_written hw) hx hn hwa]

theorem set_get_roundTrip_int64 :
    Env.bits.FloatRoundTrip ∧ written .int64 = true ∧ (Val.int (-5)).HasType .int64 = true ∧
      notNaN .int64 (.int (-5)) = true ∧
    ∃ s', Client.set (redis Env.bits) Store.empty "k" (.iface .int64 (.int (-5))) ⟨1500000000, rfl⟩ =
        .ok (none, s') ∧
      get Env.bits (redis Env.bits) s' "k" (.iface (.pointer .int64) (.ptr (.int 0))) =
        .ok ((none, .iface (.pointer .int64) (.ptr (.int (-5)))), s') ∧
      string (redis Env.bits) s' "k" = .ok ((scalarText Env.bits .int64 (.int (-5)), true, none), s') :=
  ⟨Env.bits_floatRoundTrip, rfl, rfl, rfl,
    set_get_roundTrip Env.bits Env.bits_floatRoundTrip Store.empty "k" ⟨1500000000, rfl⟩ (.int 0)
      rfl rfl rfl⟩

/-- **`HSet` and `HGet`.** After `HSet` of a value of a predeclared type `WriteArg` writes
returns nil with a positive `ttl`, `HGet` of the field into a pointer to that type reads
the same value back, when it is not a NaN. -/
theorem hSet_hGet_roundTrip (env : Env) (hf : env.FloatRoundTrip) (s : Store) (key field : String)
    {t : GoType} {x : Val} (ttl : Duration) (cur : Val) (hw : written t = true)
    (hx : x.HasType t = true) (hn : notNaN t x = true) (httl : 0 < ttl.ns) {s' : Store}
    (h : hSet (redis env) s key field (.iface t x) ttl = .ok (none, s')) :
    hGet env (redis env) s' key field (.iface (.pointer t) (.ptr cur)) =
      .ok ((none, .iface (.pointer t) (.ptr x)), s') := by
  rcases hSet_cases h with ⟨h1, -⟩ | ⟨e, rs, hb, he⟩
  · cases h1
  obtain ⟨qs, hsh, t0, hqs, -, rfl⟩ :=
    exec_hsetBatch_success [(field, .iface t x)] (List.cons_ne_nil _ _) hb he.symm
  obtain ⟨txt, hwa, rfl⟩ : ∃ txt, writeArg env (.iface t x) = .ok (.ok txt) ∧ qs = [(field, txt)] := by
    cases hqs with
    | cons hq hnil =>
      cases hnil
      obtain ⟨rfl, hq⟩ := hq
      exact ⟨_, hq, rfl⟩
  rw [if_neg (by have := formatSec_pos httl; omega)]
  simp [hGet, getInto, process_redis_hget, hget, hashFor_put_hash, hsetFields, CmdType.read,
    scanReply, strVal, protoScan_written env hf cur (scalarType_of_written hw) hx hn hwa]

theorem hSet_hGet_roundTrip_string :
    Env.bits.FloatRoundTrip ∧ written .string = true ∧ (Val.string "v").HasType .string = true ∧
      notNaN .string (.string "v") = true ∧ (0 : Int) < 10000000000 ∧
    ∃ st, hSet (redis Env.bits) Store.empty "k" "f" (.str "v") ⟨10000000000, rfl⟩ = .ok (none, st) ∧
      hGet Env.bits (redis Env.bits) st "k" "f" (.iface (.pointer .string) (.ptr (.string ""))) =
        .ok ((none, .iface (.pointer .string) (.ptr (.string "v"))), st) :=
  ⟨Env.bits_floatRoundTrip, rfl, rfl, rfl, by decide, _, rfl,
    hSet_hGet_roundTrip Env.bits Env.bits_floatRoundTrip Store.empty "k" "f" ⟨10000000000, rfl⟩
      (.string "") (by rfl) (by rfl) (by rfl) (by decide) rfl⟩

/-- **The typed getters.** After `Set` of an `int64`, `Int64` and `Int` read it back; of a
`uint64`, `Uint64`; of a `bool`, `Bool`; of a `float64` that is not a NaN, `Float64`; each
`ok` and without error. -/
theorem set_typed_roundTrip (env : Env) (hf : env.FloatRoundTrip) (s : Store) (key : String)
    (d : Duration) :
    (∀ i, fitsSigned 64 i = true → ∃ s', Client.set (redis env) s key (i64 i) d = .ok (none, s') ∧
      int64 (redis env) s' key = .ok ((i, true, none), s') ∧
      int (redis env) s' key = .ok ((i, true, none), s')) ∧
    (∀ n, n < 2 ^ 64 → ∃ s', Client.set (redis env) s key (.iface .uint64 (.uint n)) d = .ok (none, s') ∧
      uint64 (redis env) s' key = .ok ((n, true, none), s')) ∧
    (∀ b, ∃ s', Client.set (redis env) s key (.iface .bool (.bool b)) d = .ok (none, s') ∧
      bool (redis env) s' key = .ok ((b, true, none), s')) ∧
    (∀ x, x < 2 ^ 64 → isNaN64 x = false →
      ∃ s', Client.set (redis env) s key (.iface .float64 (.float x)) d = .ok (none, s') ∧
        float64 env (redis env) s' key = .ok ((x, true, none), s')) := by
  refine ⟨fun i hi => ?_, fun n hn => ?_, fun b => ?_, fun x hx hn => ?_⟩
  · obtain ⟨s', hset, -, hget⟩ := set_getAs env s key (writeArg_written env (.int i) (show written .int64 = true from rfl)) d
    have hp : parseIntResult 64 (formatInt i) = (i, none) := parseIntResult_formatInt (by decide) hi
    exact ⟨s', hset, hget 0 _ i (by simp [scalarText, convNum, hp]),
      hget 0 _ i (by simp [scalarText, convNum, hp])⟩
  · obtain ⟨s', hset, -, hget⟩ := set_getAs env s key (writeArg_written env (.uint n) (show written .uint64 = true from rfl)) d
    exact ⟨s', hset, hget 0 _ n (by simp [scalarText, convNum, parseUintResult_formatUint hn])⟩
  · obtain ⟨s', hset, -, hget⟩ := set_getAs env s key (writeArg_written env (.bool b) (show written .bool = true from rfl)) d
    exact ⟨s', hset, hget false _ b (by cases b <;> rfl)⟩
  · obtain ⟨s', hset, -, hget⟩ := set_getAs env s key (writeArg_written env (.float x) (show written .float64 = true from rfl)) d
    exact ⟨s', hset, hget 0 _ x (by simp [scalarText, GoType.kind, convNum, floatResult,
      hf.float64 x hx hn])⟩

theorem set_typed_roundTrip_bits :
    Env.bits.FloatRoundTrip ∧
    (∀ i, fitsSigned 64 i = true → ∃ s', Client.set (redis Env.bits) Store.empty "k" (i64 i) ⟨0, rfl⟩ =
        .ok (none, s') ∧
      int64 (redis Env.bits) s' "k" = .ok ((i, true, none), s') ∧
      int (redis Env.bits) s' "k" = .ok ((i, true, none), s')) ∧
    (∀ n, n < 2 ^ 64 → ∃ s', Client.set (redis Env.bits) Store.empty "k" (.iface .uint64 (.uint n))
        ⟨0, rfl⟩ = .ok (none, s') ∧
      uint64 (redis Env.bits) s' "k" = .ok ((n, true, none), s')) ∧
    (∀ b, ∃ s', Client.set (redis Env.bits) Store.empty "k" (.iface .bool (.bool b)) ⟨0, rfl⟩ =
        .ok (none, s') ∧
      bool (redis Env.bits) s' "k" = .ok ((b, true, none), s')) ∧
    (∀ x, x < 2 ^ 64 → isNaN64 x = false →
      ∃ s', Client.set (redis Env.bits) Store.empty "k" (.iface .float64 (.float x)) ⟨0, rfl⟩ =
          .ok (none, s') ∧
        float64 Env.bits (redis Env.bits) s' "k" = .ok ((x, true, none), s')) :=
  ⟨Env.bits_floatRoundTrip,
    set_typed_roundTrip Env.bits Env.bits_floatRoundTrip Store.empty "k" ⟨0, rfl⟩⟩

end Client
end Xredis
