import Xredis.Go.Strconv
import Mathlib.Data.List.AList

/-!
# The Redis keyspace and what each command does to it

The server side of the client's commands: a store maps keys to strings or hashes, each
with an optional time to live, and each command the client sends is a function from
the store to a reply and a new store. Times to live are kept relative to the instant
the command runs (all commands of one `EXEC` run at one instant), in milliseconds.

* `Store.hashFor` — what a hash command finds under a key: a hash, an empty one for a
  missing key, or nothing for a string (the `WRONGTYPE` case);
* `hset`, `expire`, `del`, `set`, `incrBy`, `hincrBy` — the writes, and `get`, `hgetall`,
  `hget`, `hexists`, `exists` — the reads;
* `string2ll` — Redis's integer parser, and `string2ll_formatInt`: it reads every
  64-bit integer back from what `strconv.FormatInt` wrote.
-/

namespace Xredis
namespace Server

open Go

/-- A hash: field names to values. -/
abbrev Hash := AList (fun _ : String => String)

/-- A stored value. -/
inductive Value
  | str (s : String)
  | hash (h : Hash)

/-- What a key holds: its value, and the milliseconds it has left to live (`none`: the
key does not expire). -/
structure Entry where
  value : Value
  ttl : Option Int

/-- The keyspace of one database. -/
def Store := String → Option Entry

/-- A RESP reply. -/
inductive Reply
  | status (s : String)
  | int (n : Int)
  | bulk (s : String)
  | nil
  | array (items : List Reply)
  | err (msg : String)

namespace Store

/-- The empty keyspace. -/
def empty : Store := fun _ => none

/-- `s` with `k` holding `e` (`none`: `k` removed). -/
def put (s : Store) (k : String) (e : Option Entry) : Store :=
  fun x => if x = k then e else s x

@[simp] theorem put_self (s : Store) (k : String) (e : Option Entry) : s.put k e k = e := by
  simp [put]

@[simp] theorem put_ne (s : Store) {k x : String} (e : Option Entry) (h : x ≠ k) :
    s.put k e x = s x := by
  simp [put, h]

/-- What a hash command finds under `key`: the hash and its time to live, an empty hash
for a missing key, or `none` when the key holds a string. -/
def hashFor (s : Store) (key : String) : Option (Hash × Option Int) :=
  match s key with
  | none => some (∅, none)
  | some ⟨.hash h, ttl⟩ => some (h, ttl)
  | some ⟨.str _, _⟩ => none

end Store

/-- The reply to a command on a key of the wrong type. -/
def wrongType : String := "WRONGTYPE Operation against a key holding the wrong kind of value"

/-- The reply to an argument that is not a 64-bit integer. -/
def notInteger : String := "ERR value is not an integer or out of range"

/-- The reply to an `INCR`-family overflow. -/
def overflow : String := "ERR increment or decrement would overflow"

/-! ### Integers -/

/-- The sign Redis's `string2ll` picks off. -/
def leadingMinus : List Char → Bool × List Char
  | [] => (false, [])
  | c :: cs => if c = '-' then (true, cs) else (false, c :: cs)

/-- Redis `string2ll`: `0`, or an optional `-` and digits with no leading zero, in the
range of a `long long`. -/
def string2ll (s : String) : Option Int :=
  if s.data = ['0'] then some 0
  else
    let (neg, ds) := leadingMinus s.data
    match ds with
    | [] => none
    | d :: _ =>
      if d.isDigit ∧ d ≠ '0' then
        match parseDigits (2 ^ 64 - 1) 0 ds with
        | .ok v =>
          if neg then (if v ≤ 2 ^ 63 then some (-(v : Int)) else none)
          else if v < 2 ^ 63 then some (v : Int) else none
        | .error _ => none
      else none

/-- `string2ll` reads back every 64-bit integer `strconv.FormatInt` writes. -/
theorem string2ll_formatInt {i : Int} (h : fitsSigned 64 i = true) :
    string2ll (formatInt i) = some i := by
  simp only [fitsSigned, Bool.and_eq_true, decide_eq_true_eq] at h
  rcases lt_trichotomy i 0 with hi | rfl | hi
  · obtain ⟨c, cs, hc, hd, h0⟩ := toDigits_cons i.natAbs
    have hp : parseDigits (2 ^ 64 - 1) 0 (c :: cs) = .ok i.natAbs := by
      rw [← hc]; exact parseDigits_toDigits (by omega)
    have hs : (formatInt i).data = '-' :: c :: cs := by simp [formatInt, hi, formatUint_data, hc]
    have hn : i.natAbs ≤ 2 ^ 63 := by omega
    rw [string2ll, if_neg (by simp [hs]), hs]
    simp only [leadingMinus, if_true, hd, h0 (by omega), hp, hn, ne_eq, not_false_eq_true,
      and_self]
    congr 1; omega
  · rfl
  · obtain ⟨c, cs, hc, hd, h0⟩ := toDigits_cons i.toNat
    have hp : parseDigits (2 ^ 64 - 1) 0 (c :: cs) = .ok i.toNat := by
      rw [← hc]; exact parseDigits_toDigits (by omega)
    have hz := h0 (by omega)
    have hm : c ≠ '-' := by rintro rfl; exact absurd hd (by decide)
    have hs : (formatInt i).data = c :: cs := by
      simp [formatInt, Int.not_lt.2 hi.le, formatUint_data, hc]
    have hn : i.toNat < 2 ^ 63 := by omega
    rw [string2ll, if_neg (by simp [hs, hz]), hs]
    simp only [leadingMinus, hm, if_false, hd, hz, hp, hn, ne_eq, not_false_eq_true, and_self,
      Bool.false_eq_true]
    exact congrArg some (Int.toNat_of_nonneg hi.le)

/-! ### Hashes -/

/-- `HSET`'s pairs set one after another; the number that were new fields. -/
def hsetFields (h : Hash) : List (String × String) → Nat × Hash
  | [] => (0, h)
  | (f, v) :: ps =>
    let r := hsetFields (h.insert f v) ps
    ((if f ∈ h then 0 else 1) + r.1, r.2)

/-- `HSET key f v …`: on a hash or a missing key, the fields set and the time to live kept. -/
def hset (s : Store) (key : String) (ps : List (String × String)) : Reply × Store :=
  match s.hashFor key with
  | none => (.err wrongType, s)
  | some (h, ttl) =>
    let r := hsetFields h ps
    (.int r.1, s.put key (some ⟨.hash r.2, ttl⟩))

/-- `HGETALL key`: field, value, field, value, … -/
def hgetall (s : Store) (key : String) : Reply :=
  match s.hashFor key with
  | none => .err wrongType
  | some (h, _) => .array (h.entries.flatMap fun e => [.bulk e.1, .bulk e.2])

/-- `HGET key field`. -/
def hget (s : Store) (key field : String) : Reply :=
  match s.hashFor key with
  | none => .err wrongType
  | some (h, _) => match h.lookup field with
    | some v => .bulk v
    | none => .nil

/-- `HEXISTS key field`. -/
def hexists (s : Store) (key field : String) : Reply :=
  match s.hashFor key with
  | none => .err wrongType
  | some (h, _) => .int (if field ∈ h then 1 else 0)

/-- The sum an `INCRBY`-family command stores, or its error reply. -/
def incrResult (old : Option String) (delta : Int) (notNum : String) : Except String Int :=
  match old with
  | none => if fitsSigned 64 delta then .ok delta else .error overflow
  | some v => match string2ll v with
    | none => .error notNum
    | some n => if fitsSigned 64 (n + delta) then .ok (n + delta) else .error overflow

/-- `HINCRBY key field delta`, the parsed delta given. -/
def hincrBy (s : Store) (key field : String) (delta : Int) : Reply × Store :=
  match s.hashFor key with
  | none => (.err wrongType, s)
  | some (h, ttl) =>
    match incrResult (h.lookup field) delta "ERR hash value is not an integer" with
    | .error e => (.err e, s)
    | .ok n => (.int n, s.put key (some ⟨.hash (h.insert field (formatInt n)), ttl⟩))

/-! ### Keys -/

/-- The options of `EXPIRE`. -/
structure ExpireFlags where
  nx : Bool := false
  xx : Bool := false
  gt : Bool := false
  lt : Bool := false

/-- Whether an option refuses to change a time to live `cur` into `ms`. -/
def ExpireFlags.refuses (fl : ExpireFlags) (cur : Option Int) (ms : Int) : Bool :=
  (fl.nx && cur.isSome) || (fl.xx && cur.isNone)
    || (fl.gt && (match cur with | none => true | some c => decide (ms ≤ c)))
    || (fl.lt && (match cur with | none => false | some c => decide (c ≤ ms)))

/-- `EXPIRE key seconds [NX|XX|GT|LT]`, the time given in milliseconds: on a missing key
it replies 0; a time that has already passed deletes the key; otherwise it replaces the
key's time to live. -/
def expire (s : Store) (key : String) (fl : ExpireFlags) (ms : Int) : Reply × Store :=
  match s key with
  | none => (.int 0, s)
  | some e =>
    if fl.refuses e.ttl ms then (.int 0, s)
    else if ms ≤ 0 then (.int 1, s.put key none)
    else (.int 1, s.put key (some { e with ttl := some ms }))

/-- `DEL key …`: each key removed in turn; the number that existed. -/
def del (s : Store) : List String → Nat × Store
  | [] => (0, s)
  | k :: ks =>
    let r := del (s.put k none) ks
    ((if (s k).isSome then 1 else 0) + r.1, r.2)

/-- `EXISTS key …`: how many of the keys exist, repeats counted. -/
def existsKeys (s : Store) (ks : List String) : Nat :=
  (ks.filter fun k => (s k).isSome).length

/-- `GET key`. -/
def get (s : Store) (key : String) : Reply :=
  match s key with
  | none => .nil
  | some ⟨.str v, _⟩ => .bulk v
  | some ⟨.hash _, _⟩ => .err wrongType

/-- The time to live `SET` gives a key. -/
inductive SetExpiry
  | persist
  | keepTTL
  | ms (t : Int)

/-- `SET key value [EX s | PX ms | KEEPTTL]`: any old value replaced. -/
def set (s : Store) (key v : String) (ex : SetExpiry) : Store :=
  let ttl := match ex with
    | .persist => none
    | .keepTTL => (s key).bind Entry.ttl
    | .ms t => some t
  s.put key (some ⟨.str v, ttl⟩)

/-- `INCRBY key delta` (`INCR`, `DECR`). -/
def incrBy (s : Store) (key : String) (delta : Int) : Reply × Store :=
  match s key with
  | some ⟨.hash _, _⟩ => (.err wrongType, s)
  | old =>
    let ttl := old.bind Entry.ttl
    let v := match old with
      | some ⟨.str v, _⟩ => some v
      | _ => none
    match incrResult v delta notInteger with
    | .error e => (.err e, s)
    | .ok n => (.int n, s.put key (some ⟨.str (formatInt n), ttl⟩))

end Server
end Xredis
