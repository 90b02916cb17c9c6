import Xredis.Rdb.Conn

/-!
# `HSet` and `HSetObject`

The two batched hash writes of `client.go`. Both check a kind against the same list of
refused kinds, queue their `HSET`s and one `EXPIRE` in a `TxPipeline`, run it, and return
`Exec`'s error or else the first command error. They differ in what they check: `HSet`
the kind of its argument's dynamic value, `HSetObject` the static kind of each struct
field (`v.Field(i).Kind()`), before taking the field's value with `Interface()`.

* `hSet`, `hSetObject` — the functions, over any connection;
* `queueFields` — `HSetObject`'s field loop: the commands queued, `ErrInvalidFieldType`,
  or the panic of `Interface()` on an unexported field;
* `queueFields_error_iff` — the loop panics iff it reaches an unexported tagged field of
  an accepted kind before any refused one (`loopPanics`);
* `queueFields_ok` — **the loop invariant**: when the loop returns, it refused a field iff
  some tagged field has a refused kind, and otherwise queued exactly `taggedHSets`.
-/

namespace Xredis
namespace Client

open Go Rdb

variable {σ : Type}

/-- The kinds both switches refuse. -/
def refusedKind : Kind → Bool
  | .invalid | .pointer | .array | .map | .struct | .slice | .func | .chan | .unsafePointer => true
  | _ => false

/-- What `HSet` and `HSetObject` return after `pipe.Exec`: its error, or else the first
command error of `for _, cmd := range cmder` (`cmdsFirstErr`). -/
def execResult (e : Option Error) (cmds : List Cmder) : Option Error :=
  match e with
  | some e => some e
  | none => cmdsFirstErr cmds

/-- `(*Client).HSet`. -/
def hSet (c : Conn σ) (s : σ) (key field : String) (value : Val) (ttl : Duration) :
    Except Panic (Option Error × σ) :=
  if refusedKind (Value.ofAny value).kind then .ok (some .invalidFieldType, s)
  else do
    let ((e, cmds), s') ← c.exec s true [hsetCmd key field value, expireCmd key ttl]
    pure (execResult e cmds, s')

/-- The tag `HSetObject` writes a field under: a `redis` tag other than `-`. -/
def tagged (f : FieldDecl GoType) : Option String :=
  match f.tag with
  | some t => if t = "-" then none else some t
  | none => none

/-- The field loop of `HSetObject`: for each field whose tag `tagged` keeps, the kind
check on `v.Field(i)`, then `pipe.HSet(ctx, key, tagValue, v.Field(i).Interface())`.
`none` is the early `return ErrInvalidFieldType`. -/
def queueFields (key : String) : List (FieldDecl GoType) → List Val → Except Panic (Option (List Cmd))
  | f :: fs, x :: xs =>
    match tagged f with
    | none => queueFields key fs xs
    | some tag =>
      if refusedKind (fieldValue f x).kind then .ok none
      else do
        let arg ← (fieldValue f x).interface
        let rest ← queueFields key fs xs
        pure (rest.map (hsetCmd key tag arg :: ·))
  | _, _ => .ok (some [])

/-- The fields of a struct value, as `v.Field(i)` reads them. -/
def structVals : Val → List Val
  | .iface _ (.struct xs) => xs
  | _ => []

/-- `(*Client).HSetObject`. -/
def hSetObject (c : Conn σ) (s : σ) (key : String) (data : Val) (ttl : Duration) :
    Except Panic (Option Error × σ) := do
  let fs ← numFieldOf data
  match ← queueFields key fs (structVals data) with
  | none => pure (some .invalidFieldType, s)
  | some cmds =>
    let ((e, rs), s') ← c.exec s true (cmds ++ [expireCmd key ttl])
    pure (execResult e rs, s')

/-! ### The batch the loop builds -/

/-- The fields with a `redis` tag other than `-`, as tag and value, in declaration order. -/
def taggedPairs : List (FieldDecl GoType) → List Val → List (String × Val)
  | f :: fs, x :: xs =>
    match tagged f with
    | some tag => (tag, toAny f.type x) :: taggedPairs fs xs
    | none => taggedPairs fs xs
  | _, _ => []

/-- The `HSET`s of the fields with a `redis` tag other than `-`, in declaration order. -/
def taggedHSets (key : String) (fs : List (FieldDecl GoType)) (xs : List Val) : List Cmd :=
  (taggedPairs fs xs).map fun p => hsetCmd key p.1 p.2

/-- Some field with a `redis` tag other than `-` has a refused kind. -/
def anyRefused (fs : List (FieldDecl GoType)) : Bool :=
  fs.any fun f => (tagged f).isSome && refusedKind f.type.kind

/-- The loop reaches an unexported tagged field of an accepted kind before any tagged
field of a refused kind: `Interface()` panics there. -/
def loopPanics : List (FieldDecl GoType) → List Val → Bool
  | f :: fs, _ :: xs =>
    match tagged f with
    | some _ => !refusedKind f.type.kind && (!f.exported || loopPanics fs xs)
    | none => loopPanics fs xs
  | _, _ => false

@[simp] theorem anyRefused_nil : anyRefused [] = false := rfl

@[simp] theorem anyRefused_cons (f : FieldDecl GoType) (fs : List (FieldDecl GoType)) :
    anyRefused (f :: fs) = ((tagged f).isSome && refusedKind f.type.kind || anyRefused fs) := rfl

@[simp] theorem kind_fieldValue (f : FieldDecl GoType) (x : Val) :
    (fieldValue f x).kind = f.type.kind := rfl

theorem interface_fieldValue (f : FieldDecl GoType) (x : Val) :
    (fieldValue f x).interface =
      if f.exported then .ok (toAny f.type x)
      else .error ⟨"reflect.Value.Interface: cannot return value obtained from unexported field or method"⟩ := by
  cases h : f.exported <;> simp [fieldValue, Value.interface, h]

/-- The loop panics exactly when `loopPanics` says so, on fields and values of any
lengths. -/
theorem queueFields_error_iff (key : String) :
    ∀ (fs : List (FieldDecl GoType)) (xs : List Val),
      (∃ p, queueFields key fs xs = .error p) ↔ loopPanics fs xs = true
  | [], _ | _ :: _, [] => by simp [queueFields, loopPanics]
  | f :: fs, x :: xs => by
    have ih := queueFields_error_iff key fs xs
    cases ht : tagged f with
    | none => simpa [queueFields, loopPanics, ht] using ih
    | some tag =>
      cases hr : refusedKind f.type.kind
      · cases he : f.exported
        · simp [queueFields, loopPanics, ht, hr, he, interface_fieldValue]
        · cases hq : queueFields key fs xs <;>
            simp_all [queueFields, loopPanics, interface_fieldValue]
      · simp [queueFields, loopPanics, ht, hr]

/-- **The loop invariant.** On fields and values of equal length, a loop that does not
panic refuses iff some tagged field has a refused kind, and otherwise queues exactly
`taggedHSets`. -/
theorem queueFields_ok (key : String) :
    ∀ (fs : List (FieldDecl GoType)) (xs : List Val), fs.length = xs.length →
      loopPanics fs xs = false →
      queueFields key fs xs = .ok (if anyRefused fs then none else some (taggedHSets key fs xs))
  | [], [], _, _ => by simp [queueFields, taggedHSets, taggedPairs]
  | f :: fs, x :: xs, hl, hp => by
    have ih := queueFields_ok key fs xs (by simpa using hl)
    cases ht : tagged f with
    | none => simp_all [queueFields, loopPanics, taggedHSets, taggedPairs]
    | some tag =>
      cases hr : refusedKind f.type.kind
      · have he : f.exported = true := by simp_all [loopPanics]
        simp only [loopPanics, ht, hr, he, Bool.not_false, Bool.not_true, Bool.false_or,
          Bool.true_and] at hp
        simp only [queueFields, ht, hr, he, interface_fieldValue, kind_fieldValue, ih hp,
          if_true, ok_bind, pure_eq_ok]
        cases ha : anyRefused fs <;> simp [taggedHSets, taggedPairs, ht, hr, ha]
      · simp [queueFields, ht, hr]

/-- Whatever the lengths, the commands the loop queues are those of `taggedHSets`. -/
theorem queueFields_some (key : String) :
    ∀ (fs : List (FieldDecl GoType)) (xs : List Val) {cmds : List Cmd},
      queueFields key fs xs = .ok (some cmds) → cmds = taggedHSets key fs xs
  | [], _, _, h | _ :: _, [], _, h => by simpa [queueFields, taggedHSets, taggedPairs] using h.symm
  | f :: fs, x :: xs, cmds, h => by
    cases ht : tagged f with
    | none =>
      simp only [queueFields, ht] at h
      simpa [taggedHSets, taggedPairs, ht] using queueFields_some key fs xs h
    | some tag =>
      cases hr : refusedKind f.type.kind
      · cases he : f.exported
        · simp [queueFields, ht, hr, he, interface_fieldValue] at h
        · cases hq : queueFields key fs xs with
          | error p => simp [queueFields, ht, hr, he, interface_fieldValue, hq] at h
          | ok q =>
            cases q with
            | none => simp [queueFields, ht, hr, he, interface_fieldValue, hq] at h
            | some rest =>
              simp only [queueFields, ht, hr, he, interface_fieldValue, kind_fieldValue, hq,
                if_true, Bool.false_eq_true, if_false, ok_bind, pure_eq_ok, Except.ok.injEq,
                Option.map_some', Option.some.injEq] at h
              have := queueFields_some key fs xs hq
              simp [← h, this, taggedHSets, taggedPairs, ht]
      · simp [queueFields, ht, hr] at h

end Client
end Xredis
