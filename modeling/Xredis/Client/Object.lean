import Xredis.Client.Errors

/-!
# `HSetObject` on every value

What `HSetObject` does with each kind of `data`, over every connection.

* `hSetObject_sends_tagged_batch` — on a struct value it returns from: either it refused
  a tagged field and sent nothing, or it sent exactly one transactional batch, the
  `HSET` of each tagged field in declaration order and then the `EXPIRE`;
* `hSetObject_returns_iff_admitted` — when the `exec` of the one batch it queues
  returns, it returns normally exactly on the `admitted` values; on nil, on a pointer to a struct and on a struct whose loop reaches an
  unexported tagged field of an accepted kind, `reflect` panics
  (`hSetObject_panics_outside_admitted`);
* `hSetObject_checks_agree` — where no tagged field is of interface type, the check on
  the field's static kind refuses iff `HSet`'s check refuses some tagged field's value.
  A field of interface type holding nil passes the first and fails the second
  (`nil_interface_field_accepted`).
-/

namespace Xredis
namespace Client

open Go Rdb Server

variable {σ : Type}

/-- The values on which every reflective call of `HSetObject` is defined: a struct (not
nil, not a pointer to one) whose loop reaches no unexported tagged field of an accepted
kind before it stops. -/
def admitted : Val → Bool
  | .iface t v =>
    match t.structFields with
    | some fs => !loopPanics fs (structVals (.iface t v))
    | none => false
  | _ => false

theorem numFieldOf_iface {t : GoType} {fs : List (FieldDecl GoType)} (v : Val)
    (h : t.structFields = some fs) : numFieldOf (.iface t v) = .ok fs := by
  simp [numFieldOf, h]

/-- A connection's `exec` that returned leaves its log extended by the batch. -/
theorem logged_exec_log {c : Conn σ} {s : σ} {log : List Call} {tx : Bool} {cs : List Cmd}
    {r : Option Error × List Cmder} {st : σ × List Call}
    (h : c.logged.exec (s, log) tx cs = .ok (r, st)) : st.2 = log ++ [.exec tx cs] := by
  simp only [Conn.logged] at h
  cases hx : c.exec s tx cs with
  | error p => simp [hx] at h
  | ok q => simp only [hx, ok_bind, pure_eq_ok, Except.ok.injEq] at h; cases h; rfl

/-- **The batch.** On a struct value it returns from, `HSetObject` either refuses a
tagged field of a refused kind and sends nothing, or sends one transactional batch: the
`HSET`s of `taggedHSets` and the `EXPIRE`. -/
theorem hSetObject_sends_tagged_batch (c : Conn σ) (s : σ) (log : List Call) (key : String)
    (t : GoType) (xs : List Val) (ttl : Duration) {r : Option Error} {st : σ × List Call}
    (hv : (Val.struct xs).HasType t = true)
    (h : hSetObject c.logged (s, log) key (.iface t (.struct xs)) ttl = .ok (r, st)) :
    ∃ fs, t.structFields = some fs ∧
      (anyRefused fs = true → r = some .invalidFieldType ∧ st = (s, log)) ∧
      (anyRefused fs = false →
        st.2 = log ++ [.exec true (taggedHSets key fs xs ++ [expireCmd key ttl])]) := by
  obtain ⟨fs, hfs, hl⟩ := Val.hasType_struct hv
  have hp : loopPanics fs xs = false := by
    cases hp : loopPanics fs xs
    · rfl
    · obtain ⟨p, hq⟩ := (queueFields_error_iff key fs xs).2 hp
      simp [hSetObject, numFieldOf_iface _ hfs, structVals, hq] at h
  simp only [hSetObject, numFieldOf_iface _ hfs, structVals, queueFields_ok key fs xs hl hp,
    ok_bind] at h
  refine ⟨fs, hfs, fun ha => ?_, fun ha => ?_⟩
  · simp only [ha, if_true, pure_eq_ok, Except.ok.injEq, Prod.mk.injEq] at h
    exact ⟨h.1.symm, h.2.symm⟩
  · simp only [ha, Bool.false_eq_true, if_false] at h
    cases hx : c.logged.exec (s, log) true (taggedHSets key fs xs ++ [expireCmd key ttl]) with
    | error p => simp [hx] at h
    | ok q =>
      simp only [hx, ok_bind, pure_eq_ok, Except.ok.injEq, Prod.mk.injEq] at h
      rw [← h.2]
      exact logged_exec_log hx

theorem hSetObject_sends_tagged_batch_closed :
    (Val.struct [.int 1, .string "x"]).HasType
        (.struct [.ascii "A" (some "a") .int, .ascii "B" none .string]) = true ∧
    hSetObject (closed Unit).logged ((), []) "k"
        (.iface (.struct [.ascii "A" (some "a") .int, .ascii "B" none .string]) (.struct [.int 1, .string "x"]))
        ⟨0, rfl⟩ =
      .ok (some errClosed,
        ((), [.exec true [hsetCmd "k" "a" (.iface .int (.int 1)), expireCmd "k" ⟨0, rfl⟩]])) ∧
    ∃ fs, (GoType.struct [.ascii "A" (some "a") .int, .ascii "B" none .string]).structFields = some fs ∧
      (anyRefused fs = true →
        some errClosed = some .invalidFieldType ∧
          ((), [Call.exec true [hsetCmd "k" "a" (.iface .int (.int 1)), expireCmd "k" ⟨0, rfl⟩]]) =
            ((), [])) ∧
      (anyRefused fs = false →
        [Call.exec true [hsetCmd "k" "a" (.iface .int (.int 1)), expireCmd "k" ⟨0, rfl⟩]] =
          [] ++ [.exec true (taggedHSets "k" fs [.int 1, .string "x"] ++ [expireCmd "k" ⟨0, rfl⟩])]) :=
  ⟨rfl, rfl, hSetObject_sends_tagged_batch (closed Unit) () [] "k"
    (.struct [.ascii "A" (some "a") .int, .ascii "B" none .string]) [.int 1, .string "x"] ⟨0, rfl⟩ rfl rfl⟩

/-! ### Totality -/

/-- **Totality.** Over a connection whose `exec` of the one batch `HSetObject` queues
returns, `HSetObject` returns normally exactly on the `admitted` values. -/
theorem hSetObject_returns_iff_admitted (c : Conn σ) (s : σ) (key : String) (data : Val)
    (ttl : Duration)
    (hc : ∀ fs cmds, numFieldOf data = .ok fs → queueFields key fs (structVals data) = .ok (some cmds) →
      ∃ r, c.exec s true (cmds ++ [expireCmd key ttl]) = .ok r) :
    (∃ r, hSetObject c s key data ttl = .ok r) ↔ admitted data = true := by
  cases data with
  | iface t v =>
    cases hfs : t.structFields with
    | none => simp [hSetObject, admitted, numFieldOf, hfs]
    | some fs =>
      simp only [admitted, hfs, Bool.not_eq_true']
      cases hq : queueFields key fs (structVals (.iface t v)) with
      | error p =>
        have hp := (queueFields_error_iff key fs _).1 ⟨p, hq⟩
        simp [hSetObject, numFieldOf_iface _ hfs, hq, hp]
      | ok q =>
        have hp : loopPanics fs (structVals (.iface t v)) = false := by
          rw [← Bool.not_eq_true, ← queueFields_error_iff key]
          simp [hq]
        simp only [hSetObject, numFieldOf_iface _ hfs, hq, hp, ok_bind, iff_true]
        cases q with
        | none => exact ⟨_, rfl⟩
        | some cmds =>
          obtain ⟨r, hr⟩ := hc fs cmds (numFieldOf_iface _ hfs) hq
          simp [hr]
  | _ => simp [hSetObject, admitted, numFieldOf]

theorem hSetObject_returns_iff_admitted_redis :
    (∀ fs cmds, numFieldOf (.iface (.struct [.ascii "A" (some "a") .int]) (.struct [.int 1])) = .ok fs →
      queueFields "k" fs (structVals (.iface (.struct [.ascii "A" (some "a") .int]) (.struct [.int 1]))) =
        .ok (some cmds) →
      ∃ r, (redis Env.bare).exec Store.empty true (cmds ++ [expireCmd "k" ⟨0, rfl⟩]) = .ok r) ∧
    ((∃ r, hSetObject (redis Env.bare) Store.empty "k" (.iface (.struct [.ascii "A" (some "a") .int])
        (.struct [.int 1])) ⟨0, rfl⟩ = .ok r) ↔
      admitted (.iface (.struct [.ascii "A" (some "a") .int]) (.struct [.int 1])) = true) :=
  have hc : ∀ fs cmds,
      numFieldOf (.iface (.struct [.ascii "A" (some "a") .int]) (.struct [.int 1])) = .ok fs →
      queueFields "k" fs (structVals (.iface (.struct [.ascii "A" (some "a") .int]) (.struct [.int 1]))) =
        .ok (some cmds) →
      ∃ r, (redis Env.bare).exec Store.empty true (cmds ++ [expireCmd "k" ⟨0, rfl⟩]) = .ok r := by
    intro fs cmds h1 h2
    cases h1
    cases h2
    exact ⟨_, rfl⟩
  ⟨hc, hSetObject_returns_iff_admitted (redis Env.bare) Store.empty "k"
    (.iface (.struct [.ascii "A" (some "a") .int]) (.struct [.int 1])) ⟨0, rfl⟩ hc⟩

/-- Nil, a pointer to a struct, and a struct with an unexported tagged `int` field: the
three panics of `HSetObject`, here over a closed client, whose `exec` is never reached. -/
theorem hSetObject_panics_outside_admitted :
    hSetObject (closed Unit) () "k" .nil ⟨0, rfl⟩ =
      .error ⟨"runtime error: invalid memory address or nil pointer dereference"⟩ ∧
    hSetObject (closed Unit) () "k" (.iface (.pointer (.named "main.T" (.struct []))) (.ptr (.struct [])))
        ⟨0, rfl⟩ =
      .error ⟨"reflect: NumField of non-struct type *main.T"⟩ ∧
    hSetObject (closed Unit) () "k" (.iface (.struct [.ascii "a" (some "a") .int]) (.struct [.int 1])) ⟨0, rfl⟩ =
      .error ⟨"reflect.Value.Interface: cannot return value obtained from unexported field or method"⟩ :=
  ⟨rfl, rfl, rfl⟩

/-! ### The two kind checks -/

/-- `HSet`'s check on the value `v.Field(i).Interface()` of a field not of interface
type sees the field's static kind. -/
theorem valueCheck_eq_fieldCheck (f : FieldDecl GoType) (x : Val) (h : f.type.kind ≠ .interface) :
    refusedKind (Value.ofAny (toAny f.type x)).kind = refusedKind (fieldValue f x).kind := by
  simp [toAny, h]

/-- `HSet`'s check on the value of every tagged field, along the loop. -/
def anyValueRefused : List (FieldDecl GoType) → List Val → Bool
  | f :: fs, x :: xs =>
    (tagged f).isSome && refusedKind (Value.ofAny (toAny f.type x)).kind || anyValueRefused fs xs
  | _, _ => false

/-- **The checks agree** on structs none of whose tagged fields has interface type:
`HSetObject` refuses iff `HSet` would refuse the value of some tagged field. -/
theorem hSetObject_checks_agree :
    ∀ (fs : List (FieldDecl GoType)) (xs : List Val), fs.length = xs.length →
      (∀ f ∈ fs, (tagged f).isSome → f.type.kind ≠ .interface) →
      anyRefused fs = anyValueRefused fs xs
  | [], [], _, _ => rfl
  | f :: fs, x :: xs, hl, hi => by
    have ih := hSetObject_checks_agree fs xs (by simpa using hl) fun g hg => hi g (by simp [hg])
    cases ht : tagged f with
    | none => simp [anyValueRefused, ht, ih]
    | some tag =>
      have hk := valueCheck_eq_fieldCheck f x (hi f (by simp) (by simp [ht]))
      simp only [kind_fieldValue] at hk
      simp [anyValueRefused, ht, hk, ih]

theorem hSetObject_checks_agree_int :
    [FieldDecl.ascii "A" (some "a") GoType.int].length = [Val.int 1].length ∧
    (∀ f ∈ [FieldDecl.ascii "A" (some "a") GoType.int], (tagged f).isSome → f.type.kind ≠ .interface) ∧
    anyRefused [FieldDecl.ascii "A" (some "a") .int] =
      anyValueRefused [FieldDecl.ascii "A" (some "a") .int] [.int 1] :=
  ⟨rfl, by simp [tagged, GoType.kind],
    hSetObject_checks_agree [FieldDecl.ascii "A" (some "a") .int] [.int 1] rfl
      (by simp [tagged, GoType.kind])⟩

/-- The struct `struct { F any "redis:f" }` holding nil. -/
def nilField : Val := .iface (.struct [.ascii "F" (some "f") .interface]) (.struct [.nil])

/-- `HSetObject` accepts a field of interface type holding nil, and writes it as the
empty string, where `HSet` refuses the same value. -/
theorem nil_interface_field_accepted :
    refusedKind (fieldValue (.ascii "F" (some "f") .interface) .nil).kind = false ∧
    refusedKind (Value.ofAny (toAny .interface .nil)).kind = true ∧
    (∀ (σ : Type) (c : Conn σ) (s : σ) (ttl : Duration),
      hSet c s "k" "f" .nil ttl = .ok (some .invalidFieldType, s)) ∧
    ∀ env : Env,
      (hSetObject (redis env) Store.empty "k" nilField ⟨10000000000, rfl⟩).map Prod.fst = .ok none :=
  ⟨rfl, rfl, fun _ _ _ _ => rfl, fun _ => rfl⟩

end Client
end Xredis
