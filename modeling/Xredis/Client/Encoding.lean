import Xredis.Client.Object

/-!
# The kind check against the argument writer

`HSet` checks the kind of its value before queueing it; go-redis's `WriteArg` later
writes it by a switch on its exact type. The check refuses no kind `WriteArg` would
panic on, but it accepts kinds `WriteArg` has no case for: complex numbers, `uintptr`,
and named types without a `MarshalBinary` that are not among the `time` and `net` types
the switch names.

* `writeArg_of_accepted` — on every value of type `any` the check accepts, `WriteArg`
  does not panic, and refuses the value exactly when `refusedByWriter` says so;
* `complex_accepted_not_encoded` — a `complex128` passes the check and is refused.
-/

namespace Xredis
namespace Client

open Go Rdb

/-- The values of type `any` the kind check accepts and `WriteArg` refuses: complex
numbers and `uintptr`, and values of a named type other than `time.Time` and
`time.Duration` whose `MarshalBinary` fails, or which has none and is not `net.IP`. -/
def refusedByWriter (env : Env) : Val → Bool
  | .iface t x =>
    match t with
    | .complex64 | .complex128 | .uintptr => true
    | .named n _ =>
      !(n == "time.Time" || n == "time.Duration") &&
        match env.marshalBinary n with
        | some m => !(m x).toBool
        | none => n != "net.IP"
    | _ => false
  | _ => false

theorem writeOther_named (env : Env) (n : String) (u : GoType) (x : Val)
    (ht : n ≠ "time.Time") (hd : n ≠ "time.Duration") :
    writeOther env (.named n u) x =
      match env.marshalBinary n with
      | some m => .ok (m x)
      | none =>
        if n = "net.IP" then .ok (.ok (match x with
          | .elems bs => bytesText bs
          | _ => ""))
        else .ok (.error ("redis: can't marshal " ++ n ++ " (implement encoding.BinaryMarshaler)")) := by
  unfold writeOther
  split
  · simp_all
  · simp_all
  · cases hm : env.marshalBinary n with
    | some m => simp [Env.marshal, hm]
    | none =>
      simp only [Env.marshal, hm, Option.map_none']
      by_cases hn : n = "net.IP"
      · subst hn; cases x <;> simp
      · simp only [hn, if_false]
        split <;> simp_all [GoType.str]

/-- **Soundness of the check, as far as it goes.** On every value of type `any` that the
kind check accepts, `WriteArg` does not panic, and it refuses the value exactly on
`refusedByWriter`. -/
theorem writeArg_of_accepted (env : Env) (v : Val) (hv : v.HasType .interface = true)
    (hk : refusedKind (Value.ofAny v).kind = false) :
    (∀ p, writeArg env v ≠ .error p) ∧
      ((∃ e, writeArg env v = .ok (.error e)) ↔ refusedByWriter env v = true) := by
  cases v with
  | iface t x =>
    simp only [Value.kind_ofAny_iface] at hk
    cases t with
    | named n u =>
      have hw : writeArg env (.iface (.named n u) x) = writeOther env (.named n u) x := rfl
      rw [hw]
      by_cases ht : n = "time.Time"
      · subst ht; simp [writeOther, refusedByWriter]
      by_cases hd : n = "time.Duration"
      · subst hd; simp [writeOther, refusedByWriter]
      rw [writeOther_named env n u x ht hd]
      cases hm : env.marshalBinary n with
      | some m => cases hx : m x <;> simp [refusedByWriter, ht, hd, hm, hx, Except.toBool]
      | none =>
        simp only [refusedByWriter, hm]
        by_cases hn : n = "net.IP" <;> simp [ht, hd, hn]
    | interface => simp [Val.HasType, GoType.kind] at hv
    | complex64 | complex128 | uintptr =>
      simp [writeArg, written, writeOther, Env.marshal, refusedByWriter]
    | bool | int | int8 | int16 | int32 | int64 | uint | uint8 | uint16 | uint32 | uint64
    | float32 | float64 | string => simp [writeArg, written, refusedByWriter]
    | unsafePointer | array | chan | func | map | pointer | slice | struct =>
      simp [refusedKind, GoType.kind] at hk
  | nil => simp [refusedKind, Value.ofAny, Value.kind] at hk
  | _ => simp [Val.HasType, GoType.kind, GoType.underlying, Kind.signedBits, Kind.unsignedBits] at hv

theorem writeArg_of_accepted_uintptr :
    (Val.iface .uintptr (.uint 7)).HasType .interface = true ∧
    refusedKind (Value.ofAny (.iface .uintptr (.uint 7))).kind = false ∧
    (∀ p, writeArg Env.bare (.iface .uintptr (.uint 7)) ≠ .error p) ∧
      ((∃ e, writeArg Env.bare (.iface .uintptr (.uint 7)) = .ok (.error e)) ↔
        refusedByWriter Env.bare (.iface .uintptr (.uint 7)) = true) :=
  ⟨by decide, rfl, writeArg_of_accepted Env.bare _ (by decide) rfl⟩

/-- A `complex128` passes the kind check, and `WriteArg` refuses it. -/
theorem complex_accepted_not_encoded :
    refusedKind (Value.ofAny (.iface .complex128 (.complex 0 0))).kind = false ∧
    writeArg Env.bare (.iface .complex128 (.complex 0 0)) =
      .ok (.error "redis: can't marshal complex128 (implement encoding.BinaryMarshaler)") :=
  ⟨rfl, rfl⟩

end Client
end Xredis
