import Xredis.Client.Keys

/-!
# Which error a batched write returns

The documented policy for the batched writes is *first seen*: nil when the batch and all
its commands succeed, the batch's own error when there is one, otherwise the error of
the first failing command. `firstSeen` states it with `List.find?`.

* `execResult_eq_firstSeen` — the tail of `HSet` and `HSetObject` is that policy.
* `massDeleteErr_eq` — `MassDelete`'s loop: the first failing command's error; when no
  command fails, `Pipelined`'s error only if there were no commands, and nil otherwise.
  On a closed client `Pipelined` fails while its one command carries no error, and
  `MassDelete` returns nil (`massDelete_closed_returns_nil`).
-/

namespace Xredis
namespace Client

open Go Rdb

variable {σ : Type}

/-- The first-seen error policy, in the words of the documentation. -/
def firstSeen (e : Option Error) (rs : List Cmder) : Option Error :=
  match e with
  | some e => some e
  | none => (rs.find? fun r => r.err.isSome).bind Cmder.err

theorem cmdsFirstErr_eq_find (rs : List Cmder) :
    cmdsFirstErr rs = (rs.find? fun r => r.err.isSome).bind Cmder.err := by
  induction rs with
  | nil => rfl
  | cons r rs ih => cases h : r.err <;> simp [cmdsFirstErr, List.find?_cons, h, ih]

theorem execResult_eq_firstSeen (e : Option Error) (rs : List Cmder) :
    execResult e rs = firstSeen e rs := by
  cases e <;> simp [execResult, firstSeen, cmdsFirstErr_eq_find]

/-- **`MassDelete`'s policy.** The first failing command's error; when no command fails,
`Pipelined`'s error if there was no command, and nil otherwise. -/
theorem massDeleteErr_eq (e : Option Error) (rs : List Cmder) :
    massDeleteErr e rs = if rs.isEmpty then e else (rs.find? fun r => r.err.isSome).bind Cmder.err := by
  induction rs generalizing e with
  | nil => rfl
  | cons r rs ih =>
    cases h : r.err
    · cases rs <;> simp_all [massDeleteErr, List.find?_cons]
    · simp [massDeleteErr, List.find?_cons, h]

/-- On a closed client, `Pipelined` returns `redis: client is closed` with a `DEL` that
carries no error, which first-seen would report; `MassDelete` returns nil. -/
theorem massDelete_closed_returns_nil :
    (closed Unit).exec () false [delCmd ["k"]] = .ok ((some errClosed, [⟨none, none⟩]), ()) ∧
    firstSeen (some errClosed) [⟨none, none⟩] = some errClosed ∧
    massDelete (closed Unit) () ["k"] = .ok (none, ()) :=
  ⟨rfl, rfl, rfl⟩

end Client
end Xredis
