import Xredis.Client.Hash

/-!
# The key commands of the client

`Delete` sends one `DEL`; `MassDelete` sends one `DEL` of all its keys through
`Pipelined` and then walks the returned commands. Its loop differs from the one of
`HSet`: there is no check of `Pipelined`'s own error, and `err` is overwritten by every
command's error, so after a loop over commands without error it is nil whatever
`Pipelined` returned.

Also here: `Exists`, `HExists`, and the methods that return the error of one command,
`Incr`, `Decr`, `Set` and `HIncrBy` (`cmdErr`, of which `Delete` is one too).
-/

namespace Xredis
namespace Client

open Go Rdb Server

variable {σ : Type}

/-- The methods that run one command and return its error (`res := c.conn.X(…)`, then
`res.Err()`): `Delete`, `Incr`, `Decr`, `Set` and `HIncrBy`. -/
def cmdErr (c : Conn σ) (s : σ) (cmd : Cmd) : Except Panic (Option Error × σ) := do
  let (r, s') ← c.process s cmd
  pure (r.err, s')

/-- `(*Client).Delete`. -/
def delete (c : Conn σ) (s : σ) (key : String) : Except Panic (Option Error × σ) :=
  cmdErr c s (delCmd [key])

/-- The loop of `MassDelete`: `err = cmder.Err()` for each command, returning at the
first non-nil one; after the loop `err` holds the last value assigned, which is
`Pipelined`'s own error only when there was no command. -/
def massDeleteErr (e : Option Error) : List Cmder → Option Error
  | [] => e
  | c :: cs =>
    match c.err with
    | some e' => some e'
    | none => massDeleteErr none cs

/-- `(*Client).MassDelete`. -/
def massDelete (c : Conn σ) (s : σ) (keys : List String) : Except Panic (Option Error × σ) := do
  let ((e, cmds), s') ← c.exec s false [delCmd keys]
  pure (massDeleteErr e cmds, s')

/-- `Delete` of each key in turn, stopping at the first error. -/
def deleteEach (c : Conn σ) (s : σ) : List String → Except Panic (Option Error × σ)
  | [] => .ok (none, s)
  | k :: ks => do
    let (r, s') ← delete c s k
    match r with
    | some e => pure (some e, s')
    | none => deleteEach c s' ks

/-- The integer an `IntCmd` read. -/
def intVal (r : Cmder) : Int :=
  match r.val with
  | some (.int n) => n
  | _ => 0

/-- `(*Client).Exists`: `res.Val() == 1`. -/
def existsKey (c : Conn σ) (s : σ) (key : String) : Except Panic ((Bool × Option Error) × σ) := do
  let (r, s') ← c.process s (existsCmd [key])
  match r.err with
  | some e => pure ((false, some e), s')
  | none => pure ((intVal r == 1, none), s')

/-- `(*Client).Incr`. -/
def incr (c : Conn σ) (s : σ) (key : String) : Except Panic (Option Error × σ) :=
  cmdErr c s (incrCmd key)

/-- `(*Client).Decr`. -/
def decr (c : Conn σ) (s : σ) (key : String) : Except Panic (Option Error × σ) :=
  cmdErr c s (decrCmd key)

/-- `(*Client).Set`. -/
def set (c : Conn σ) (s : σ) (key : String) (val : Val) (expiration : Duration) :
    Except Panic (Option Error × σ) :=
  cmdErr c s (setCmd key val expiration)

/-- `(*Client).HIncrBy`. -/
def hIncrBy (c : Conn σ) (s : σ) (key field : String) (incr : Int) :
    Except Panic (Option Error × σ) :=
  cmdErr c s (hincrbyCmd key field incr)

/-- The value a `BoolCmd` read with `ReadBool`: an integer reply of 1 (`HEXISTS` replies
with an integer); `false` after a nil reply or an error. -/
def boolVal (r : Cmder) : Bool :=
  match r.val with
  | some (.int n) => n == 1
  | _ => false

/-- `(*Client).HExists`: `.Result()`, the value and the error. -/
def hExists (c : Conn σ) (s : σ) (key field : String) :
    Except Panic ((Bool × Option Error) × σ) := do
  let (r, s') ← c.process s (hexistsCmd key field)
  pure ((boolVal r, r.err), s')

end Client
end Xredis
