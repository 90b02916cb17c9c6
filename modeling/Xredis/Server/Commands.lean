import Xredis.Server.Store

/-!
# Commands as Redis receives them, and `MULTI`/`EXEC`

The server reads a command as an array of strings, looks its name up in the command
table, checks the number of arguments, and runs it. A transaction queues its commands
after `MULTI`; a command refused while queueing (unknown, wrong number of arguments)
makes `EXEC` run nothing, and otherwise `EXEC` runs every queued command in order,
whatever the others reply: Redis has no rollback.

* `parse`, `Prim.apply` — the command table: a command's procedure parses its arguments
  and runs one primitive of the keyspace;
* `precheck`, `execute`, `runAll` — one command, and a pipeline of them;
* `execTx` — `MULTI … EXEC`.
-/

namespace Xredis
namespace Server

open Go

/-- ASCII lower case, as `strcasecmp` compares command names and options. -/
def lower (s : String) : String :=
  ⟨s.data.map Char.toLower⟩

/-- The command table: arity counts the name; a negative arity is a minimum. -/
def arity : String → Option Int
  | "hset" => some (-4) | "expire" => some (-3) | "del" => some (-2) | "get" => some 2
  | "set" => some (-3) | "hgetall" => some 2 | "hget" => some 3 | "hexists" => some 3
  | "hincrby" => some 4 | "exists" => some (-2) | "incr" => some 2 | "decr" => some 2
  | _ => none

/-- The arity error. -/
def wrongArity (name : String) : String :=
  "ERR wrong number of arguments for '" ++ name ++ "' command"

/-- What `processCommand` refuses before running anything: an unknown command, or the
wrong number of arguments. -/
def precheck : List String → Option String
  | [] => some "ERR unknown command ''"
  | name :: args =>
    match arity (lower name) with
    | none => some ("ERR unknown command '" ++ name ++ "'")
    | some a =>
      let argc : Int := args.length + 1
      if (0 < a ∧ argc ≠ a) ∨ argc < -a then some (wrongArity (lower name)) else none

/-- Field/value arguments in pairs; `none` for an odd count. -/
def pairs : List String → Option (List (String × String))
  | [] => some []
  | f :: v :: rest => (pairs rest).map ((f, v) :: ·)
  | [_] => none

/-- The options of `EXPIRE`, with Redis's checks on unknown and conflicting ones. -/
def parseExpireFlags (opts : List String) : Except String ExpireFlags := do
  let fl ← opts.foldlM (fun (fl : ExpireFlags) o =>
    match lower o with
    | "nx" => pure { fl with nx := true }
    | "xx" => pure { fl with xx := true }
    | "gt" => pure { fl with gt := true }
    | "lt" => pure { fl with lt := true }
    | _ => throw ("ERR Unsupported option " ++ o)) {}
  if fl.nx && (fl.xx || fl.gt || fl.lt) then
    throw "ERR NX and XX, GT or LT options at the same time are not compatible"
  if fl.gt && fl.lt then throw "ERR GT and LT options at the same time are not compatible"
  pure fl

/-- The largest `long long`. -/
def llongMax : Int := 2 ^ 63 - 1

/-- `EXPIRE`'s argument in milliseconds, or the reply refusing it (C's `/` truncates). -/
def expireMillis (secs : String) : Except String Int :=
  match string2ll secs with
  | none => .error notInteger
  | some n =>
    if llongMax.tdiv 1000 < n ∨ n < (-llongMax - 1).tdiv 1000 then
      .error "ERR invalid expire time in 'expire' command"
    else .ok (n * 1000)

/-- The options of `SET` that go-redis sends: `EX`, `PX` and `KEEPTTL`. -/
def parseSetExpiry : List String → Except String SetExpiry
  | [] => .ok .persist
  | [o] => if lower o = "keepttl" then .ok .keepTTL else .error "ERR syntax error"
  | [o, n] =>
    let unit : Option Int :=
      if lower o = "ex" then some 1000 else if lower o = "px" then some 1 else none
    match unit, string2ll n with
    | none, _ => .error "ERR syntax error"
    | some _, none => .error notInteger
    | some u, some t =>
      if t ≤ 0 ∨ (u = 1000 ∧ llongMax.tdiv 1000 < t) then
        .error "ERR invalid expire time in 'set' command"
      else .ok (.ms (t * u))
  | _ => .error "ERR syntax error"

/-- `SET` only gives a key a time to live that is positive. -/
theorem parseSetExpiry_pos {opts : List String} {t : Int}
    (h : parseSetExpiry opts = .ok (.ms t)) : 0 < t := by
  unfold parseSetExpiry at h
  split at h
  · cases h
  · split at h <;> cases h
  · simp only at h
    split at h
    · cases h
    · cases h
    · split at h
      · cases h
      · rename_i u _ hu _ hne
        cases h
        have hu' : u = 1000 ∨ u = 1 := by
          split at hu
          · exact .inl (Option.some.inj hu).symm
          · split at hu
            · exact .inr (Option.some.inj hu).symm
            · cases hu
        rcases hu' with rfl | rfl <;> omega
  · cases h

/-! ### The command table -/

/-- What a command of the table runs once its procedure has parsed the arguments: a reply
that leaves the keyspace as it was, or one primitive of the keyspace. `HSET` carries a pair
at least, and `SET` a positive time to live if any. -/
inductive Prim
  | reply (r : Reply)
  | del (ks : List String)
  | existsKeys (ks : List String)
  | get (key : String)
  | hgetall (key : String)
  | hget (key field : String)
  | hexists (key field : String)
  | hset (key : String) (p : String × String) (ps : List (String × String))
  | expire (key : String) (fl : ExpireFlags) (ms : Int)
  | set (key v : String) (ex : SetExpiry) (pos : ∀ t, ex = .ms t → 0 < t)
  | hincrBy (key field : String) (delta : Int)
  | incrBy (key : String) (delta : Int)

/-- The primitive run on the store. -/
def Prim.apply (s : Store) : Prim → Reply × Store
  | .reply r => (r, s)
  | .del ks =>
    let r := Server.del s ks
    (.int r.1, r.2)
  | .existsKeys ks => (.int (Server.existsKeys s ks), s)
  | .get key => (Server.get s key, s)
  | .hgetall key => (Server.hgetall s key, s)
  | .hget key f => (Server.hget s key f, s)
  | .hexists key f => (Server.hexists s key f, s)
  | .hset key p ps => Server.hset s key (p :: ps)
  | .expire key fl ms => Server.expire s key fl ms
  | .set key v ex _ => (.status "OK", Server.set s key v ex)
  | .hincrBy key f d => Server.hincrBy s key f d
  | .incrBy key d => Server.incrBy s key d

/-- The reply to a name outside the table. -/
def unknownCommand (name : String) : Prim :=
  .reply (.err ("ERR unknown command '" ++ name ++ "'"))

/-- `hsetCommand`: field and value pairs, one at least. -/
def hsetCommand : List String → Prim
  | key :: fvs =>
    match pairs fvs with
    | some (p :: ps) => .hset key p ps
    | _ => .reply (.err (wrongArity "hset"))
  | [] => unknownCommand "hset"

/-- `expireCommand`: the options, then the time. -/
def expireCommand : List String → Prim
  | key :: secs :: opts =>
    match parseExpireFlags opts, expireMillis secs with
    | .error e, _ => .reply (.err e)
    | .ok _, .error e => .reply (.err e)
    | .ok fl, .ok ms => .expire key fl ms
  | _ => unknownCommand "expire"

/-- `setCommand`: the options `EX`, `PX` and `KEEPTTL`. -/
def setCommand : List String → Prim
  | key :: v :: opts =>
    match h : parseSetExpiry opts with
    | .error e => .reply (.err e)
    | .ok ex => .set key v ex fun _ ht => parseSetExpiry_pos (ht ▸ h)
  | _ => unknownCommand "set"

/-- `hincrbyCommand`: the increment is a `long long`. -/
def hincrbyCommand : List String → Prim
  | [key, f, d] =>
    match string2ll d with
    | none => .reply (.err notInteger)
    | some d => .hincrBy key f d
  | _ => unknownCommand "hincrby"

/-- The procedure of a command of one key: `GET`, `HGETALL`, `INCR`, `DECR`. -/
def keyCommand (name : String) (prim : String → Prim) : List String → Prim
  | [key] => prim key
  | _ => unknownCommand name

/-- The procedure of a command of a key and a field: `HGET`, `HEXISTS`. -/
def fieldCommand (name : String) (prim : String → String → Prim) : List String → Prim
  | [key, f] => prim key f
  | _ => unknownCommand name

/-- The command table: the procedure of a (lower-case) name, on the arguments. -/
def parse (name : String) (args : List String) : Prim :=
  match name with
  | "hset" => hsetCommand args
  | "expire" => expireCommand args
  | "del" => .del args
  | "get" => keyCommand "get" .get args
  | "set" => setCommand args
  | "hgetall" => keyCommand "hgetall" .hgetall args
  | "hget" => fieldCommand "hget" .hget args
  | "hexists" => fieldCommand "hexists" .hexists args
  | "hincrby" => hincrbyCommand args
  | "exists" => .existsKeys args
  | "incr" => keyCommand "incr" (.incrBy · 1) args
  | "decr" => keyCommand "decr" (.incrBy · (-1)) args
  | _ => unknownCommand name

/-- A command that has passed `precheck`, run on the store. -/
def run (s : Store) : List String → Reply × Store
  | name :: args => (parse (lower name) args).apply s
  | [] => (.err "ERR unknown command ''", s)

theorem setCommand_apply {key v : String} {opts : List String} {ex : SetExpiry}
    (h : parseSetExpiry opts = .ok ex) (s : Store) :
    (setCommand (key :: v :: opts)).apply s = (.status "OK", Server.set s key v ex) := by
  simp only [setCommand]
  split <;> simp_all [Prim.apply]

theorem setCommand_apply_error {key v : String} {opts : List String} {e : String}
    (h : parseSetExpiry opts = .error e) (s : Store) :
    (setCommand (key :: v :: opts)).apply s = (.err e, s) := by
  simp only [setCommand]
  split <;> simp_all [Prim.apply]

/-- One command as the server receives it. -/
def execute (s : Store) (argv : List String) : Reply × Store :=
  match precheck argv with
  | some e => (.err e, s)
  | none => run s argv

/-- Commands run one after another, each with its own reply (a pipeline). -/
def runAll (s : Store) : List (List String) → List Reply × Store
  | [] => ([], s)
  | c :: cs =>
    let r := execute s c
    let rs := runAll r.2 cs
    (r.1 :: rs.1, rs.2)

/-- `EXEC`'s error after a command was refused while queueing. -/
def execAbort : String := "EXECABORT Transaction discarded because of previous errors."

/-- `MULTI`, the queued commands, `EXEC`: nothing runs if one was refused while queueing;
otherwise all of them run, in order, and a command that fails leaves the others as
they were. -/
def execTx (s : Store) (cmds : List (List String)) : Except String (List Reply) × Store :=
  if cmds.any fun c => (precheck c).isSome then (.error execAbort, s)
  else
    let r := runAll s cmds
    (.ok r.1, r.2)

end Server
end Xredis
