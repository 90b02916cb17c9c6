import Xredis.Rdb.Hscan

/-!
# How go-redis scans a string reply into a Go value

`StringCmd.Scan(dst)`, behind `Get` and `HGet`, hands the reply to `proto.Scan(b, dst)`:
a type switch on the exact dynamic type of `dst`. A pointer to a predeclared string,
integer, float or bool type, to `[]byte`, `time.Time` or `time.Duration` gets the text
parsed by its case; a pointer to a type with an `UnmarshalBinary` method gets that
method; `*net.IP` gets the bytes; anything else is refused. Some cases store what the
parser returned even beside an error (`*int`, `*int64`, `*uint64`, `*float64`,
`*time.Time`), the others store only on success. Storing through a nil pointer panics;
an `UnmarshalBinary` called on a nil pointer is taken to store through it.

* `protoScan_written` — **the round trip**: the text `WriteArg` writes for a value of a
  predeclared bool, integer, float or string type is scanned back into the same value.
-/

namespace Xredis
namespace Rdb

open Go

/-- The bits `strconv.ParseFloat` returns beside a range error: the `float64` infinity of
the sign of the text. -/
def infBits (s : String) : Nat :=
  if (leadingSign s.data).1 then 0xFFF0000000000000 else 0x7FF0000000000000

/-- `strconv.ParseFloat` as Go returns it: the value beside the error, 0 after a syntax
error and an infinity after a range error. -/
def floatResult (s : String) : Except NumError Nat → Nat × Option NumError
  | .ok x => (x, none)
  | .error .errSyntax => (0, some .errSyntax)
  | .error .errRange => (infBits s, some .errRange)

/-- A string as the `[]byte` of its characters. -/
def bytesOf (s : String) : Val :=
  .elems (s.data.map fun c => .uint c.toNat)

/-- The panic of storing through a nil pointer. -/
def nilDeref : Panic :=
  ⟨"runtime error: invalid memory address or nil pointer dereference"⟩

/-- `*v = x` through the pointer `dst`, returning `err`. -/
def storeThrough (dst x : Val) (err : Option String) : Except Panic (Option String × Val) :=
  match dst with
  | .iface t (.ptr _) => .ok (err, .iface t (.ptr x))
  | _ => .error nilDeref

/-- `if err != nil { return err }; *v = x`. -/
def storeIfOk (dst x : Val) (err : Option String) : Except Panic (Option String × Val) :=
  match err with
  | some e => .ok (some e, dst)
  | none => storeThrough dst x none

/-- A parse result as the error `Scan` returns. -/
def numErr (fn s : String) (r : Option NumError) : Option String :=
  r.map (numErrorText fn s)

/-- The refusal of the type switch's last case. -/
def cantUnmarshal (t : GoType) : String :=
  "redis: can't unmarshal " ++ t.str ++ " (consider implementing BinaryUnmarshaler)"

/-- The cases of the switch after the predeclared types: `*time.Time`, `*time.Duration`,
`encoding.BinaryUnmarshaler`, `*net.IP`, and the refusal. -/
def scanOther (env : Env) (b : String) (dst : Val) (e : GoType) : Except Panic (Option String × Val) :=
  match e with
  | .named "time.Time" _ =>
    match env.parseTime b with
    | .ok t => storeThrough dst t none
    | .error m => storeThrough dst e.zero (some m)
  | .named "time.Duration" _ =>
    let r := parseIntResult 64 b
    storeIfOk dst (.int r.1) (numErr "ParseInt" b r.2)
  | .named n _ =>
    match env.unmarshalBinary n with
    | some m =>
      match dst with
      | .iface t (.ptr x) => .ok (match m x b with
        | .ok x' => (none, .iface t (.ptr x'))
        | .error err => (some err, dst))
      | _ => .error nilDeref
    | none =>
      if n = "net.IP" then storeThrough dst (bytesOf b) none
      else .ok (some (cantUnmarshal (.pointer e)), dst)
  | _ => .ok (some (cantUnmarshal (.pointer e)), dst)

/-- `proto.Scan(b, v)` for `v` of type `any`: the error, and `v` with what it points to
set; a panic when it stores through a nil pointer. -/
def protoScan (env : Env) (b : String) (v : Val) : Except Panic (Option String × Val) :=
  match v with
  | .iface (.pointer e) _ =>
    match e with
    | .string => storeThrough v (.string b) none
    | .slice .uint8 => storeThrough v (bytesOf b) none
    | .int => let r := parseIntResult 64 b; storeThrough v (.int r.1) (numErr "Atoi" b r.2)
    | .int8 => let r := parseIntResult 8 b; storeIfOk v (.int r.1) (numErr "ParseInt" b r.2)
    | .int16 => let r := parseIntResult 16 b; storeIfOk v (.int r.1) (numErr "ParseInt" b r.2)
    | .int32 => let r := parseIntResult 32 b; storeIfOk v (.int r.1) (numErr "ParseInt" b r.2)
    | .int64 => let r := parseIntResult 64 b; storeThrough v (.int r.1) (numErr "ParseInt" b r.2)
    | .uint => let r := parseUintResult 64 b; storeIfOk v (.uint r.1) (numErr "ParseUint" b r.2)
    | .uint8 => let r := parseUintResult 8 b; storeIfOk v (.uint r.1) (numErr "ParseUint" b r.2)
    | .uint16 => let r := parseUintResult 16 b; storeIfOk v (.uint r.1) (numErr "ParseUint" b r.2)
    | .uint32 => let r := parseUintResult 32 b; storeIfOk v (.uint r.1) (numErr "ParseUint" b r.2)
    | .uint64 =>
      let r := parseUintResult 64 b; storeThrough v (.uint r.1) (numErr "ParseUint" b r.2)
    | .float32 =>
      let r := floatResult b (env.parseFloat 32 b)
      storeIfOk v (.float r.1) (numErr "ParseFloat" b r.2)
    | .float64 =>
      let r := floatResult b (env.parseFloat 64 b)
      storeThrough v (.float r.1) (numErr "ParseFloat" b r.2)
    | .bool => storeThrough v (.bool (b = "1")) none
    | e => scanOther env b v e
  | .iface t _ => .ok (some (cantUnmarshal t), v)
  | _ => .ok (some "redis: Scan(nil)", v)

/-- **The round trip.** The text `WriteArg` writes for a value of a predeclared bool,
integer, float or string type, not a NaN, is scanned into a pointer to that type as the
same value, whatever it pointed to. -/
theorem protoScan_written (env : Env) (hf : env.FloatRoundTrip) {t : GoType} {x : Val}
    (cur : Val) {txt : String} (hs : scalarType t = true) (hx : x.HasType t = true)
    (hn : notNaN t x = true) (hw : writeArg env (.iface t x) = .ok (.ok txt)) :
    protoScan env txt (.iface (.pointer t) (.ptr cur)) = .ok (none, .iface (.pointer t) (.ptr x)) := by
  cases t <;> simp [scalarType] at hs
  case uintptr => simp [writeArg, written, writeOther, Env.marshal] at hw
  all_goals
    cases x <;>
      simp [Val.HasType, GoType.kind, Kind.signedBits, Kind.unsignedBits, GoType.underlying] at hx
  all_goals
    simp only [writeArg, written, if_true, scalarText, GoType.kind, reduceCtorEq, if_false,
      Except.ok.injEq] at hw
    subst hw
    simp only [protoScan, notNaN, Bool.not_eq_true'] at hn ⊢
  all_goals first
    | rfl
    | rw [parseIntResult_formatInt (by decide) hx]; rfl
    | rw [parseUintResult_formatUint hx]; rfl
    | rw [hf.float64 _ hx hn]; rfl
    | rw [hf.float32 _ hx hn]; rfl
    | cases ‹Bool› <;> rfl

end Rdb
end Xredis
