import Xredis.Go.Reflect

/-!
# Code the model calls but does not contain

go-redis's argument writer and its readers (`hscan`, `proto.Scan`) call into code outside
this repository: the methods the program's own named types declare (`MarshalBinary`,
`ScanRedis`, `UnmarshalText`, `UnmarshalBinary`), and the standard library's float and
time printing and parsing. An
`Env` supplies their behaviour; every result about the client holds for every `Env`.

Method sets follow Go: a method lives on a named type `T` (value receiver, also in the
method set of `*T`) or on `*T` only (pointer receiver); predeclared and unnamed types
have none. `Env.FloatRoundTrip` is what `strconv` documents about its float printing:
`ParseFloat` of `FormatFloat(f, 'f', -1, 64)` is `f` again.
-/

namespace Xredis
namespace Go

/-- The behaviour of code outside the model that the modelled code calls. -/
structure Env where
  /-- `MarshalBinary` of named type `T`, with a value receiver. -/
  marshalBinary : String → Option (Val → Except String String)
  /-- `MarshalBinary` of `*T`, with a pointer receiver; it receives the pointer. -/
  ptrMarshalBinary : String → Option (Val → Except String String)
  /-- `ScanRedis` of `*T`: from the value `T` holds and the text, the new value. -/
  scanRedis : String → Option (Val → String → Except String Val)
  /-- `UnmarshalText` of `*T`. -/
  unmarshalText : String → Option (Val → String → Except String Val)
  /-- `UnmarshalBinary` of `*T`: from the value `T` holds and the bytes, the new value. -/
  unmarshalBinary : String → Option (Val → String → Except String Val)
  /-- `time.Parse(time.RFC3339Nano, s)`: the `time.Time`, or the error's text. -/
  parseTime : String → Except String Val
  /-- `t.AppendFormat(nil, time.RFC3339Nano)` of a `time.Time`. -/
  formatTime : Val → String
  /-- `strconv.AppendFloat(nil, f, 'f', -1, 64)`, on the bits of a `float64`. -/
  formatFloat : Nat → String
  /-- `strconv.ParseFloat(s, bitSize)`: the bits of the result at that width. -/
  parseFloat : Nat → String → Except NumError Nat
  /-- `float64(f)` of a `float32`, on bits. -/
  widenFloat32 : Nat → Nat

/-- A `float64` bit pattern is a NaN: all exponent bits set, a non-zero fraction. -/
def isNaN64 (x : Nat) : Bool :=
  (x / 2 ^ 52) % 2 ^ 11 == 2 ^ 11 - 1 && x % 2 ^ 52 != 0

/-- A `float32` bit pattern is a NaN. -/
def isNaN32 (x : Nat) : Bool :=
  (x / 2 ^ 23) % 2 ^ 8 == 2 ^ 8 - 1 && x % 2 ^ 23 != 0

/-- The round trip `strconv` documents for the shortest float formatting: parsing what
`FormatFloat(f, 'f', -1, 64)` prints gives `f` back, at 64 bits, and for a `float32`
widened to print, at 32 bits. -/
structure Env.FloatRoundTrip (env : Env) : Prop where
  float64 : ∀ x, x < 2 ^ 64 → isNaN64 x = false → env.parseFloat 64 (env.formatFloat x) = .ok x
  float32 : ∀ x, x < 2 ^ 32 → isNaN32 x = false →
    env.parseFloat 32 (env.formatFloat (env.widenFloat32 x)) = .ok x

/-- A program that declares no `MarshalBinary`, `ScanRedis`, `UnmarshalText` or
`UnmarshalBinary`, with float and time printing and parsing stubbed: an `Env` for runs
that print and parse no float and no time. -/
def Env.bare : Env where
  marshalBinary _ := none
  ptrMarshalBinary _ := none
  scanRedis _ := none
  unmarshalText _ := none
  unmarshalBinary _ := none
  parseTime _ := .error "parsing time"
  formatTime _ := ""
  formatFloat _ := ""
  parseFloat _ _ := .error .errSyntax
  widenFloat32 x := x

namespace Env

/-- `v.(encoding.BinaryMarshaler)` for a value of dynamic type `t`, and the call of
`MarshalBinary`; `none` when `t`'s method set lacks it. A value method called through a
nil pointer panics. -/
def marshal (env : Env) (t : GoType) (v : Val) : Option (Except Panic (Except String String)) :=
  match t with
  | .named n _ => (env.marshalBinary n).map fun m => .ok (m v)
  | .pointer (.named n _) =>
    match env.marshalBinary n, env.ptrMarshalBinary n with
    | some m, _ => some (match v with
      | .ptr x => .ok (m x)
      | _ => .error ⟨"value method " ++ n ++ ".MarshalBinary called using nil *" ++ n ++ " pointer"⟩)
    | none, some m => some (.ok (m v))
    | none, none => none
  | _ => none

/-- `ScanRedis` or else `UnmarshalText` in the method set of `*t`: the method `hscan`
calls instead of its decoder. -/
def textScanner (env : Env) (t : GoType) : Option (Val → String → Except String Val) :=
  match t with
  | .named n _ => (env.scanRedis n).orElse fun _ => env.unmarshalText n
  | _ => none

/-- Predeclared and unnamed types have no `MarshalBinary`. -/
theorem marshal_eq_none_of_not_named (env : Env) {t : GoType} (v : Val)
    (h : ∀ n u, t ≠ .named n u) (hp : ∀ n u, t ≠ .pointer (.named n u)) :
    env.marshal t v = none := by
  unfold marshal
  split
  · exact absurd rfl (h _ _)
  · exact absurd rfl (hp _ _)
  · rfl

end Env

end Go
end Xredis
