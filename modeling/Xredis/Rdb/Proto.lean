import Xredis.Go.Env

/-!
# How go-redis writes a command argument

`proto.Writer.WriteArg` turns each Go value of a command's arguments into the bytes sent
to the server. It is a type switch on the dynamic type: exact types, not kinds. The
predeclared string, integer (not `uintptr`), float and bool types and pointers to them
are written as text, `[]byte` as its bytes, `time.Time` and `time.Duration` by their own
cases, anything with a `MarshalBinary` method by that method; everything else — complex
numbers, `uintptr`, named types without `MarshalBinary`, maps, structs — is refused with
an error. Dereferencing a nil `*string`, `*int`, … panics.
-/

namespace Xredis
namespace Rdb

open Go

/-- The predeclared types `WriteArg`'s type switch names, alone and behind a pointer. -/
def written : GoType → Bool
  | .string | .int | .int8 | .int16 | .int32 | .int64
  | .uint | .uint8 | .uint16 | .uint32 | .uint64 | .float32 | .float64 | .bool => true
  | _ => false

/-- The text `WriteArg` writes for a value of a type it names: integers in decimal
(`w.int`, `w.uint`), floats by `strconv.AppendFloat(…, 'f', -1, 64)` (a `float32`
widened first), `true` and `false` as `1` and `0`. -/
def scalarText (env : Env) (t : GoType) : Val → String
  | .string s => s
  | .int i => formatInt i
  | .uint n => formatUint n
  | .bool b => if b then "1" else "0"
  | .float x => env.formatFloat (if t.kind = .float32 then env.widenFloat32 x else x)
  | _ => ""

/-- A `[]byte` as the string of its bytes. -/
def bytesText (bs : List Val) : String :=
  ⟨bs.map fun b => match b with
    | .uint n => Char.ofNat n
    | _ => Char.ofNat 0⟩

/-- A pointer's target, or the panic of dereferencing nil. -/
def deref : Val → Except Panic Val
  | .ptr v => .ok v
  | _ => .error ⟨"runtime error: invalid memory address or nil pointer dereference"⟩

/-- The cases of the type switch after the predeclared types and `[]byte`: `time.Time`,
`time.Duration`, `encoding.BinaryMarshaler`, `net.IP`, and the refusal. -/
def writeOther (env : Env) (t : GoType) (v : Val) : Except Panic (Except String String) :=
  match t with
  | .named "time.Time" _ => .ok (.ok (env.formatTime v))
  | .named "time.Duration" _ => .ok (.ok (scalarText env t v))
  | _ =>
    match env.marshal t v with
    | some r => r
    | none =>
      match t, v with
      | .named "net.IP" _, .elems bs => .ok (.ok (bytesText bs))
      | .named "net.IP" _, _ => .ok (.ok "")
      | _, _ => .ok (.error ("redis: can't marshal " ++ t.str ++ " (implement encoding.BinaryMarshaler)"))

/-- `proto.Writer.WriteArg(v)` for `v` of type `any`: the text sent, the error returned,
or a panic. -/
def writeArg (env : Env) : Val → Except Panic (Except String String)
  | .iface t v =>
    if written t then .ok (.ok (scalarText env t v))
    else match t with
      | .pointer e =>
        if written e then (deref v).map fun x => .ok (scalarText env e x)
        else writeOther env t v
      | .slice .uint8 => .ok (.ok (match v with
        | .elems bs => bytesText bs
        | _ => ""))
      | _ => writeOther env t v
  | _ => .ok (.ok "")

/-- `WriteArgs`: the arguments in order, stopping at the first error or panic. -/
def writeArgs (env : Env) : List Val → Except Panic (Except String (List String))
  | [] => .ok (.ok [])
  | a :: as => do
    match ← writeArg env a with
    | .error e => pure (.error e)
    | .ok s => return (← writeArgs env as).map (s :: ·)

@[simp] theorem writeArg_str (env : Env) (s : String) : writeArg env (.str s) = .ok (.ok s) := rfl

/-- A value of a predeclared type the switch names is written as its text. -/
theorem writeArg_written (env : Env) {t : GoType} (v : Val) (h : written t = true) :
    writeArg env (.iface t v) = .ok (.ok (scalarText env t v)) := by
  simp [writeArg, h]

@[simp] theorem writeArgs_nil (env : Env) : writeArgs env [] = .ok (.ok []) := rfl

theorem writeArgs_cons_ok (env : Env) {a : Val} {s : String} (as : List Val)
    (h : writeArg env a = .ok (.ok s)) :
    writeArgs env (a :: as) = (writeArgs env as).map (·.map (s :: ·)) := by
  simp only [writeArgs, h, bind_pure_comp]
  rfl

end Rdb
end Xredis
