import Xredis.Go.Strconv

/-!
# Go values and the part of `reflect` the client uses

`HSet` and `HSetObject` inspect their `any` arguments with `reflect`: the kind of a value,
the fields of a struct type with their `redis` tags, and `Interface()` of a field. This
module gives Go types and values as data, and those reflective operations as functions
that either return or panic.

* `GoType` — predeclared, named and composite types; a struct type lists its fields with
  the result of `Tag.Lookup("redis")`.
* `Val` — the payload of a value; integers are `Int`/`Nat` in the range of their type,
  floats are IEEE bit patterns, a non-nil interface carries its dynamic type.
* `Val.HasType` — the typing judgment, as a `Bool` function, so it can be decided.
* `Value` — `reflect.Value`, with the read-only flag Go sets on values reached through an
  unexported field; `Value.field` and `Value.interface` panic where Go's do.
-/

namespace Xredis
namespace Go

/-- `reflect.Kind`. -/
inductive Kind
  | invalid | bool | int | int8 | int16 | int32 | int64
  | uint | uint8 | uint16 | uint32 | uint64 | uintptr
  | float32 | float64 | complex64 | complex128
  | array | chan | func | interface | map | pointer | slice | string | struct | unsafePointer
  deriving DecidableEq, Repr

/-- One field of a struct type, as `reflect.StructField` gives it: its name; whether it is
exported (`IsExported`: an empty `PkgPath`, which the compiler sets when `unicode.IsUpper`
holds of the name's first letter, and which for an ASCII letter is `Char.isUpper`);
`Tag.Lookup("redis")`; and its type. -/
structure FieldDecl (τ : Type) where
  name : String
  exported : Bool
  tag : Option String
  type : τ
  exported_ascii : (name.get 0).val < 128 → exported = (name.get 0).isUpper

/-- A field whose name starts with an ASCII character: exported exactly when that
character is an upper-case letter. -/
def FieldDecl.ascii {τ : Type} (name : String) (tag : Option String) (type : τ) : FieldDecl τ :=
  ⟨name, (name.get 0).isUpper, tag, type, fun _ => rfl⟩

/-- Go types. A named type carries its qualified name (`time.Duration`, `main.Level`) and
its underlying type; type identity of named types is identity of names. -/
inductive GoType
  | bool | int | int8 | int16 | int32 | int64
  | uint | uint8 | uint16 | uint32 | uint64 | uintptr
  | float32 | float64 | complex64 | complex128 | string | unsafePointer
  | named (name : String) (underlying : GoType)
  | array (len : Nat) (elem : GoType)
  | chan (elem : GoType)
  | func
  | interface
  | map (key elem : GoType)
  | pointer (elem : GoType)
  | slice (elem : GoType)
  | struct (fields : List (FieldDecl GoType))
  deriving Inhabited

namespace GoType

/-- The underlying type: named types unfolded. -/
def underlying : GoType → GoType
  | named _ u => u.underlying
  | t => t

/-- `reflect.Type.Kind`. -/
def kind : GoType → Kind
  | bool => .bool | int => .int | int8 => .int8 | int16 => .int16 | int32 => .int32
  | int64 => .int64 | uint => .uint | uint8 => .uint8 | uint16 => .uint16
  | uint32 => .uint32 | uint64 => .uint64 | uintptr => .uintptr
  | float32 => .float32 | float64 => .float64
  | complex64 => .complex64 | complex128 => .complex128
  | string => .string | unsafePointer => .unsafePointer
  | named _ u => u.kind
  | array _ _ => .array | chan _ => .chan | func => .func | interface => .interface
  | map _ _ => .map | pointer _ => .pointer | slice _ => .slice | struct _ => .struct

/-- `reflect.Type.Name`: non-empty exactly for named and predeclared types. -/
def isNamed : GoType → Bool
  | array _ _ | chan _ | func | interface | map _ _ | pointer _ | slice _ | struct _ => false
  | _ => true

/-- `reflect.Type.String`, as `%T` prints it. Function and struct literal types are
abbreviated: no modelled code prints one in a way a claim depends on. -/
def str : GoType → String
  | bool => "bool" | int => "int" | int8 => "int8" | int16 => "int16" | int32 => "int32"
  | int64 => "int64" | uint => "uint" | uint8 => "uint8" | uint16 => "uint16"
  | uint32 => "uint32" | uint64 => "uint64" | uintptr => "uintptr"
  | float32 => "float32" | float64 => "float64"
  | complex64 => "complex64" | complex128 => "complex128"
  | string => "string" | unsafePointer => "unsafe.Pointer"
  | named n _ => n
  | array n e => "[" ++ toString n ++ "]" ++ e.str
  | chan e => "chan " ++ e.str
  | func => "func()"
  | interface => "interface {}"
  | map k e => "map[" ++ k.str ++ "]" ++ e.str
  | pointer e => "*" ++ e.str
  | slice e => "[]" ++ e.str
  | struct _ => "struct {...}"

/-- The fields of a struct type, `none` for any other kind. -/
def structFields (t : GoType) : Option (List (FieldDecl GoType)) :=
  match t.underlying with
  | struct fs => some fs
  | _ => none

@[simp] theorem underlying_named (n : String) (u : GoType) :
    (named n u).underlying = u.underlying := rfl

@[simp] theorem kind_named (n : String) (u : GoType) : (named n u).kind = u.kind := rfl

end GoType

/-- Bit width of a signed integer kind (`int` is 64 bits wide). -/
def Kind.signedBits : Kind → Option Nat
  | .int | .int64 => some 64 | .int8 => some 8 | .int16 => some 16 | .int32 => some 32
  | _ => none

/-- Bit width of an unsigned integer kind, `uintptr` included. -/
def Kind.unsignedBits : Kind → Option Nat
  | .uint | .uint64 | .uintptr => some 64 | .uint8 => some 8 | .uint16 => some 16
  | .uint32 => some 32
  | _ => none

/-- Bit width of a float kind, and of each half of a complex kind. -/
def Kind.floatBits : Kind → Option Nat
  | .float32 | .complex64 => some 32 | .float64 | .complex128 => some 64
  | _ => none

/-- Payloads of Go values. -/
inductive Val
  | bool (b : Bool)
  /-- every signed integer kind -/
  | int (i : Int)
  /-- every unsigned integer kind, `uintptr` included -/
  | uint (n : Nat)
  /-- IEEE 754 bit pattern at the width of the type -/
  | float (bits : Nat)
  | complex (re im : Nat)
  | string (s : String)
  /-- nil pointer, slice, map, channel, function, `unsafe.Pointer` or interface -/
  | nil
  /-- non-nil pointer, with the value it points at -/
  | ptr (target : Val)
  /-- non-nil interface: the dynamic type and value -/
  | iface (t : GoType) (v : Val)
  /-- array, or non-nil slice -/
  | elems (vs : List Val)
  /-- non-nil map, channel, function or `unsafe.Pointer`, whose contents nothing reads -/
  | ref
  | struct (fields : List Val)
  deriving Inhabited

/-- A Go `string` as an `any` argument. -/
def Val.str (s : String) : Val := .iface .string (.string s)

mutual
/-- The zero value of a type. -/
def GoType.zero : GoType → Val
  | .bool => .bool false
  | .int | .int8 | .int16 | .int32 | .int64 => .int 0
  | .uint | .uint8 | .uint16 | .uint32 | .uint64 | .uintptr => .uint 0
  | .float32 | .float64 => .float 0
  | .complex64 | .complex128 => .complex 0 0
  | .string => .string ""
  | .named _ u => u.zero
  | .array n e => .elems (List.replicate n e.zero)
  | .unsafePointer | .chan _ | .func | .interface | .map _ _ | .pointer _ | .slice _ => .nil
  | .struct fs => .struct (GoType.zeroFields fs)
/-- The zero values of a struct's fields. -/
def GoType.zeroFields : List (FieldDecl GoType) → List Val
  | [] => []
  | f :: fs => f.type.zero :: GoType.zeroFields fs
end

mutual
/-- The typing judgment `v : t`. -/
def Val.HasType : Val → GoType → Bool
  | .bool _, t => t.kind == .bool
  | .int i, t => match t.kind.signedBits with
    | some w => fitsSigned w i
    | none => false
  | .uint n, t => match t.kind.unsignedBits with
    | some w => decide (n < 2 ^ w)
    | none => false
  | .float x, t => match t.kind with
    | .float32 => decide (x < 2 ^ 32)
    | .float64 => decide (x < 2 ^ 64)
    | _ => false
  | .complex re im, t => match t.kind with
    | .complex64 => decide (re < 2 ^ 32 ∧ im < 2 ^ 32)
    | .complex128 => decide (re < 2 ^ 64 ∧ im < 2 ^ 64)
    | _ => false
  | .string _, t => t.kind == .string
  | .nil, t => match t.kind with
    | .pointer | .slice | .map | .chan | .func | .unsafePointer | .interface => true
    | _ => false
  | .ptr v, t => match t.underlying with
    | .pointer e => v.HasType e
    | _ => false
  | .iface dt v, t => t.kind == .interface && dt.kind != .interface && v.HasType dt
  | .elems vs, t => match t.underlying with
    | .slice e => Val.AllHaveType vs e
    | .array n e => vs.length == n && Val.AllHaveType vs e
    | _ => false
  | .ref, t => match t.kind with
    | .map | .chan | .func | .unsafePointer => true
    | _ => false
  | .struct vs, t => match t.underlying with
    | .struct fs => Val.FieldsHaveType vs fs
    | _ => false
/-- Every element has type `t`. -/
def Val.AllHaveType : List Val → GoType → Bool
  | [], _ => true
  | v :: vs, t => v.HasType t && Val.AllHaveType vs t
/-- The fields of a struct value have the types of the declared fields. -/
def Val.FieldsHaveType : List Val → List (FieldDecl GoType) → Bool
  | [], [] => true
  | v :: vs, f :: fs => v.HasType f.type && Val.FieldsHaveType vs fs
  | _, _ => false
end

/-- A struct value has one value per declared field. -/
theorem Val.fieldsHaveType_length :
    ∀ {vs : List Val} {fs : List (FieldDecl GoType)}, Val.FieldsHaveType vs fs = true →
      fs.length = vs.length
  | [], [], _ => rfl
  | _ :: _, _ :: _, h => by
    simp only [Val.FieldsHaveType, Bool.and_eq_true] at h
    simp [Val.fieldsHaveType_length h.2]
  | [], _ :: _, h | _ :: _, [], h => by simp [Val.FieldsHaveType] at h

/-- A struct value's type is a struct type whose fields it fills. -/
theorem Val.hasType_struct {vs : List Val} {t : GoType} (h : (Val.struct vs).HasType t = true) :
    ∃ fs, t.structFields = some fs ∧ fs.length = vs.length := by
  simp only [Val.HasType, GoType.structFields] at h ⊢
  split at h
  · exact ⟨_, rfl, Val.fieldsHaveType_length h⟩
  · cases h

/-- A Go panic, with the runtime's message. -/
structure Panic where
  msg : String
  deriving DecidableEq, Repr

/-! A call that may panic is an `Except Panic`; these run it one step. -/

@[simp] theorem error_bind {ε α β : Type} (e : ε) (f : α → Except ε β) :
    (Except.error e >>= f) = Except.error e := rfl

@[simp] theorem ok_bind {ε α β : Type} (a : α) (f : α → Except ε β) :
    (Except.ok a >>= f) = f a := rfl

@[simp] theorem map_error {ε α β : Type} (e : ε) (f : α → β) :
    (f <$> (Except.error e : Except ε α)) = Except.error e := rfl

@[simp] theorem map_ok {ε α β : Type} (a : α) (f : α → β) :
    (f <$> (Except.ok a : Except ε α)) = Except.ok (f a) := rfl

@[simp] theorem pure_eq_ok {ε α : Type} (a : α) : (pure a : Except ε α) = Except.ok a := rfl

@[simp] theorem exceptMap_ok {ε α β : Type} (f : α → β) (a : α) :
    Except.map f (Except.ok a : Except ε α) = Except.ok (f a) := rfl

@[simp] theorem exceptMap_error {ε α β : Type} (f : α → β) (e : ε) :
    Except.map f (Except.error e : Except ε α) = Except.error e := rfl

@[simp] theorem exceptBind_ok {ε α β : Type} (a : α) (f : α → Except ε β) :
    Except.bind (Except.ok a) f = f a := rfl

@[simp] theorem exceptBind_error {ε α β : Type} (e : ε) (f : α → Except ε β) :
    Except.bind (Except.error e) f = Except.error e := rfl

/-- The value an `any` holds after `x := any(v)` for `v` of type `t`: an interface-typed
`v` is stored as its own content, any other as the pair of its type and payload. -/
def toAny (t : GoType) (v : Val) : Val :=
  if t.kind = .interface then v else .iface t v

/-- `reflect.Value`: the zero `Value`, or a value of a type; `ro` is set on a value
obtained through an unexported struct field. -/
inductive Value
  | invalid
  | mk (t : GoType) (v : Val) (ro : Bool)

namespace Value

/-- `reflect.ValueOf(x)` for `x` of type `any`. -/
def ofAny : Val → Value
  | .iface t v => mk t v false
  | _ => invalid

/-- `Value.Kind`. -/
def kind : Value → Kind
  | invalid => .invalid
  | mk t _ _ => t.kind

/-- `Value.Interface`: panics on a value obtained through an unexported field. -/
def interface : Value → Except Panic Val
  | invalid => .error ⟨"reflect: call of reflect.Value.Interface on zero Value"⟩
  | mk t v ro =>
    if ro then .error ⟨"reflect.Value.Interface: cannot return value obtained from unexported field or method"⟩
    else .ok (toAny t v)

@[simp] theorem kind_ofAny_iface (t : GoType) (v : Val) : (ofAny (.iface t v)).kind = t.kind :=
  rfl

end Value

/-- `v.Field(i)` of a struct value `v` (not itself read-only), for the field declared as
`f` holding `x`. -/
def fieldValue (f : FieldDecl GoType) (x : Val) : Value :=
  .mk f.type x (!f.exported)

/-- `reflect.TypeOf(x).NumField()`, returning the fields: a nil `x` gives a nil `Type`,
whose method call dereferences nil; a non-struct type panics in `reflect`. -/
def numFieldOf : Val → Except Panic (List (FieldDecl GoType))
  | .iface t _ => match t.structFields with
    | some fs => .ok fs
    | none => .error ⟨"reflect: NumField of non-struct type " ++ t.str⟩
  | _ => .error ⟨"runtime error: invalid memory address or nil pointer dereference"⟩

end Go
end Xredis
