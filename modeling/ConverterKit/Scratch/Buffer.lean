import ConverterKit.Config.Basic
import ConverterKit.Pool.Basic
import ConverterKit.Text.Hex

/-!
# Scratch buffers

A buffer is a row of bytes that a conversion routine writes its message into. Buffers are numbered
in the order in which their pool had them made, so that one can tell them apart, and know for how
many bytes they have room without growing.

## Main definitions

* `Scratch.Buffer`: a buffer, with `clear`, `append` and `truncate`
* `Scratch.Supply`: how the buffers of a pool come into being
-/

namespace ConverterKit

namespace Scratch

/-- A row of bytes with room for more. -/
structure Buffer where
  /-- The number of the factory call that made the buffer. -/
  number : Nat
  /-- How many bytes the buffer has room for, at least. -/
  room : Nat
  /-- What is in the buffer. -/
  bytes : List UInt8
deriving DecidableEq

namespace Buffer

/-- Change what is in a buffer; the room it has is never given up. -/
def edit (f : List UInt8 → List UInt8) (b : Buffer) : Buffer :=
  let bytes := f b.bytes
  { b with bytes, room := max b.room bytes.length }

/-- An empty buffer with the same room. -/
def clear (b : Buffer) : Buffer := { b with bytes := [] }

@[simp] theorem number_edit (f : List UInt8 → List UInt8) (b : Buffer) :
    (b.edit f).number = b.number := rfl

@[simp] theorem bytes_edit (f : List UInt8 → List UInt8) (b : Buffer) :
    (b.edit f).bytes = f b.bytes := rfl

@[simp] theorem number_clear (b : Buffer) : b.clear.number = b.number := rfl

@[simp] theorem bytes_clear (b : Buffer) : b.clear.bytes = [] := rfl

end Buffer

/-- How the buffers of a pool come into being. -/
inductive Supply where
  /-- Empty, with room for so many bytes. -/
  | withRoom (capacity : UInt64)
  /-- With something in it already. -/
  | holding (bytes : List UInt8)

namespace Supply

/-- The bytes that a buffer takes where a stack keeps it: its pointer, length and capacity. -/
def bufferSize : Nat := 24

/-- The call with the given number. No buffer can have room for more bytes than may be reserved at
once; asking for one panics. -/
def script (s : Supply) (number : Nat) : Pool.Script Empty Buffer :=
  match s with
  | .withRoom capacity =>
    if Pool.reservable < capacity.toNat then .panic "capacity overflow"
    else .make { number, room := capacity.toNat, bytes := [] }
  | .holding bytes => .make { number, room := bytes.length, bytes }

/-- The factory of buffers of this kind. It never fails and never uses the pool. -/
def factory (s : Supply) : Pool.Factory Empty Buffer where
  instanceSize := bufferSize
  script := s.script

end Supply

end Scratch

end ConverterKit
