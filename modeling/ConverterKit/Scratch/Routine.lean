import ConverterKit.Pool.Stats
import ConverterKit.Resolution.Callback
import ConverterKit.Scratch.Buffer

/-!
# Conversion routines

A conversion routine turns one message into bytes. It is lent a scratch buffer, writes into it,
resolves service names, and may have other routines run in between, in the same context or in
another one. Like a factory or a callback it may end well, report an error or panic, and it is
written down as a tree that branches on what it learns. The panics of what it calls it may catch or
let through.

## Main definitions

* `Scratch.Routine`: what a routine does
* `Scratch.Routine.orPanic`: how a routine goes on that catches no panics
-/

namespace ConverterKit

namespace Scratch

/-- What a conversion routine does, step by step. Callbacks have handles of type `κ`, the host has
states of type `H`, code of the host's that the routine runs yields values of type `β`, and the
routine itself ends with a value of type `ρ`. Contexts are known by their numbers. -/
inductive Routine (κ H β ρ : Type) where
  /-- End with a value. -/
  | finish (value : ρ)
  /-- Report an error. -/
  | fail (error : ConversionError)
  /-- Panic. -/
  | panic (message : String)
  /-- Look at the buffer. -/
  | read (next : Buffer → Routine κ H β ρ)
  /-- Change what is in the buffer. -/
  | edit (change : List UInt8 → List UInt8) (next : Routine κ H β ρ)
  /-- Resolve a service name, and go on even if a callback panics. -/
  | serviceId (name : String) (next : Upshot ConversionError ServiceId → Routine κ H β ρ)
  /-- Run another routine with a buffer of its own, and go on however it ends. -/
  | nest (context : Nat) (inner : Routine κ H β ρ)
      (next : Upshot ConversionError ρ → Routine κ H β ρ)
  /-- Grow the pool of buffers of a context, and go on even if that panics. -/
  | grow (context : Nat) (count : UInt64) (next : Except String Unit → Routine κ H β ρ)
  /-- Look at the statistics of the buffers of a context. -/
  | stats (context : Nat) (next : Pool.Stats → Routine κ H β ρ)
  /-- Run code of the host's, and go on even if it panics. -/
  | consult (program : Resolution.Program κ H β) (next : Except String β → Routine κ H β ρ)

/-- What is left of a routine that catches no panics. -/
def Routine.orPanic {κ H β ρ α : Type} (next : α → Routine κ H β ρ) :
    Except String α → Routine κ H β ρ
  | .ok a => next a
  | .error message => .panic message

end Scratch

end ConverterKit
