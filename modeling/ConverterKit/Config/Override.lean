import ConverterKit.Act
import ConverterKit.Config.Basic
import ConverterKit.Log

/-!
# Overrides from the environment

Each of the three settings can be overridden by a variable of the environment. A variable whose text
does not say a value of the right kind is as good as none, so a typing error in the environment
never stops a converter.

## Main definitions

* `Config.sizeOfText?`, `Config.flagOfText?`: the value a text says
* `Config.applyOverrides`: override what the environment overrides
-/

namespace ConverterKit

namespace Config

/-- What is noted while a configuration is put together. -/
inductive Deed where
  /-- The environment was asked for a variable. -/
  | asked (name : String)
  /-- An event was reported. -/
  | reported (event : Log.Event)

/-- The event a deed reports, if it is a report. -/
def Deed.event? : Deed → Option Log.Event
  | .reported e => some e
  | .asked _ => none

/-- The variable a deed asks for, if it does. -/
def Deed.asked? : Deed → Option String
  | .asked name => some name
  | .reported _ => none

/-- The size that a text says: an optional plus sign, then decimal digits of the ASCII range, at
least one, for a number below `2 ^ 64`. -/
def sizeOfText? (text : String) : Option UInt64 :=
  let digits := match text.toList with
    | '+' :: rest => rest
    | cs => cs
  if digits.isEmpty || !digits.all Char.isDigit then none
  else
    let n := Nat.ofDigitChars 10 digits 0
    if n < UInt64.size then some (UInt64.ofNat n) else none

/-- The truth value that a text says. -/
def flagOfText? (text : String) : Option Bool :=
  if text = "true" then some true
  else if text = "false" then some false
  else none

/-- The variable that overrides the number of initial buffers. -/
def initialSizeVariable : String := "CONVERTER_INITIAL_SIZE"

/-- The variable that overrides the room of a buffer. -/
def scratchCapacityVariable : String := "CONVERTER_SCRATCH_CAPACITY"

/-- The variable that overrides whether ids are kept. -/
def cacheServiceIdsVariable : String := "CONVERTER_CACHE_SERVICE_IDS"

/-- An act on a configuration. -/
abbrev Work (ε α : Type) : Type := Act Config Deed ε α

variable {ε : Type}

/-- Ask the environment for a variable and use its value, if its text says one. -/
def override {α : Type} (lookup : String → Option String) (name : String)
    (read? : String → Option α) (use : α → Config → Config) (report : α → Log.Event) :
    Work ε Unit := do
  Act.note (.asked name)
  match (lookup name).bind read? with
  | some a =>
    Act.modify (use a)
    Act.note (.reported (report a))
  | none => return ()

/-- The report of an override: the setting, and the new value under a name of its own. -/
def overridden (setting field : String) (value : Log.Field) : Log.Event where
  level := .debug
  message := setting ++ " overridden from environment"
  fields := [(field, value)]

/-- Override what the environment overrides. Every variable is asked for once, in a fixed order. -/
def applyOverrides (lookup : String → Option String) : Work ε Unit := do
  override lookup initialSizeVariable sizeOfText?
    (fun n c => { c with pool.initialSize := n })
    (fun n => overridden "initial_size" "size" (.number n.toNat))
  override lookup scratchCapacityVariable sizeOfText?
    (fun n c => { c with pool.scratchCapacity := n })
    (fun n => overridden "scratch_capacity" "capacity" (.number n.toNat))
  override lookup cacheServiceIdsVariable flagOfText?
    (fun b c => { c with resolution.cacheServiceIds := b })
    (fun b => overridden "cache_service_ids" "cache" (.flag b))

end Config

end ConverterKit
