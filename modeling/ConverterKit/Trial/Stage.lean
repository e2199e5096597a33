import ConverterKit.Resolution.Resolver
import ConverterKit.Trial.Step

/-!
# The stage of a trial

The hosts of a trial and the trace of what happens in their callbacks are the state that the code of
the hosts works on. Here the steps of a trial become programs on that state, and the hosts become
callbacks.

## Main definitions

* `Trial.Stage`: the hosts and the trace
* `Trial.Step.program`: what a step does
* `Trial.callbacks`: the callbacks of the hosts
-/

namespace ConverterKit

namespace Trial

open Resolution (Outcome Directory)

/-- A host that answers from a script. -/
structure ScriptedHost where
  /-- The generation it reports. -/
  generation : Option UInt64 := none
  /-- Its responses by name, in the order in which they are given. -/
  responses : List (String × List Response) := []
  /-- How often it has been asked, by name. -/
  asked : NameMap Nat := .empty

/-- The name under which a scripted host keeps its responses to all other names. -/
def anyName : String := "*"

/-- The response of a scripted host to a name. The last response to a name is repeated for ever, and
a name without responses is not known. -/
def ScriptedHost.respond (s : ScriptedHost) (name : String) : Response × ScriptedHost :=
  let count := (s.asked.find? name).getD 0
  let responses := (Named.find? name s.responses <|> Named.find? anyName s.responses).getD []
  let response := (responses[count]? <|> responses.getLast?).getD {}
  (response, { s with asked := s.asked.insert name (count + 1) })

/-- A host of a trial. -/
inductive Host where
  | directory (d : Directory)
  | scripted (s : ScriptedHost)

namespace Host

/-- The generation that a host reports. -/
def generation : Host → Option UInt64
  | .directory d => some d.generation
  | .scripted s => s.generation

/-- Do something with a host. -/
def perform (h : Host) : HostStep → Reply × Host
  | .generation => (.generation h.generation, h)
  | .setGeneration generation =>
    match h with
    | .directory d => (.done, .directory d)
    | .scripted s => (.done, .scripted { s with generation := generation })
  | .insert name id =>
    match h with
    | .directory d =>
      let (previous, d) := d.insert name id
      (.slot previous, .directory d)
    | .scripted s => (.notDirectory, .scripted s)
  | .remove name =>
    match h with
    | .directory d =>
      let (removed, d) := d.remove name
      (.slot removed, .directory d)
    | .scripted s => (.notDirectory, .scripted s)
  | .get name =>
    match h with
    | .directory d => (.slot (d.get? name), .directory d)
    | .scripted s => (.notDirectory, .scripted s)

end Host

/-- The hosts of a trial and its trace. -/
structure Stage where
  hosts : Array Host := #[]
  trace : Array Trace := #[]

namespace Stage

/-- Add an entry to the trace. -/
def record (entry : Trace) (s : Stage) : Stage := { s with trace := s.trace.push entry }

/-- The stage with another host under a number. -/
def setHost (number : Nat) (h : Host) (s : Stage) : Stage :=
  { s with hosts := s.hosts.setIfInBounds number h }

/-- The generation that a host reports. -/
def generation (s : Stage) (number : Nat) : Option UInt64 := do (← s.hosts[number]?).generation

/-- A bound on how deep the callbacks of these hosts nest in any run that ends. On the way down a
response that is not the last one to its name is given once only, and a last one leads further down
no more than a few times unless it does so for ever. -/
def nesting (s : Stage) : Nat :=
  let total (ns : List Nat) : Nat := ns.foldl (· + ·) 0
  let size (r : Response) : Nat := 1 + r.effects.length
  let count : Host → Nat
    | .directory _ => 1
    | .scripted h => total (h.responses.map fun r => 1 + total (r.2.map size))
  64 + 4 * total (s.hosts.toList.map count)

end Stage

/-- Code of a host in a trial. -/
abbrev Program (β : Type) : Type := Resolution.Program Callback Stage β

/-- Add an entry to the trace. -/
def record (entry : Trace) : Program Unit := .changeHost (Stage.record entry)

/-- What a step does. Code of the host's runs only while the resolver is in use, so it cannot have
another callback registered or the resolver replaced. It lets panics through. -/
def Step.program : Step → Program Reply
  | .resolve name => .resolve name (.orPanic fun r => pure (.id r))
  | .lookup name => .resolve name (.orPanic fun
    | .ok id => pure (.found .success (some id))
    | .error _ => pure (.found .failure none))
  | .invalidate name => .invalidate name fun id? => pure (.slot id?)
  | .clear => .clear (pure .done)
  | .hasCallback => .status fun s => pure (.flag s.hasCallback)
  | .describe => .status fun s => pure (.text s.describe)
  | .register _ => pure .shared
  | .renew _ => pure .shared
  | .onHost number step => .readHost fun stage =>
    match stage.hosts[number]? with
    | some h =>
      let (reply, h) := h.perform step
      .writeHost (stage.setHost number h) (pure reply)
    | none => .panic "no such host"
  | .ask number name => .ask ⟨number, .shared⟩ name (.orPanic fun (outcome, id?) =>
    pure (.answered outcome id?))

/-- What a scripted host does with an event, effect by effect. -/
def playEffects (outcome : Outcome) : List Effect → Resolution.Event →
    Program (Outcome × Resolution.Event)
  | [], e => pure (outcome, e)
  | .assign id :: rest, e => playEffects outcome rest (e.assign id)
  | .assignLength :: rest, e =>
    playEffects outcome rest (e.assign (UInt16.ofNat e.name.utf8ByteSize))
  | .panic m :: _, _ => .panic m
  | .step s :: rest, e => do
    let reply ← s.program
    record (.inner reply)
    playEffects outcome rest e

/-- What the callback of a host does with an event. -/
def answer (number : Nat) (e : Resolution.Event) : Program (Outcome × Resolution.Event) :=
  .readHost fun stage =>
    match stage.hosts[number]? with
    | some (.directory d) => pure (d.answer e)
    | some (.scripted s) =>
      let (response, s) := s.respond e.name
      .writeHost (stage.setHost number (.scripted s))
        (playEffects response.outcome response.effects e)
    | none => .panic "no such host"

/-- The callbacks of the hosts of a trial. -/
def callbacks : Resolution.Callbacks Callback Stage where
  generation callback stage :=
    if callback.form.reportsGeneration then stage.generation callback.host else none
  answer callback e := do
    if callback.form.isTraced then
      record (.call callback.host e.name)
    answer callback.host e

end Trial

end ConverterKit
