import ConverterKit.Resolution.Resolver

/-!
# Runs of a resolver

Whatever is done with a resolver, and whatever happens to its host meanwhile, is a list of *moves*.
The host may change on its own between two uses of the resolver; the ways in which it can do so are
part of the *surroundings* of the resolver, next to the callbacks.

A run starts from a new resolver, with or without a cache, and makes the moves one after the other.
A panic ends the move it happens in and nothing else.

## Main definitions

* `Resolution.Surroundings`: callbacks, and changes of the host
* `Resolution.Move`, `Resolution.Reply`: one step of a run, and how it is answered
* `Resolution.Surroundings.after`: the scene a run leaves
* `Resolution.Surroundings.answers`: what the resolves and lookups of a run are answered
* `Resolution.Surroundings.moments`: the states of the host during a run
-/

namespace ConverterKit

namespace Resolution

variable {κ H χ : Type}

/-- The code around a resolver: the callbacks behind the handles, and what the host may do on its
own. -/
structure Surroundings (κ H χ : Type) extends Callbacks κ H where
  /-- What a change makes of the host. -/
  change : χ → H → H

/-- One step of a run. -/
inductive Move (κ χ : Type) where
  /-- The host changes. -/
  | change (c : χ)
  /-- Resolve a service name. -/
  | resolve (name : String)
  /-- Look a service name up. -/
  | lookup (name : String)
  /-- Forget the id kept for a name. -/
  | invalidate (name : String)
  /-- Forget all ids. -/
  | clear
  /-- Ask this callback from now on. -/
  | register (callback : κ)
deriving DecidableEq

/-- How a move is answered. -/
inductive Reply where
  /-- It was done. -/
  | done
  /-- An id, or why there is none. -/
  | resolved (result : Except ConversionError ServiceId)
  /-- What a lookup found. -/
  | found (outcome : Outcome) (id? : Option ServiceId)
  /-- The id that was forgotten. -/
  | forgotten (id? : Option ServiceId)

/-- What a lookup shows of a result: whether there is an id, but not why there is none. -/
def Reply.ofLookup : Except ConversionError ServiceId → Reply
  | .ok id => .found .success (some id)
  | .error _ => .found .failure none

namespace Move

/-- The name a move asks the id of, if it asks for one. -/
def name? : Move κ χ → Option String
  | .resolve name => some name
  | .lookup name => some name
  | _ => none

/-- The callback a move registers, if it registers one. -/
def callback? : Move κ χ → Option κ
  | .register k => some k
  | _ => none

end Move

/-- A new resolver and its host. -/
def Session.start (cacheServiceIds : Bool) (host : H) : Scene (Session κ H) (Deed κ H) :=
  .fresh { resolver := .new cacheServiceIds, host }

namespace Surroundings

variable (w : Surroundings κ H χ) (depth : Nat)

/-- Make a move. -/
def perform : Move κ χ → Session.Work κ H Reply
  | .change c => do
    Session.setHost (w.change c (← Act.state).host)
    return .done
  | .resolve name => do return .resolved (← w.resolve depth name)
  | .lookup name => do
    let (outcome, id?) ← w.lookup depth name
    return .found outcome id?
  | .invalidate name => do return .forgotten (← Session.invalidate name)
  | .clear => do
    Session.clear
    return .done
  | .register k => do
    Session.register k
    return .done

/-- The scene after some moves. -/
def after (moves : List (Move κ χ)) (s : Scene (Session κ H) (Deed κ H)) :
    Scene (Session κ H) (Deed κ H) :=
  moves.foldl (fun s move => (w.perform depth move s).2) s

/-- What the resolves and lookups among some moves are answered, in their order. -/
def answers : List (Move κ χ) → Scene (Session κ H) (Deed κ H) → List (Ending Empty Reply)
  | [], _ => []
  | move :: moves, s =>
    let (ending, t) := w.perform depth move s
    if move.name?.isSome then ending :: answers moves t else answers moves t

/-- The states of the host during a run, as far as the host itself brings them about. -/
def moments : List (Move κ χ) → H → List H
  | [], host => [host]
  | .change c :: moves, host => host :: moments moves (w.change c host)
  | _ :: moves, host => moments moves host

theorem mem_moments_start (moves : List (Move κ χ)) (host : H) : host ∈ w.moments moves host := by
  induction moves with
  | nil => simp [moments]
  | cons move moves ih => cases move <;> simp [moments, ih]

/-! ## What the moves that ask nobody do -/

variable (s : Scene (Session κ H) (Deed κ H))

theorem perform_change (c : χ) :
    w.perform depth (.change c) s =
      (.ok .done, ⟨{ s.state with host := w.change c s.state.host },
        s.journal.push (.changed (w.change c s.state.host))⟩) := rfl

theorem perform_invalidate (name : String) :
    w.perform depth (.invalidate name) s =
      (.ok (.forgotten (s.state.resolver.kept? name)),
        ⟨{ s.state with resolver := s.state.resolver.forget name },
          s.journal.push (.invalidated name)⟩) := rfl

theorem perform_clear :
    w.perform depth .clear s =
      (.ok .done, ⟨{ s.state with resolver := s.state.resolver.clear },
        s.journal.push .cleared⟩) := rfl

theorem perform_register (k : κ) :
    w.perform depth (.register k) s =
      (.ok .done, ⟨{ s.state with resolver := s.state.resolver.register k },
        s.journal.push (.registered k)⟩) := rfl

/-- A resolve that is answered passes its result on. -/
theorem perform_resolve {name : String} {result : Except ConversionError ServiceId}
    {t : Scene (Session κ H) (Deed κ H)} (h : w.resolve depth name s = (.ok result, t)) :
    w.perform depth (.resolve name) s = (.ok (.resolved result), t) :=
  Act.bind_of_ok h

/-- A lookup that is answered shows of its result what a lookup shows. -/
theorem perform_lookup {name : String} {result : Except ConversionError ServiceId}
    {t : Scene (Session κ H) (Deed κ H)} (h : w.resolve depth name s = (.ok result, t)) :
    w.perform depth (.lookup name) s = (.ok (.ofLookup result), t) := by
  simp only [perform, Callbacks.lookup, Act.bind_apply, h]
  cases result <;> rfl

end Surroundings

end Resolution

end ConverterKit
