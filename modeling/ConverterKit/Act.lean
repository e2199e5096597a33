/-!
# Acts

Almost everything in this library runs in the company of code it does not know: a factory that
makes instances, a callback of the host, a conversion routine. Such code may succeed, report an
error, or panic, and whichever it does the state it leaves behind goes on being used. An *act*
makes all of this explicit: it is a function from a *scene*, a state with the journal of deeds
noted so far, to the way it ended and the scene it left.

Code that calls back into the library can nest without bound, so an act that runs such code is
indexed by how deep it may nest. Running out of depth is a fourth ending, `Ending.unfinished`,
kept apart from the three real ones; a statement about an act speaks of the runs that did not end
that way.

## Main definitions

* `Ending`: success, error, panic, or nested too deep
* `Act`: a monad in which every ending but success stops the rest
* `Act.settle`, `Act.conclude`: turn an ending into a value and back, for clean-up code
* `Act.attempt`: turn an error, and only an error, into a value
* `Act.rescue`: turn a panic, and only a panic, into a value
* `Upshot`: what code that catches errors and panics learns about the end of an act
* `Act.within`: run an act on a part of a larger state

## Main results

* `Act.bind_apply`: what two acts do of which the second goes on with the value of the first
* `Act.exists_of_bind_eq_ok`: such a pair succeeds only if both do
-/

namespace ConverterKit

/-- How an act ended. -/
inductive Ending (ε α : Type) where
  /-- The act succeeded with a value. -/
  | ok (value : α)
  /-- The act reported an error. -/
  | error (reason : ε)
  /-- The act panicked; clean-up code still ran. -/
  | panicked (message : String)
  /-- The act nested deeper than it was allowed to. -/
  | unfinished
deriving DecidableEq

namespace Ending

variable {ε ε' α : Type}

/-- Go on with a function of the value, if there is one. -/
def map {β : Type} (f : α → β) : Ending ε α → Ending ε β
  | .ok a => .ok (f a)
  | .error e => .error e
  | .panicked m => .panicked m
  | .unfinished => .unfinished

/-- Translate the error of an ending. -/
def mapError (f : ε → ε') : Ending ε α → Ending ε' α
  | .ok a => .ok a
  | .error e => .error (f e)
  | .panicked m => .panicked m
  | .unfinished => .unfinished

/-- Whether the act succeeded. -/
def isOk : Ending ε α → Bool
  | .ok _ => true
  | _ => false

@[simp] theorem mapError_id (e : Ending ε α) : e.mapError id = e := by
  cases e <;> rfl

@[simp] theorem isOk_mapError (f : ε → ε') (e : Ending ε α) : (e.mapError f).isOk = e.isOk := by
  cases e <;> rfl

end Ending

/-- What code that catches errors and panics learns about the end of an act: the message of the
panic, or else the error or the value. -/
abbrev Upshot (ε α : Type) : Type := Except String (Except ε α)

/-- A state together with the deeds noted so far, oldest first. -/
structure Scene (σ δ : Type) where
  /-- The state that acts read and change. -/
  state : σ
  /-- What has been noted, in chronological order. -/
  journal : Array δ

/-- A scene in which nothing has been noted yet. -/
def Scene.fresh {σ δ : Type} (state : σ) : Scene σ δ := ⟨state, #[]⟩

/-- A computation on a scene that ends in one of the ways of `Ending`. -/
def Act (σ δ ε α : Type) : Type := Scene σ δ → Ending ε α × Scene σ δ

namespace Act

variable {σ σ' δ δ' ε ε' α β : Type}

/-- Succeed without doing anything. -/
def succeed (a : α) : Act σ δ ε α := fun s => (.ok a, s)

/-- Go on with the value of an act; any other ending is the ending of the whole. -/
def andThen (a : Act σ δ ε α) (f : α → Act σ δ ε β) : Act σ δ ε β := fun s =>
  match a s with
  | (.ok x, t) => f x t
  | (.error e, t) => (.error e, t)
  | (.panicked m, t) => (.panicked m, t)
  | (.unfinished, t) => (.unfinished, t)

instance : Monad (Act σ δ ε) where
  pure := succeed
  bind := andThen

/-- End with an error. -/
def fail (e : ε) : Act σ δ ε α := fun s => (.error e, s)

/-- End with a panic. -/
def panic (message : String) : Act σ δ ε α := fun s => (.panicked message, s)

/-- Give up because no further nesting is allowed. -/
def unfinished : Act σ δ ε α := fun s => (.unfinished, s)

/-- The current state. -/
def state : Act σ δ ε σ := fun s => (.ok s.state, s)

/-- Replace the state. -/
def put (t : σ) : Act σ δ ε Unit := fun s => (.ok (), { s with state := t })

/-- Change the state. -/
def modify (f : σ → σ) : Act σ δ ε Unit := fun s => (.ok (), { s with state := f s.state })

/-- Add a deed to the journal. -/
def note (d : δ) : Act σ δ ε Unit := fun s => (.ok (), { s with journal := s.journal.push d })

/-- Run an act and hand over its ending as a value, whatever it is. -/
def settle (a : Act σ δ ε α) : Act σ δ ε' (Ending ε α) := fun s =>
  match a s with
  | (e, t) => (.ok e, t)

/-- End in the given way. -/
def conclude (e : Ending ε α) : Act σ δ ε α := fun s => (e, s)

/-- Run an act and hand over its value or its error; a panic stays a panic. -/
def attempt (a : Act σ δ ε α) : Act σ δ ε' (Except ε α) := fun s =>
  match a s with
  | (.ok x, t) => (.ok (.ok x), t)
  | (.error e, t) => (.ok (.error e), t)
  | (.panicked m, t) => (.panicked m, t)
  | (.unfinished, t) => (.unfinished, t)

/-- Run an act and hand over its value or the message of its panic; an error stays an error. -/
def rescue (a : Act σ δ ε α) : Act σ δ ε (Except String α) := fun s =>
  match a s with
  | (.ok x, t) => (.ok (.ok x), t)
  | (.error e, t) => (.error e, t)
  | (.panicked m, t) => (.ok (.error m), t)
  | (.unfinished, t) => (.unfinished, t)

/-- Succeed with a value or end with an error. -/
def ofExcept : Except ε α → Act σ δ ε α
  | .ok a => succeed a
  | .error e => fail e

/-- Run an act on a part of the state. The part is read with `get` and written back with `set`,
whatever the ending; the deeds noted by the act join the journal, translated by `deed`. -/
def within (get : σ → σ') (set : σ' → σ → σ) (deed : δ' → δ) (err : ε' → ε)
    (a : Act σ' δ' ε' α) : Act σ δ ε α := fun s =>
  match a (Scene.fresh (get s.state)) with
  | (e, t) => (e.mapError err, ⟨set t.state s.state, s.journal ++ t.journal.map deed⟩)

/-! ## What each operation does -/

@[simp] theorem pure_apply (a : α) (s : Scene σ δ) :
    (pure a : Act σ δ ε α) s = (.ok a, s) := rfl

theorem bind_apply (a : Act σ δ ε α) (f : α → Act σ δ ε β) (s : Scene σ δ) :
    (a >>= f) s =
      match a s with
      | (.ok x, t) => f x t
      | (.error e, t) => (.error e, t)
      | (.panicked m, t) => (.panicked m, t)
      | (.unfinished, t) => (.unfinished, t) := rfl

theorem bind_of_ok {a : Act σ δ ε α} {f : α → Act σ δ ε β} {s t : Scene σ δ} {x : α}
    (h : a s = (.ok x, t)) : (a >>= f) s = f x t := by
  simp [bind_apply, h]

theorem bind_of_error {a : Act σ δ ε α} {f : α → Act σ δ ε β} {s t : Scene σ δ} {e : ε}
    (h : a s = (.error e, t)) : (a >>= f) s = (.error e, t) := by
  simp [bind_apply, h]

theorem bind_of_panicked {a : Act σ δ ε α} {f : α → Act σ δ ε β} {s t : Scene σ δ} {m : String}
    (h : a s = (.panicked m, t)) : (a >>= f) s = (.panicked m, t) := by
  simp [bind_apply, h]

theorem bind_of_unfinished {a : Act σ δ ε α} {f : α → Act σ δ ε β} {s t : Scene σ δ}
    (h : a s = (.unfinished, t)) : (a >>= f) s = (.unfinished, t) := by
  simp [bind_apply, h]

/-- An act followed by another one succeeds only if both do. -/
theorem exists_of_bind_eq_ok {a : Act σ δ ε α} {f : α → Act σ δ ε β} {s t : Scene σ δ} {y : β}
    (h : (a >>= f) s = (.ok y, t)) : ∃ x u, a s = (.ok x, u) ∧ f x u = (.ok y, t) := by
  rcases ha : a s with ⟨x | e | m | _, u⟩
  · exact ⟨x, u, rfl, by rwa [bind_of_ok ha] at h⟩
  · exact absurd (Prod.mk.inj ((bind_of_error ha).symm.trans h)).1 nofun
  · exact absurd (Prod.mk.inj ((bind_of_panicked ha).symm.trans h)).1 nofun
  · exact absurd (Prod.mk.inj ((bind_of_unfinished ha).symm.trans h)).1 nofun

@[simp] theorem fail_apply (e : ε) (s : Scene σ δ) :
    (fail e : Act σ δ ε α) s = (.error e, s) := rfl

@[simp] theorem panic_apply (m : String) (s : Scene σ δ) :
    (panic m : Act σ δ ε α) s = (.panicked m, s) := rfl

@[simp] theorem unfinished_apply (s : Scene σ δ) :
    (unfinished : Act σ δ ε α) s = (.unfinished, s) := rfl

@[simp] theorem state_apply (s : Scene σ δ) :
    (state : Act σ δ ε σ) s = (.ok s.state, s) := rfl

@[simp] theorem put_apply (t : σ) (s : Scene σ δ) :
    (put t : Act σ δ ε Unit) s = (.ok (), ⟨t, s.journal⟩) := rfl

@[simp] theorem modify_apply (f : σ → σ) (s : Scene σ δ) :
    (modify f : Act σ δ ε Unit) s = (.ok (), ⟨f s.state, s.journal⟩) := rfl

@[simp] theorem note_apply (d : δ) (s : Scene σ δ) :
    (note d : Act σ δ ε Unit) s = (.ok (), ⟨s.state, s.journal.push d⟩) := rfl

@[simp] theorem settle_apply (a : Act σ δ ε α) (s : Scene σ δ) :
    (settle a : Act σ δ ε' (Ending ε α)) s = (.ok (a s).1, (a s).2) := rfl

@[simp] theorem conclude_apply (e : Ending ε α) (s : Scene σ δ) :
    (conclude e : Act σ δ ε α) s = (e, s) := rfl

theorem attempt_apply (a : Act σ δ ε α) (s : Scene σ δ) :
    (attempt a : Act σ δ ε' (Except ε α)) s =
      match a s with
      | (.ok x, t) => (.ok (.ok x), t)
      | (.error e, t) => (.ok (.error e), t)
      | (.panicked m, t) => (.panicked m, t)
      | (.unfinished, t) => (.unfinished, t) := rfl

theorem rescue_apply (a : Act σ δ ε α) (s : Scene σ δ) :
    rescue a s =
      match a s with
      | (.ok x, t) => (.ok (.ok x), t)
      | (.error e, t) => (.error e, t)
      | (.panicked m, t) => (.ok (.error m), t)
      | (.unfinished, t) => (.unfinished, t) := rfl

/-- What succeeds succeeds under a rescue, and nothing else seems to. -/
theorem rescue_eq_ok_iff {a : Act σ δ ε α} {s t : Scene σ δ} {x : α} :
    rescue a s = (.ok (.ok x), t) ↔ a s = (.ok x, t) := by
  rw [rescue_apply]
  rcases a s with ⟨_ | _ | _ | _, _⟩ <;> simp

/-- What panics is rescued, and nothing else is. -/
theorem rescue_eq_error_iff {a : Act σ δ ε α} {s t : Scene σ δ} {m : String} :
    rescue a s = (.ok (.error m), t) ↔ a s = (.panicked m, t) := by
  rw [rescue_apply]
  rcases a s with ⟨_ | _ | _ | _, _⟩ <;> simp

/-- A rescue goes on into what comes after a first act that succeeds. -/
theorem rescue_bind_of_ok {a : Act σ δ ε α} {f : α → Act σ δ ε β} {s t : Scene σ δ} {x : α}
    (h : a s = (.ok x, t)) : rescue (a >>= f) s = rescue (f x) t := by
  rw [rescue_apply, bind_of_ok h, rescue_apply]

/-- An act leaves the same scene whether or not its panics are caught. -/
@[simp] theorem scene_rescue (a : Act σ δ ε α) (s : Scene σ δ) : (rescue a s).2 = (a s).2 := by
  rw [rescue_apply]
  rcases a s with ⟨_ | _ | _ | _, _⟩ <;> rfl

/-- An act leaves the same scene whether or not its errors are caught. -/
@[simp] theorem scene_attempt (a : Act σ δ ε α) (s : Scene σ δ) :
    (attempt a s : Ending ε' (Except ε α) × _).2 = (a s).2 := by
  rw [attempt_apply]
  rcases a s with ⟨_ | _ | _ | _, _⟩ <;> rfl

instance : LawfulMonad (Act σ δ ε) := LawfulMonad.mk' _
  (fun a => funext fun s => by
    change (match a s with
      | (.ok x, t) => (.ok x, t)
      | (.error e, t) => (.error e, t)
      | (.panicked m, t) => (.panicked m, t)
      | (.unfinished, t) => (.unfinished, t)) = a s
    rcases a s with ⟨_ | _ | _ | _, _⟩ <;> rfl)
  (fun _ _ => rfl)
  (fun a f g => funext fun s => by
    simp only [bind_apply]
    rcases a s with ⟨_ | _ | _ | _, _⟩ <;> rfl)

end Act

end ConverterKit
