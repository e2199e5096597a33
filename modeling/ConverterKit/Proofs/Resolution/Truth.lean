import ConverterKit.Proofs.Resolution.Run

/-!
# What a callback tells

A callback may be a program that uses the resolver it answers for, so what it tells could depend on
what happens to be in the cache. This file says, without a cache and without a resolver, what a
callback tells when the mapping of its host is all that counts, or with which panic it ends:
`Callbacks.Tells`. Names that the callback resolves have the result that the registered callback
tells, and nothing it may read off the cache makes a difference.

## Scope

Only the mapping of the host is fixed. The rest of the host, such as a count of questions, may be
read and written freely as long as it has no influence on what is told.

## Main results

* `Callbacks.Tells.unique`: a mapping determines what is told
* `Callbacks.tells_over`: a callback that only looks at its host tells what it replies
-/

namespace ConverterKit

namespace Resolution

variable {κ H χ M β : Type}

/-- An outcome, and the slot of the event. -/
abbrev Answer : Type := Outcome × Option ServiceId

/-- The result of resolving a name whose callback gave this answer. -/
def verdict (name : String) : Answer → Except ConversionError ServiceId
  | (.success, some id) => .ok id
  | (.success, none) => .error (.serviceNotFound name .missingId)
  | (.failure, _) => .error (.serviceNotFound name .callbackFailure)

theorem verdict_eq_ok_iff (name : String) {a : Answer} {id : ServiceId} :
    verdict name a = .ok id ↔ a = (.success, some id) := by
  rcases a with ⟨_ | _, _ | _⟩ <;> simp [verdict]

/-! ## Programs over a mapping -/

/-- Over a host with the mapping `m`, and with such results and answers for the names and callbacks
it asks, the program ends with a `good` value or panic and leaves the mapping alone. Whatever the
cache shows it makes no difference. -/
def Program.Yields (mapping : H → M) (m : M)
    (known : String → Upshot ConversionError ServiceId → Prop)
    (told : κ → String → Except String Answer → Prop) (good : Except String β → Prop) :
    Program κ H β → Prop
  | .finish b => good (.ok b)
  | .panic message => good (.error message)
  | .readHost next => ∀ h, mapping h = m → (next h).Yields mapping m known told good
  | .writeHost h next => mapping h = m ∧ next.Yields mapping m known told good
  | .resolve name next => ∃ u, known name u ∧ (next u).Yields mapping m known told good
  | .invalidate _ next => ∀ id?, (next id?).Yields mapping m known told good
  | .clear next => next.Yields mapping m known told good
  | .status next => ∀ s, (next s).Yields mapping m known told good
  | .ask k name next => ∃ u, told k name u ∧ (next u).Yields mapping m known told good

/-- What is told by an invocation that gave an event back with an outcome, or panicked. -/
def telling : Except String (Outcome × Event) → Except String Answer :=
  Except.map fun (outcome, event) => (outcome, event.id?)

/-- What a callback tells about a name over a host with the mapping `m` while `current` is
registered, with callbacks nested in one another at most `n` deep. -/
def Callbacks.Tells (c : Callbacks κ H) (mapping : H → M) (m : M) (current : κ) :
    Nat → κ → String → Except String Answer → Prop
  | 0, _, _, _ => False
  | n + 1, k, name, u =>
    (c.answer k { name }).Yields mapping m
      (fun name v => ∃ u, c.Tells mapping m current n current name u ∧ v = u.map (verdict name))
      (c.Tells mapping m current n) (fun e => telling e = u)

theorem Callbacks.tells_succ {c : Callbacks κ H} {mapping : H → M} {m : M} {current : κ} {n : Nat}
    {k : κ} {name : String} {u : Except String Answer} :
    c.Tells mapping m current (n + 1) k name u ↔
      (c.answer k { name }).Yields mapping m
        (fun name v => ∃ u, c.Tells mapping m current n current name u ∧ v = u.map (verdict name))
        (c.Tells mapping m current n) (fun e => telling e = u) :=
  Iff.rfl

/-- Two accounts of a program that agree on what it asks agree on how it ends. -/
theorem Program.Yields.agree {mapping : H → M} {host : H}
    {known known' : String → Upshot ConversionError ServiceId → Prop}
    {told told' : κ → String → Except String Answer → Prop} {good good' : Except String β → Prop}
    {p : Program κ H β}
    (h : p.Yields mapping (mapping host) known told good)
    (h' : p.Yields mapping (mapping host) known' told' good')
    (hknown : ∀ name u u', known name u → known' name u' → u = u')
    (htold : ∀ k name u u', told k name u → told' k name u' → u = u') :
    ∃ e, good e ∧ good' e := by
  induction p with
  | finish b => exact ⟨.ok b, h, h'⟩
  | panic message => exact ⟨.error message, h, h'⟩
  | readHost next ih => exact ih host (h host rfl) (h' host rfl)
  | writeHost host next ih => exact ih h.2 h'.2
  | resolve name next ih =>
    obtain ⟨u, hu, h⟩ := h
    obtain ⟨u', hu', h'⟩ := h'
    obtain rfl := hknown name u u' hu hu'
    exact ih u h h'
  | invalidate name next ih => exact ih none (h none) (h' none)
  | clear next ih => exact ih h h'
  | status next ih =>
    let shown : Status := { hasCallback := true, caching := false, cached := 0 }
    exact ih shown (h shown) (h' shown)
  | ask k name next ih =>
    obtain ⟨u, hu, h⟩ := h
    obtain ⟨u', hu', h'⟩ := h'
    obtain rfl := htold k name u u' hu hu'
    exact ih u h h'

/-- **A mapping determines what is told**, however deep the callbacks may nest. -/
theorem Callbacks.Tells.unique {c : Callbacks κ H} {mapping : H → M} {host : H} {current : κ}
    {n n' : Nat} {k : κ} {name : String} {u u' : Except String Answer}
    (h : c.Tells mapping (mapping host) current n k name u)
    (h' : c.Tells mapping (mapping host) current n' k name u') : u = u' := by
  induction n generalizing n' k name u u' with
  | zero => exact h.elim
  | succ n ih =>
    cases n' with
    | zero => exact h'.elim
    | succ n' =>
      have hknown : ∀ name v v',
          (∃ u, c.Tells mapping (mapping host) current n current name u ∧
            v = u.map (verdict name)) →
          (∃ u, c.Tells mapping (mapping host) current n' current name u ∧
            v' = u.map (verdict name)) → v = v' := by
        rintro name _ _ ⟨u, hu, rfl⟩ ⟨u', hu', rfl⟩
        rw [ih hu hu']
      rw [tells_succ] at h h'
      obtain ⟨e, he, he'⟩ := h.agree h' hknown fun _ _ _ _ => ih
      exact he.symm.trans he'

/-! ## Callbacks that only look at their host -/

/-- Callbacks that look at the host and answer. -/
def Callbacks.over (generation : κ → H → Option UInt64) (reply : κ → H → Event → Outcome × Event) :
    Callbacks κ H where
  generation := generation
  answer k e := .readHost fun h => .finish (reply k h e)

/-- A callback that only looks at its host tells what it replies. -/
theorem Callbacks.tells_over (generation : κ → H → Option UInt64)
    (reply : κ → H → Event → Outcome × Event) (host : H) (current k : κ) (name : String) :
    (Callbacks.over generation reply).Tells id host current 1 k name
      (.ok ((reply k host { name }).1, (reply k host { name }).2.id?)) := by
  rintro h rfl
  rfl

end Resolution

end ConverterKit
