import ConverterKit.Proofs.Pool.Counters

/-!
# Factories that leave their pool alone

Most factories know nothing of the pool they make instances for: a call returns an instance, reports
an error or panics, and that is all. What such a factory does is known from the numbers of its
calls. A call of it notes that it began and how it ended, so everything that is got from the pool or
released into it is got and released by the user.

## Main definitions

* `Factory.Aloof`: a factory whose calls leave the pool alone
* `Factory.outcome`: how the call with a given number ends
* `Deed.Quiet`: neither the end of a get nor a release

## Main results

* `Factory.Aloof.call`, `Factory.Aloof.make`: a call ends as its number says, and nothing else
  happens
* `Factory.Aloof.quiet_grow`, `Factory.Aloof.get`: only the end of a get is not quiet
* `Plan.aloof`: planned factories that leave the pool alone
-/

namespace ConverterKit

namespace Pool

variable {ε α β : Type}

/-! ## Deeds that hand nothing over -/

/-- The deed neither ends a get nor releases an instance. -/
def Deed.Quiet : Deed ε α → Prop
  | .getEnded _ => False
  | .released _ => False
  | _ => True

theorem Deed.Quiet.mark?_ne {d : Deed ε α} (h : d.Quiet) :
    d.mark? ≠ some .got ∧ d.mark? ≠ some .released := by
  cases d with
  | getEnded e => exact h.elim
  | released a => exact h.elim
  | callEnded e => cases e <;> exact ⟨nofun, nofun⟩
  | _ => exact ⟨nofun, nofun⟩

/-- In quiet deeds nothing is got and nothing released. -/
theorem occurrences_of_quiet {J : List (Deed ε α)} (h : ∀ d ∈ J, d.Quiet) :
    occurrences .got J = 0 ∧ occurrences .released J = 0 := by
  refine ⟨List.countP_eq_zero.mpr fun d hd => ?_, List.countP_eq_zero.mpr fun d hd => ?_⟩
  · simpa using (h d hd).mark?_ne.1
  · simpa using (h d hd).mark?_ne.2

/-! ## Calls that leave the pool alone -/

/-- The script leaves the pool alone. -/
def Script.Aloof : Script ε α → Prop
  | .make _ => True
  | .fail _ => True
  | .panic _ => True
  | _ => False

/-- How a script ends that leaves the pool alone. -/
def Script.ending : Script ε α → Ending ε α
  | .make a => .ok a
  | .fail reason => .error reason
  | .panic message => .panicked message
  | _ => .unfinished

namespace Factory

/-- Every call of the factory leaves the pool alone. -/
def Aloof (f : Factory ε α) : Prop := ∀ number, (f.script number).Aloof

/-- How the call with the given number ends. -/
def outcome (f : Factory ε α) (number : Nat) : Ending ε α := (f.script number).ending

namespace Aloof

variable {f : Factory ε α} {depth : Nat} {p : Pool α} {J : List (Deed ε α)}

/-- **A call ends as its number says**, and nothing else happens. -/
theorem call (hf : f.Aloof) {e : Ending ε α} (h : Runs f (depth + 1) .call p J e) :
    e = f.outcome p.calls ∧ J = [.callBegan p.idle, .callEnded e] := by
  have haloof := hf p.calls
  rw [outcome]
  cases h with
  | called hplay =>
    cases hscript : f.script p.calls with
    | make | fail | panic =>
      rw [hscript] at hplay
      cases hplay
      exact ⟨rfl, rfl⟩
    | _ =>
      rw [hscript] at haloof
      exact haloof.elim

/-- A call made for an instance does the same, and its error is counted. -/
theorem make (hf : f.Aloof) {e : Ending ε α} (h : Runs f (depth + 1) .make p J e) :
    e = f.outcome p.calls ∧
      J = [.callBegan p.idle, .callEnded e] ++ failureDeeds p.kind e := by
  cases h with
  | made hcall =>
    obtain ⟨he, rfl⟩ := hf.call hcall
    exact ⟨he, rfl⟩

theorem quiet_make (hf : f.Aloof) {e : Ending ε α} (h : Runs f (depth + 1) .make p J e) :
    ∀ d ∈ J, d.Quiet := by
  obtain ⟨-, rfl⟩ := hf.make h
  cases e <;> simp [failureDeeds, Deed.Quiet]

theorem quiet_add (hf : f.Aloof) {n : Nat} {e : Ending ε Unit}
    (h : Runs f (depth + 1) (.add n) p J e) : ∀ d ∈ J, d.Quiet := by
  induction n generalizing p J with
  | zero =>
    cases h
    exact nofun
  | succ n ih =>
    cases h with
    | @added _ _ _ a J K _ hmake hrest =>
      have hJ := hf.quiet_make hmake
      have hK := ih hrest
      simp only [List.forall_mem_append]
      exact ⟨hJ, by simp [additionDeeds, Deed.Quiet], hK⟩
    | addStopped hmake hstop => exact hf.quiet_make hmake

/-- **A growth is quiet.** -/
theorem quiet_grow (hf : f.Aloof) {count : UInt64} {e : Ending ε Unit}
    (h : Runs f (depth + 1) (.grow count) p J e) : ∀ d ∈ J, d.Quiet := by
  cases h with
  | grewByNone => exact nofun
  | growRefused => simp [Deed.Quiet]
  | grew hcount hroom hadd =>
    have hJ := hf.quiet_add hadd
    simp only [List.forall_mem_cons, List.forall_mem_append]
    refine ⟨trivial, hJ, ?_, trivial, nofun⟩
    cases e <;> simp [growthDeeds, Deed.Quiet]

/-- **A get is quiet until it ends.** -/
theorem get (hf : f.Aloof) {e : Ending ε α} (h : Runs f (depth + 1) .get p J e) :
    ∃ G, J = G ++ [.getEnded e] ∧ ∀ d ∈ G, d.Quiet := by
  cases h with
  | @hit _ _ a rest hidle => exact ⟨[.served a, .counted .hit], rfl, by simp [Deed.Quiet]⟩
  | missed hidle hmake =>
    refine ⟨_, (List.append_assoc _ _ _).symm, ?_⟩
    simp only [List.forall_mem_append]
    refine ⟨hf.quiet_make hmake, ?_⟩
    cases e <;> simp [missDeeds, Deed.Quiet]

end Aloof

end Factory

/-! ## Planned factories -/

/-- The action leaves the pool alone. -/
def Action.aloof : Action → Bool
  | .use _ _ _ => false
  | _ => true

/-- A plan whose actions leave the pool alone makes a factory that does. -/
theorem Plan.aloof {plan : Plan} (h : ∀ action ∈ plan.later :: plan.first, action.aloof = true) :
    plan.factory.Aloof := by
  intro number
  have hplanned : (plan.first.getD number plan.later).aloof = true := by
    rw [List.getD_eq_getElem?_getD]
    rcases hfirst : plan.first[number]? with _ | action
    · exact h _ List.mem_cons_self
    · exact h _ (List.mem_cons_of_mem _ (List.mem_of_getElem? hfirst))
  show ((plan.action number).script number).Aloof
  rw [Plan.action]
  cases haction : plan.first.getD number plan.later with
  | make | panic => trivial
  | fail e =>
    by_cases hfallible : plan.fallible = true <;>
      simp [hfallible, Action.script, Script.Aloof]
  | use =>
    rw [haction] at hplanned
    cases hplanned

end Pool

end ConverterKit
