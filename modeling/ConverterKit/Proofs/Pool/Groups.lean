import ConverterKit.Proofs.Pool.Session

/-!
# A journal is made of groups

Operations of a pool note their deeds in small groups, and nothing comes between the deeds of one
group: a factory call may run the whole of the interface, but it does so before one group or after
another. A property of journals that holds of each group, and of two journals one after the other if
it holds of both, therefore holds of every journal there is.

## Main definitions

* `Grouped`: a property of journals that holds of each group and of journals put together

## Main results

* `Runs.of_grouped`, `Desk.Visits.of_grouped`, `session_of_grouped`: such a property holds of the
  journal of every run, of every list of requests and of every session
-/

namespace ConverterKit

namespace Pool

variable {ε α β : Type}

/-- A property of journals that holds of each group of deeds and of journals put together. -/
structure Grouped (P : List (Deed ε α) → Prop) : Prop where
  /-- It holds where nothing is noted. -/
  nil : P []
  /-- It holds of two journals one after the other. -/
  append : ∀ {J K}, P J → P K → P (J ++ K)
  /-- A factory call begins. -/
  callBegan : ∀ idle, P [.callBegan idle]
  /-- A factory call ends. -/
  callEnded : ∀ e, P [.callEnded e]
  /-- A factory call made for an instance has ended. -/
  failure : ∀ kind e, P (failureDeeds kind e)
  /-- A get is served from the idle instances. -/
  hit : ∀ a, P [.served a, .counted .hit, .getEnded (.ok a)]
  /-- A get that asked the factory has ended. -/
  miss : ∀ kind e, P (missDeeds kind e ++ [.getEnded e])
  /-- An instance is released. -/
  release : ∀ a, P (releaseDeeds a)
  /-- A growth adds an instance. -/
  addition : ∀ a, P (additionDeeds a)
  /-- A growth begins. -/
  growBegan : ∀ count, P [.growBegan count]
  /-- A growth ends. -/
  growth : ∀ (p : Pool α) count e, P (growthDeeds p count e ++ [.growEnded count e])
  /-- A pool is ready. -/
  ready : ∀ kind initial e, P (readyDeeds kind initial e)

variable {P : List (Deed ε α) → Prop} {f : Factory ε α} {depth : Nat} {J : List (Deed ε α)}

/-- **The journal of every run** has the property. -/
theorem Runs.of_grouped (hP : Grouped P) {task : Task ε α β} {p : Pool α} {e : Ending ε β}
    (h : Runs f depth task p J e) : P J := by
  induction h with
  | tooDeep | addedAll | grewByNone | makes | fails | panics => exact hP.nil
  | called h ih => exact hP.append (hP.callBegan _) (hP.append ih (hP.callEnded _))
  | made h ih => exact hP.append ih (hP.failure _ _)
  | hit hidle => exact hP.hit _
  | missed hidle h ih => exact hP.append ih (hP.miss _ _)
  | released => exact hP.release _
  | added hmake h ihmake ih => exact hP.append ihmake (hP.append (hP.addition _) ih)
  | addStopped hmake he ih => exact ih
  | @growRefused n p count hcount hroom =>
    exact hP.append (hP.growBegan count) (hP.growth p count (.panicked "capacity overflow"))
  | grew hcount hroom h ih => exact hP.append (hP.growBegan _) (hP.append ih (hP.growth _ _ _))
  | releases h ih => exact hP.append (hP.release _) ih
  | grows hgrow hr h ihgrow ih => exact hP.append ihgrow ih
  | growStopped hgrow hr he ih => exact ih
  | gets hget hr h ihget ih => exact hP.append ihget ih
  | getStopped hget hr he ih => exact ih

namespace Desk

/-- The journal of every request has the property. -/
theorem Serves.of_grouped (hP : Grouped P) {d d' : Desk α} {r : Request α}
    {e : Ending ε (Reply α)} (h : Serves f depth d r J e d') : P J := by
  cases h with
  | handedOut hr h | notHandedOut hr h | grown hr h | notGrown hr h => exact h.of_grouped hP
  | given hr => exact hP.release _
  | settled hr => exact hP.nil

/-- **The journal of every list of requests** has the property. -/
theorem Visits.of_grouped (hP : Grouped P) {d d' : Desk α} {requests : List (Request α)}
    {es : List (Ending ε (Reply α))} (h : Visits f depth d requests J es d') : P J := by
  induction h with
  | nil => exact hP.nil
  | cons h hs ih => exact hP.append (h.of_grouped hP) ih

end Desk

/-- **The journal of every session** has the property. -/
theorem session_of_grouped (hP : Grouped P) (f : Factory ε α) (kind : Kind) (depth : Nat)
    (initial : UInt64) (requests : List (Request α)) :
    P (session f kind depth initial requests).journal.toList := by
  obtain ⟨J, K, d, h, -, hvisits, hsession⟩ := exists_session f kind depth initial requests
  rw [hsession]
  exact hP.append (hP.append (h.of_grouped hP) (hP.ready kind initial _)) (hvisits.of_grouped hP)

end Pool

end ConverterKit
