import ConverterKit.Proofs.Pool.Session
import Mathlib.Algebra.BigOperators.Group.List.Basic
import Mathlib.Algebra.Ring.Int.Defs

/-!
# The idle instances in a run

Every instance that a run serves was idle and was the next one in line, and the tally of a queue is
its length throughout. So the idle instances after a run can be reckoned from its journal: they are
those from before and those added, less those served. The reckoning works for any way of weighing
instances; weighing each as one counts them.

## Main definitions

* `Idle.Tallied`: the tally, if the store keeps one, is right
* `Along`, `Fitting`: deeds that fit the pool at their moments, and what may be required of them
* `Pool.Supplies`: a pool can serve what is noted as served

## Main results

* `Idle.available_eq`: with a right tally, as many instances are idle as the store says
* `Runs.along`, `along_session`: the deeds of runs and sessions fit
* `Runs.supplies`: runs serve only what is there
* `Supplies.worth_after`: reckoning the idle instances from a journal
-/

namespace ConverterKit

namespace Pool

variable {ε α β : Type}

/-! ## The tally of a queue -/

namespace Idle

/-- The tally, if the store keeps one, is the number of idle instances. -/
def Tallied : Idle α → Prop
  | .stack _ => True
  | .queue line tally => tally = line.toList.length

theorem tallied_empty (kind : Kind) : (empty kind : Idle α).Tallied := by
  cases kind <;> simp [empty, Tallied, Line.toList]

theorem Tallied.push {idle : Idle α} (h : idle.Tallied) (a : α) : (idle.push a).Tallied := by
  cases idle with
  | stack items => trivial
  | queue line tally =>
    have htally : tally = line.toList.length := h
    simp [Idle.push, Tallied, htally]

theorem Tallied.of_pop? {idle rest : Idle α} {a : α} (h : idle.Tallied)
    (hpop : idle.pop? = some (a, rest)) : rest.Tallied := by
  match idle with
  | .stack [] => simp [pop?] at hpop
  | .stack (_ :: _) =>
    obtain ⟨rfl, rfl⟩ := by simpa [pop?] using hpop
    trivial
  | .queue line tally =>
    obtain ⟨⟨b, r⟩, hline, hrest⟩ := Option.map_eq_some_iff.mp hpop
    obtain ⟨rfl, rfl⟩ := Prod.mk.inj hrest
    have htally : tally = line.toList.length := h
    simp [Tallied, htally, Line.toList_of_pop? hline]

/-- **With a right tally, as many instances are idle as the store says.** -/
theorem available_eq {idle : Idle α} (h : idle.Tallied) : idle.available = idle.toList.length := by
  cases idle with
  | stack items => simp [available, toList]
  | queue line tally =>
    have htally : tally = line.toList.length := h
    simp [available, toList, htally]

/-- The instance served next is one of the idle ones, and the others stay. -/
theorem perm_of_pop? {idle rest : Idle α} {a : α} (h : idle.pop? = some (a, rest)) :
    idle.toList.Perm (a :: rest.toList) := by
  match idle with
  | .stack [] => simp [pop?] at h
  | .stack (_ :: _) =>
    obtain ⟨rfl, rfl⟩ := by simpa [pop?] using h
    simp [toList]
  | .queue line tally =>
    obtain ⟨⟨b, r⟩, hline, hrest⟩ := Option.map_eq_some_iff.mp h
    obtain ⟨rfl, rfl⟩ := Prod.mk.inj hrest
    simp [toList, Line.toList_of_pop? hline]

end Idle

theorem tallied_next {p : Pool α} (h : p.idle.Tallied) (d : Deed ε α) :
    (p.next d).idle.Tallied := by
  cases d with
  | added a => exact h.push a
  | served a =>
    simp only [next]
    split
    · next hpop => exact h.of_pop? hpop
    · exact h
  | _ => exact h

/-- The tally stays right whatever is done. -/
theorem tallied_after {p : Pool α} (h : p.idle.Tallied) (J : List (Deed ε α)) :
    (p.after J).idle.Tallied := by
  induction J generalizing p with
  | nil => exact h
  | cons d J ih => exact ih (tallied_next h d)

/-! ## Deeds at their moments -/

/-- Every deed fits the pool at its moment. -/
def Along (fits : Pool α → Deed ε α → Prop) : Pool α → List (Deed ε α) → Prop
  | _, [] => True
  | p, d :: J => fits p d ∧ Along fits (p.next d) J

theorem along_append {fits : Pool α → Deed ε α → Prop} {p : Pool α} {J K : List (Deed ε α)} :
    Along fits p (J ++ K) ↔ Along fits p J ∧ Along fits (p.after J) K := by
  induction J generalizing p with
  | nil => simp [Along]
  | cons d J ih => simp [Along, ih, and_assoc]

/-- What is required of the deeds of a pool: it is asked of the beginnings of factory calls, which
note what is idle, and of instances that are served, which are the next in line. -/
structure Fitting (fits : Pool α → Deed ε α → Prop) : Prop where
  /-- A call begins that notes what is idle. -/
  callBegan : ∀ p, fits p (.callBegan p.idle)
  /-- The instance is served that is next. -/
  served : ∀ p a rest, p.idle.pop? = some (a, rest) → fits p (.served a)
  /-- Nothing is required of the other deeds. -/
  other : ∀ p d, (∀ idle, d ≠ .callBegan idle) → (∀ a, d ≠ .served a) → fits p d

namespace Fitting

variable {fits : Pool α → Deed ε α → Prop}

/-- Nothing is required of these deeds. -/
theorem along_of_forall (hfits : Fitting fits) {J : List (Deed ε α)}
    (hbegan : ∀ idle, .callBegan idle ∉ J) (hserved : ∀ a, .served a ∉ J) (p : Pool α) :
    Along fits p J := by
  induction J generalizing p with
  | nil => trivial
  | cons d J ih =>
    refine ⟨hfits.other p d ?_ ?_, ih (fun idle hidle => ?_) (fun a ha => ?_) _⟩
    · rintro idle rfl
      exact hbegan idle List.mem_cons_self
    · rintro a rfl
      exact hserved a List.mem_cons_self
    · exact hbegan idle (List.mem_cons_of_mem _ hidle)
    · exact hserved a (List.mem_cons_of_mem _ ha)

theorem along_releaseDeeds (hfits : Fitting fits) (p : Pool α) (a : α) :
    Along fits p (releaseDeeds a) :=
  hfits.along_of_forall (by simp [releaseDeeds]) (by simp [releaseDeeds]) p

theorem along_readyDeeds (hfits : Fitting fits) (p : Pool α) (kind : Kind) (initial : UInt64)
    (e : Ending ε Unit) : Along fits p (readyDeeds kind initial e) := by
  cases e <;> exact hfits.along_of_forall (by simp [readyDeeds]) (by simp [readyDeeds]) p

end Fitting

/-- **The deeds of a run fit the pool at their moments.** -/
theorem Runs.along {fits : Pool α → Deed ε α → Prop} (hfits : Fitting fits) {f : Factory ε α}
    {depth : Nat} {task : Task ε α β} {p : Pool α} {J : List (Deed ε α)} {e : Ending ε β}
    (h : Runs f depth task p J e) : Along fits p J := by
  induction h with
  | tooDeep | addedAll | grewByNone | makes | fails | panics => trivial
  | called h ih =>
    refine ⟨?_, along_append.mpr ⟨ih, hfits.along_of_forall (by simp) (by simp) _⟩⟩
    exact hfits.callBegan _
  | @made n p J e h ih =>
    refine along_append.mpr ⟨ih, hfits.along_of_forall ?_ ?_ _⟩ <;>
      cases e <;> simp [failureDeeds]
  | hit hidle =>
    exact ⟨hfits.served _ _ _ hidle, hfits.along_of_forall (by simp) (by simp) _⟩
  | @missed n p J e hidle h ih =>
    refine along_append.mpr ⟨ih, hfits.along_of_forall ?_ ?_ _⟩ <;>
      cases e <;> simp [missDeeds]
  | released => exact hfits.along_releaseDeeds _ _
  | added hmake h ihmake ih =>
    refine along_append.mpr ⟨ihmake, along_append.mpr ⟨?_, ih⟩⟩
    exact hfits.along_of_forall (by simp [additionDeeds]) (by simp [additionDeeds]) _
  | addStopped hmake he ih => exact ih
  | growRefused hcount hroom => exact hfits.along_of_forall (by simp) (by simp) _
  | @grew n p count J e hcount hroom h ih =>
    refine ⟨hfits.other _ _ nofun nofun, along_append.mpr ⟨ih, hfits.along_of_forall ?_ ?_ _⟩⟩ <;>
      cases e <;> simp [growthDeeds]
  | releases h ih => exact along_append.mpr ⟨hfits.along_releaseDeeds _ _, ih⟩
  | grows hgrow hr h ihgrow ih => exact along_append.mpr ⟨ihgrow, ih⟩
  | growStopped hgrow hr he ih => exact ih
  | gets hget hr h ihget ih => exact along_append.mpr ⟨ihget, ih⟩
  | getStopped hget hr he ih => exact ih

namespace Desk

variable {f : Factory ε α} {depth : Nat} {fits : Pool α → Deed ε α → Prop}

/-- The deeds of a request fit the pool at their moments. -/
theorem Serves.along (hfits : Fitting fits) {d d' : Desk α} {r : Request α} {J : List (Deed ε α)}
    {e : Ending ε (Reply α)} (h : Serves f depth d r J e d') : Along fits d.pool J := by
  cases h with
  | handedOut hr h | notHandedOut hr h | grown hr h | notGrown hr h => exact h.along hfits
  | given hr => exact hfits.along_releaseDeeds _ _
  | settled hr => trivial

/-- After a list of requests the pool is what the journal says. -/
theorem Visits.pool_eq {d d' : Desk α} {requests : List (Request α)} {J : List (Deed ε α)}
    {es : List (Ending ε (Reply α))} (h : Visits f depth d requests J es d') :
    d'.pool = d.pool.after J := by
  induction h with
  | nil => rfl
  | cons h hs ih => rw [ih, h.pool_eq, after_append]

/-- The deeds of a list of requests fit the pool at their moments. -/
theorem Visits.along (hfits : Fitting fits) {d d' : Desk α} {requests : List (Request α)}
    {J : List (Deed ε α)} {es : List (Ending ε (Reply α))} (h : Visits f depth d requests J es d') :
    Along fits d.pool J := by
  induction h with
  | nil => trivial
  | cons h hs ih => exact along_append.mpr ⟨h.along hfits, h.pool_eq ▸ ih⟩

end Desk

/-- **The deeds of a session fit the pool at their moments.** -/
theorem along_session {fits : Pool α → Deed ε α → Prop} (hfits : Fitting fits) (f : Factory ε α)
    (kind : Kind) (depth : Nat) (initial : UInt64) (requests : List (Request α)) :
    Along fits (empty kind) (session f kind depth initial requests).journal.toList := by
  obtain ⟨J, K, d, h, hopened, hvisits, hsession⟩ := exists_session f kind depth initial requests
  rw [hopened] at hvisits
  rw [hsession]
  exact along_append.mpr ⟨along_append.mpr ⟨h.along hfits, hfits.along_readyDeeds _ _ _ _⟩,
    hvisits.along hfits⟩

/-! ## What is served was there -/

/-- A pool can serve what is noted as served, at that moment. -/
def Supplies : Pool α → List (Deed ε α) → Prop
  | _, [] => True
  | p, d :: J => (∀ a, d = .served a → ∃ rest, p.idle.pop? = some (a, rest)) ∧ (p.next d).Supplies J

theorem supplies_append {p : Pool α} {J K : List (Deed ε α)} :
    p.Supplies (J ++ K) ↔ p.Supplies J ∧ (p.after J).Supplies K := by
  induction J generalizing p with
  | nil => simp [Supplies]
  | cons d J ih => simp [Supplies, ih, and_assoc]

/-- Nothing is noted as served here, so any pool can serve it. -/
theorem supplies_of_not_served {J : List (Deed ε α)} (h : ∀ a, .served a ∉ J) (p : Pool α) :
    p.Supplies J := by
  induction J generalizing p with
  | nil => trivial
  | cons d J ih =>
    refine ⟨fun a hd => absurd ?_ (h a), ih (fun a ha => h a (List.mem_cons_of_mem _ ha)) _⟩
    exact hd ▸ List.mem_cons_self

/-- Whatever is required of deeds in general, to be there is required of what is served. -/
theorem supplies_of_along {p : Pool α} {J : List (Deed ε α)}
    (h : ∀ fits : Pool α → Deed ε α → Prop, Fitting fits → Along fits p J) : p.Supplies J := by
  have hfits : Fitting fun (p : Pool α) (d : Deed ε α) =>
      ∀ a, d = .served a → ∃ rest, p.idle.pop? = some (a, rest) :=
    ⟨fun _ => nofun, fun _ _ rest hpop _ hd => ⟨rest, Deed.served.inj hd ▸ hpop⟩,
      fun _ _ _ hserved a hd => absurd hd (hserved a)⟩
  have halong := h _ hfits
  clear h hfits
  induction J generalizing p with
  | nil => trivial
  | cons d J ih => exact ⟨halong.1, ih halong.2⟩

/-- **A run serves only what is there.** -/
theorem Runs.supplies {f : Factory ε α} {depth : Nat} {task : Task ε α β} {p : Pool α}
    {J : List (Deed ε α)} {e : Ending ε β} (h : Runs f depth task p J e) : p.Supplies J :=
  supplies_of_along fun _ hfits => h.along hfits

/-! ## Reckoning the idle instances -/

/-- What the idle instances of a pool are worth together. -/
def worth (value : α → ℤ) (p : Pool α) : ℤ := (p.idle.toList.map value).sum

/-- By how much a deed changes what the idle instances are worth. -/
def gain (value : α → ℤ) : Deed ε α → ℤ
  | .added a => value a
  | .served a => - value a
  | _ => 0

theorem worth_next {value : α → ℤ} {p : Pool α} {d : Deed ε α}
    (h : ∀ a, d = .served a → ∃ rest, p.idle.pop? = some (a, rest)) :
    (p.next d).worth value = p.worth value + gain value d := by
  cases d with
  | added a => simp [next, worth, gain]
  | served a =>
    obtain ⟨rest, hpop⟩ := h a rfl
    have hsum := ((Idle.perm_of_pop? hpop).map value).sum_eq
    simp only [next, hpop, worth, gain, hsum, List.map_cons, List.sum_cons]
    omega
  | _ => simp [next, worth, gain]

/-- **The idle instances are reckoned from the journal.** -/
theorem Supplies.worth_after {p : Pool α} {J : List (Deed ε α)} (h : p.Supplies J)
    (value : α → ℤ) : (p.after J).worth value = p.worth value + (J.map (gain value)).sum := by
  induction J generalizing p with
  | nil => simp
  | cons d J ih =>
    rw [after_cons, ih h.2, worth_next h.1, List.map_cons, List.sum_cons]
    omega

end Pool

end ConverterKit
