import ConverterKit.Proofs.Pool.Ledger

/-!
# No instance is lost and none is duplicated

A user who releases only what it holds, or what never was the pool's, and who keeps the instances
it holds, always has in its slots what was handed out to it and not released since. With the ledger
of the pool this accounts for every instance there is: what is idle, held or lost is what calls of
the factory made, what they released, and what the user brought. A factory whose calls return what
they get loses nothing.

## Main definitions

* `Desk.held`: what a user holds
* `Desk.fair`, `Desk.Fair`: requests of a user who keeps what it holds and releases nothing else
* `brought`: the instances a user brings

## Main results

* `Desk.Visits.account`: what the user holds is what was handed out and not released
* `instances_accounted_for`: where all the instances of a session are, with any factory
* `no_instance_lost`: with an honest factory, all of them are idle or held
-/

namespace ConverterKit

namespace Pool

variable {ε α : Type}

/-! ## What a user holds -/

/-- The instance in a slot, if there is one. -/
def Holder.item? : Holder α → Option α
  | .bare a => some a
  | .guarded g => g.item?
  | .vacant => none

/-- What is in a slot is worth. -/
def Holder.worth (value : α → ℤ) (h : Holder α) : ℤ := (h.item?.map value).getD 0

/-- The instances that a request brings from outside. -/
def Request.brought : Request α → Multiset α
  | .bring a => {a}
  | _ => 0

/-- The instances that a list of requests brings from outside. -/
def brought (requests : List (Request α)) : Multiset α := (requests.map Request.brought).sum

namespace Desk

/-- The instances that the user of a desk holds, bare or under a guard. -/
def held (d : Desk α) : Multiset α := (d.slots.toList.filterMap Holder.item? : List α)

/-- Whether a request is one of a user who keeps what it holds, unchanged, and releases nothing
else. -/
def fair (d : Desk α) : Request α → Bool
  | .releaseCopy _ => false
  | .amend _ _ => false
  | .drop slot =>
    match d.holder slot with
    | .bare _ => false
    | _ => true
  | _ => true

/-- Whether all requests of a list are fair when they are made. -/
def Fair (f : Factory ε α) (depth : Nat) :
    List (Request α) → Scene (Desk α) (Deed ε α) → Bool
  | [], _ => true
  | r :: requests, s => s.state.fair r && Fair f depth requests (serve f depth r s).2

theorem sum_held (value : α → ℤ) (d : Desk α) :
    Ledger.sum value d.held = (d.slots.toList.map (Holder.worth value)).sum := by
  obtain ⟨pool, ⟨slots⟩⟩ := d
  simp only [held, Ledger.sum, Multiset.map_coe, Multiset.sum_coe]
  induction slots with
  | nil => rfl
  | cons h slots ih =>
    rw [List.map_cons, List.sum_cons, ← ih]
    rcases hitem : h.item? with _ | a
    · simp [hitem, Holder.worth]
    · simp [hitem, Holder.worth]

theorem sum_map_set (w : Holder α → ℤ) {slots : List (Holder α)} {slot : Nat} {h₀ : Holder α}
    (hslot : slots[slot]? = some h₀) (h : Holder α) :
    ((slots.set slot h).map w).sum + w h₀ = (slots.map w).sum + w h := by
  induction slots generalizing slot with
  | nil => simp at hslot
  | cons h₁ slots ih =>
    cases slot with
    | zero =>
      obtain rfl : h₁ = h₀ := by simpa using hslot
      simp only [List.set_cons_zero, List.map_cons, List.sum_cons]
      omega
    | succ slot =>
      have hrest : slots[slot]? = some h₀ := by simpa using hslot
      have hset := ih hrest
      simp only [List.set_cons_succ, List.map_cons, List.sum_cons]
      omega

/-- Putting something else into a slot changes what is held by what was in it. -/
theorem sum_held_set (value : α → ℤ) {d : Desk α} {slot : Nat} {h₀ : Holder α}
    (hslot : d.holder slot = h₀) (hne : h₀ ≠ .vacant) (p : Pool α) (h : Holder α) :
    Ledger.sum value (held ⟨p, d.slots.setIfInBounds slot h⟩) + h₀.worth value =
      Ledger.sum value d.held + h.worth value := by
  have hget : d.slots.toList[slot]? = some h₀ := by
    rw [holder, Array.getD_eq_getD_getElem?] at hslot
    rcases h₁ : d.slots[slot]? with _ | h₂
    · rw [h₁] at hslot
      exact absurd hslot.symm hne
    · rw [h₁] at hslot
      rw [Array.getElem?_toList, h₁]
      exact congrArg some hslot
  rw [sum_held, sum_held, Array.toList_setIfInBounds]
  exact sum_map_set _ hget h

/-! ## What errands do to it -/

section

variable {d : Desk α} {r : Request α} {slots : Array (Holder α)}

theorem hold_of_ask {hold : α → Holder α} (hr : d.errand (ε := ε) r = .ask hold) :
    (∀ a, (hold a).item? = some a) ∧ r.brought = 0 := by
  cases r with
  | get | checkout =>
    obtain rfl := Errand.ask.inj hr
    exact ⟨fun _ => rfl, rfl⟩
  | grow | bring => cases hr
  | _ =>
    simp only [errand] at hr
    split at hr <;> cases hr

theorem brought_of_grow {count : UInt64} (hr : d.errand (ε := ε) r = .grow count) :
    r.brought = 0 := by
  cases r with
  | bring => cases hr
  | _ => rfl

/-- A fair user releases what it holds or what it brings. -/
theorem sum_held_of_give (value : α → ℤ) {a : α} (hfair : d.fair r = true)
    (hr : d.errand (ε := ε) r = .give a slots) (p : Pool α) :
    Ledger.sum value (held ⟨p, slots⟩) + value a =
      Ledger.sum value d.held + Ledger.sum value r.brought := by
  cases r with
  | get | checkout | grow => cases hr
  | bring b =>
    obtain ⟨rfl, rfl⟩ := Errand.give.inj hr
    simp [Request.brought, Ledger.sum, held]
  | releaseCopy | amend => cases hfair
  | release slot =>
    simp only [errand] at hr
    split at hr
    · next b hslot =>
      obtain ⟨rfl, rfl⟩ := Errand.give.inj hr
      have hset := sum_held_set value hslot (by simp) p .vacant
      simpa [Holder.worth, Holder.item?, Request.brought, Ledger.sum] using hset
    · cases hr
    · cases hr
  | drop slot =>
    simp only [errand] at hr
    split at hr
    · cases hr
    · next b hslot =>
      obtain ⟨rfl, rfl⟩ := Errand.give.inj hr
      have hset := sum_held_set value hslot (by simp) p .vacant
      simpa [Holder.worth, Holder.item?, Request.brought, Ledger.sum] using hset
    · cases hr
    · cases hr
  | detach | look =>
    simp only [errand] at hr
    split at hr <;> cases hr

/-- A fair user keeps what it holds where the pool is left alone. -/
theorem sum_held_of_settle (value : α → ℤ) {e : Ending ε (Reply α)} (hfair : d.fair r = true)
    (hr : d.errand r = .settle e slots) (p : Pool α) :
    Ledger.sum value (held ⟨p, slots⟩) =
      Ledger.sum value d.held + Ledger.sum value r.brought := by
  have hbrought : r.brought = 0 := by
    cases r with
    | bring => cases hr
    | _ => rfl
  have hsame : d.slots = slots → Ledger.sum value (held ⟨p, slots⟩) = Ledger.sum value d.held := by
    rintro rfl
    rfl
  rw [hbrought, show Ledger.sum value (0 : Multiset α) = 0 from rfl, add_zero]
  cases r with
  | get | checkout | grow | bring => cases hr
  | releaseCopy | amend => cases hfair
  | release slot =>
    simp only [errand] at hr
    split at hr
    · cases hr
    · exact hsame (Errand.settle.inj hr).2
    · exact hsame (Errand.settle.inj hr).2
  | look slot =>
    simp only [errand] at hr
    split at hr <;> exact hsame (Errand.settle.inj hr).2
  | drop slot =>
    simp only [errand] at hr
    split at hr
    · next b hslot => simp [fair, hslot] at hfair
    · cases hr
    · next hslot =>
      obtain ⟨rfl, rfl⟩ := Errand.settle.inj hr
      have hset := sum_held_set value hslot (by simp) p .vacant
      simpa [Holder.worth, Holder.item?] using hset
    · exact hsame (Errand.settle.inj hr).2
  | detach slot =>
    simp only [errand] at hr
    split at hr
    · exact hsame (Errand.settle.inj hr).2
    · next b hslot =>
      obtain ⟨rfl, rfl⟩ := Errand.settle.inj hr
      have hset := sum_held_set value hslot (by simp) p (.bare b)
      simpa [Holder.worth, Holder.item?] using hset
    · exact hsame (Errand.settle.inj hr).2
    · exact hsame (Errand.settle.inj hr).2

end

/-! ## The account of a user -/

section

variable [DecidableEq α] {f : Factory ε α} {depth : Nat} {L : Ledger α} {J : List (Deed ε α)}

/-- Outside of factory calls it is the user who gets. -/
theorem ledger_of_get {p : Pool α} {g : Ending ε α} (h : Runs f depth .get p J g)
    (hcalls : L.calls = []) :
    (L.after J).calls = [] ∧ (L.after J).returned = L.returned ∧
      (L.after J).handedOut = match g with
        | .ok a => a ::ₘ L.handedOut
        | _ => L.handedOut := by
  obtain ⟨L₀, hsame, heq⟩ := h.enters L
  have hcalls₀ : L₀.calls = [] := hsame.calls.trans hcalls
  rw [heq]
  cases g with
  | ok a =>
    simp only [Ledger.next, Ledger.receive, hcalls₀]
    exact ⟨trivial, hsame.returned, congrArg (a ::ₘ ·) hsame.handedOut⟩
  | _ => exact ⟨hcalls₀, hsame.returned, hsame.handedOut⟩

/-- **A fair request keeps the account of the user**: what the user holds and what it has released
is what was handed out to it and what it has brought. -/
theorem Serves.account {d d' : Desk α} {r : Request α} {e : Ending ε (Reply α)}
    (h : Serves f depth d r J e d') (hfair : d.fair r = true) (hcalls : L.calls = [])
    (value : α → ℤ) :
    (L.after J).calls = [] ∧
      Ledger.sum value d'.held + Ledger.sum value (L.after J).returned +
          Ledger.sum value L.handedOut =
        Ledger.sum value d.held + Ledger.sum value L.returned +
          Ledger.sum value (L.after J).handedOut + Ledger.sum value r.brought := by
  have hzero : Ledger.sum value (0 : Multiset α) = 0 := rfl
  cases h with
  | @handedOut hold a _ hr h =>
    obtain ⟨hitem, hbrought⟩ := hold_of_ask hr
    obtain ⟨hcalls', hreturned, hhanded⟩ := ledger_of_get h hcalls
    have hheld : Ledger.sum value (held ⟨d.pool.after J, d.slots.push (hold a)⟩) =
        Ledger.sum value d.held + value a := by
      simp [sum_held, Holder.worth, hitem]
    refine ⟨hcalls', ?_⟩
    rw [hheld, hreturned, hhanded, hbrought, hzero, Ledger.sum_cons]
    omega
  | @notHandedOut hold _ g _ hr h hstop =>
    obtain ⟨-, hbrought⟩ := hold_of_ask hr
    obtain ⟨hcalls', hreturned, hhanded⟩ := ledger_of_get h hcalls
    have hhanded' : (L.after J).handedOut = L.handedOut := by
      cases g with
      | ok a => cases hstop
      | _ => exact hhanded
    refine ⟨hcalls', ?_⟩
    rw [hreturned, hhanded', hbrought, hzero]
    simp only [held]
    omega
  | grown hr h | notGrown hr h =>
    have hsame : L.Same (L.after J) := h.enters L
    refine ⟨hsame.calls.trans hcalls, ?_⟩
    rw [hsame.returned, hsame.handedOut, brought_of_grow hr, hzero]
    simp only [held]
    omega
  | @given a slots hr =>
    have hheld := sum_held_of_give value hfair hr (d.pool.after (releaseDeeds a : List (Deed ε α)))
    rw [Ledger.after_releaseDeeds]
    simp only [Ledger.surrender, hcalls, Ledger.sum_cons]
    refine ⟨trivial, ?_⟩
    omega
  | settled hr =>
    have hheld := sum_held_of_settle value hfair hr d.pool
    refine ⟨hcalls, ?_⟩
    rw [Ledger.after_nil, hheld]
    omega

/-- A request to the pool of an honest factory loses nothing. -/
theorem Serves.keeps {d d' : Desk α} {r : Request α} {e : Ending ε (Reply α)} (hf : f.Honest)
    (h : Serves f depth d r J e d') (hcalls : L.calls = []) : (L.after J).lost = L.lost := by
  cases h with
  | handedOut hr h | notHandedOut hr h => exact h.keeps hf L (by rw [hcalls]; rfl)
  | grown hr h | notGrown hr h => exact h.keeps hf L
  | given hr => exact L.lost_surrender _
  | settled hr => rfl

/-- **Fair requests keep the account of the user.** -/
theorem Visits.account {d d' : Desk α} {requests : List (Request α)}
    {es : List (Ending ε (Reply α))} (h : Visits f depth d requests J es d')
    {journal : Array (Deed ε α)} (hfair : Fair f depth requests ⟨d, journal⟩ = true)
    (hcalls : L.calls = []) (value : α → ℤ) :
    (L.after J).calls = [] ∧
      Ledger.sum value d'.held + Ledger.sum value (L.after J).returned +
          Ledger.sum value L.handedOut =
        Ledger.sum value d.held + Ledger.sum value L.returned +
          Ledger.sum value (L.after J).handedOut + Ledger.sum value (brought requests) := by
  induction h generalizing L journal with
  | nil =>
    refine ⟨hcalls, ?_⟩
    simp [brought, Ledger.sum]
  | @cons d d₁ d₂ r requests J K e es h hs ih =>
    rw [Fair, h.serve_eq journal, Bool.and_eq_true] at hfair
    obtain ⟨hcalls₁, haccount⟩ := h.account hfair.1 hcalls value
    obtain ⟨hcalls₂, hrest⟩ := ih hfair.2 hcalls₁
    have hbrought : Ledger.sum value (brought (r :: requests)) =
        Ledger.sum value r.brought + Ledger.sum value (brought requests) := by
      simp [brought, Ledger.sum]
    rw [Ledger.after_append]
    refine ⟨hcalls₂, ?_⟩
    omega

/-- Requests to the pool of an honest factory lose nothing. -/
theorem Visits.keeps {d d' : Desk α} {requests : List (Request α)}
    {es : List (Ending ε (Reply α))} (hf : f.Honest) (h : Visits f depth d requests J es d')
    {journal : Array (Deed ε α)} (hfair : Fair f depth requests ⟨d, journal⟩ = true)
    (hcalls : L.calls = []) : (L.after J).lost = L.lost := by
  induction h generalizing L journal with
  | nil => rfl
  | @cons d d₁ d₂ r requests J K e es h hs ih =>
    rw [Fair, h.serve_eq journal, Bool.and_eq_true] at hfair
    rw [Ledger.after_append]
    exact (ih hfair.2 (h.account hfair.1 hcalls fun _ => 0).1).trans (h.keeps hf hcalls)

end

end Desk

/-! ## All instances of a session -/

section

variable [DecidableEq α] (f : Factory ε α) (kind : Kind) (depth : Nat) (initial : UInt64)
  (requests : List (Request α))

/-- The ledger of a session. -/
def sessionLedger : Ledger α :=
  ({} : Ledger α).after (session f kind depth initial requests).journal.toList

variable {f kind depth initial requests}

/-- How many instances there are of one kind. -/
theorem sum_indicator (x : α) (m : Multiset α) :
    Ledger.sum (fun a => if a = x then 1 else 0) m = m.count x := by
  induction m using Multiset.induction with
  | empty => rfl
  | cons a m ih =>
    rw [Ledger.sum_cons, ih, Multiset.count_cons]
    by_cases h : a = x
    · simp [h, add_comm]
    · simp [h, Ne.symm h]

/-- What the ledger of a session says of calls and of the user. -/
theorem account_session
    (hfair : Desk.Fair f depth requests (Desk.opened f kind depth initial) = true)
    (value : α → ℤ) :
    (sessionLedger f kind depth initial requests).calls = [] ∧
      Ledger.sum value (session f kind depth initial requests).state.held +
          Ledger.sum value (sessionLedger f kind depth initial requests).returned =
        Ledger.sum value (sessionLedger f kind depth initial requests).handedOut +
          Ledger.sum value (brought requests) ∧
      (f.Honest → (sessionLedger f kind depth initial requests).lost = 0) := by
  obtain ⟨J, K, d, h, hopened, hvisits, hsession⟩ := exists_session f kind depth initial requests
  have hledger : sessionLedger f kind depth initial requests =
      (({} : Ledger α).after J).after K := by
    rw [sessionLedger, hsession]
    show ({} : Ledger α).after (J ++ _ ++ K) = _
    rw [Ledger.after_append, Ledger.after_append]
    rcases (f.build kind depth initial).1 with _ | _ | _ | _ <;> rfl
  obtain ⟨hcalls₁, hhanded, hreturned⟩ : ({} : Ledger α).Same (({} : Ledger α).after J) :=
    h.enters {}
  obtain ⟨hcalls, haccount⟩ := hvisits.account hfair hcalls₁ value
  have hheld : Ledger.sum value (Desk.opened f kind depth initial).state.held = 0 := by
    rw [hopened]
    rfl
  have hhanded₀ : Ledger.sum value (({} : Ledger α).after J).handedOut = 0 := by
    rw [hhanded]
    rfl
  have hreturned₀ : Ledger.sum value (({} : Ledger α).after J).returned = 0 := by
    rw [hreturned]
    rfl
  rw [hledger, hsession]
  refine ⟨hcalls, by show Ledger.sum value d.held + _ = _; omega, fun hf => ?_⟩
  exact (hvisits.keeps hf hfair hcalls₁).trans (h.keeps hf {})

/-- **Where all the instances of a session are**: idle, held by the user or lost by calls of the
factory are just those that calls have made or released and those that the user has brought. -/
theorem instances_accounted_for
    (hfair : Desk.Fair f depth requests (Desk.opened f kind depth initial) = true) :
    ((session f kind depth initial requests).state.pool.idle.toList : Multiset α) +
        (session f kind depth initial requests).state.held +
        (sessionLedger f kind depth initial requests).lost =
      (sessionLedger f kind depth initial requests).fresh +
        ((sessionLedger f kind depth initial requests).strangers + brought requests) := by
  refine Multiset.ext.mpr fun x => ?_
  obtain ⟨hcalls, haccount, -⟩ := account_session hfair fun a => if a = x then 1 else 0
  have hbalance : Pool.worth _ _ + (sessionLedger f kind depth initial requests).excess _ = 0 :=
    (chronicle_session f kind depth initial requests).ledger_balance fun a => if a = x then 1 else 0
  have hworth : ∀ p : Pool α, p.worth (fun a => if a = x then 1 else 0) =
      Ledger.sum (fun a => if a = x then 1 else 0) (p.idle.toList : Multiset α) := fun _ => rfl
  -- no call is under way any more, so no instance is in the hands of one
  rw [Ledger.excess_of_calls hcalls, hworth] at hbalance
  simp only [sum_indicator] at hbalance haccount
  simp only [Multiset.count_add]
  omega

/-- **No instance is lost and none is duplicated.** With a factory whose calls return what they get
and a user who keeps what it holds and releases nothing else, the idle instances and those held
are just the new ones and those that came from outside; where these are all different, nothing is
in two places. -/
theorem no_instance_lost (hhonest : f.Honest)
    (hfair : Desk.Fair f depth requests (Desk.opened f kind depth initial) = true) :
    ((session f kind depth initial requests).state.pool.idle.toList : Multiset α) +
        (session f kind depth initial requests).state.held =
      (sessionLedger f kind depth initial requests).fresh +
        ((sessionLedger f kind depth initial requests).strangers + brought requests) ∧
    (((sessionLedger f kind depth initial requests).fresh +
        ((sessionLedger f kind depth initial requests).strangers + brought requests)).Nodup →
      (((session f kind depth initial requests).state.pool.idle.toList : Multiset α) +
        (session f kind depth initial requests).state.held).Nodup) := by
  have hlost := (account_session hfair fun _ => 0).2.2 hhonest
  have hall := instances_accounted_for hfair
  rw [hlost, add_zero] at hall
  exact ⟨hall, fun hnodup => hall ▸ hnodup⟩

end

/-- Planned factories return what they get. -/
theorem Plan.honest (plan : Plan) : plan.factory.Honest := by
  intro number
  refine Action.script_induction (motive := Script.Honest) (fun _ => trivial) (fun _ => trivial)
    (fun _ => trivial) (fun _ _ h => h) ?_ ?_ number (plan.action number)
  · rintro count next h (message | reason | ⟨⟩)
    · exact trivial
    · exact trivial
    · exact h
  · exact ⟨fun a => rfl, fun _ => trivial, fun _ => trivial⟩

/-- A factory whose calls release strangers, hand on what they get, and break down. -/
def generous : Plan where
  first := [.make, .use (some { tag := 80 }) (some 1) true, .panic "broken", .make, .fail "closed",
    .use (some { tag := 81 }) none true]
  later := .make
  fallible := true
  opening := 1

/-- Requests of a user who keeps what it holds. -/
def generousRequests : List (Request Tagged) :=
  [.get, .checkout, .checkout, .checkout, .grow 2, .drop 1, .release 0, .bring { tag := 82 },
    .detach 2, .grow 1]

/-- Nothing is lost and nothing duplicated with a generous factory. -/
theorem no_instance_lost_generous :
    generous.factory.Honest ∧
      Desk.Fair generous.factory 10 generousRequests (Desk.opened generous.factory .stack 10 1) =
        true ∧
      ((session generous.factory .stack 10 1 generousRequests).state.pool.idle.toList :
          Multiset Tagged) +
          (session generous.factory .stack 10 1 generousRequests).state.held =
        (sessionLedger generous.factory .stack 10 1 generousRequests).fresh +
          ((sessionLedger generous.factory .stack 10 1 generousRequests).strangers +
            brought generousRequests) ∧
      (((session generous.factory .stack 10 1 generousRequests).state.pool.idle.toList :
          Multiset Tagged) +
        (session generous.factory .stack 10 1 generousRequests).state.held).Nodup := by
  have hfair : Desk.Fair generous.factory 10 generousRequests
      (Desk.opened generous.factory .stack 10 1) = true := by decide +kernel
  obtain ⟨hall, hdifferent⟩ := no_instance_lost generous.honest hfair
  refine ⟨generous.honest, hfair, hall, ?_⟩
  apply hdifferent
  decide +kernel

end Pool

end ConverterKit
