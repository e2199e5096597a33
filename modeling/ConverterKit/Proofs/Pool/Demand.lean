import ConverterKit.Proofs.Pool.Handling
import ConverterKit.Proofs.Pool.Setback
import Mathlib.Data.Finset.Lattice.Fold
import Mathlib.Order.Lattice.Nat

/-!
# Misses are the peak of excess demand

A pool misses when an instance is asked for and none is idle. How often that happens in a session
does not depend on its end but on its worst moment: with a factory that leaves the pool alone, and a
user who releases only what was handed out, there are as many misses as, at the peak, instances were
outstanding beyond those that growths had added.

At every moment the idle and the outstanding instances together are those of growths and of misses.
So there are never fewer misses than the excess of what is outstanding. When a miss has just been
counted nothing is idle, and then both are equal.

## Main definitions

* `peak`: the greatest value in the course of a session
* `Request.Own`: a request of a user who releases only what was handed out
* `grownBy`, `missedBy`: how many instances growths have added and misses have handed out
* `PeakDemand`: how many misses there are, and how many instances

## Main results

* `idle_add_outstanding`: what is idle or outstanding came from growths and misses
* `Factory.Aloof.idle_of_miss`: nothing is idle when a miss has been counted
* `misses_eq_peak_excess`: misses are the peak of excess demand
-/

namespace ConverterKit

namespace Pool

variable {ε α : Type}

/-! ## Peaks -/

/-- The greatest value in the course of a session, from its beginning to its end. -/
def peak (value : List (Request α) → Nat) (requests : List (Request α)) : Nat :=
  (Finset.range (requests.length + 1)).sup fun t => value (requests.take t)

theorem peak_nil (value : List (Request α) → Nat) : peak value [] = value [] := by
  simp [peak]

/-- One more request may reach a new peak. -/
theorem peak_concat (value : List (Request α) → Nat) (requests : List (Request α))
    (r : Request α) :
    peak value (requests ++ [r]) = max (value (requests ++ [r])) (peak value requests) := by
  rw [peak, List.length_append, List.length_singleton, Finset.range_add_one, Finset.sup_insert,
    List.take_of_length_le (by simp)]
  refine congrArg (max _) (Finset.sup_congr rfl fun t ht => ?_)
  rw [List.take_append_of_le_length (Nat.le_of_lt_succ (Finset.mem_range.mp ht))]

theorem peak_congr {value value' : List (Request α) → Nat} {requests : List (Request α)}
    (h : ∀ t, value (requests.take t) = value' (requests.take t)) :
    peak value requests = peak value' requests :=
  Finset.sup_congr rfl fun t _ => h t

theorem peak_sub (value : List (Request α) → Nat) (c : Nat) (requests : List (Request α)) :
    peak (fun rs => value rs - c) requests = peak value requests - c := by
  induction requests using List.reverseRecOn with
  | nil => simp only [peak_nil]
  | append_singleton requests r ih =>
    rw [peak_concat, peak_concat, ih]
    omega

/-! ## Misses -/

/-- The request releases no instance but one that was handed out. -/
def Request.Own : Request α → Prop
  | .bring _ => False
  | .releaseCopy _ => False
  | _ => True

theorem Request.Own.times_brought {r : Request α} (hr : r.Own) (d : Desk α)
    (e : Ending ε (Reply α)) : times .brought (d.move? r e).toList = 0 := by
  cases r with
  | bring | releaseCopy => exact hr.elim
  | get | checkout => cases h : e.isOk <;> simp [Desk.move?, h]
  | grow => rfl
  | release slot | drop slot | detach slot | amend slot | look slot =>
    rcases h : d.holder slot with a | ⟨_ | a⟩ | _ <;>
      simp [Desk.move?, Request.slot?, Request.handling?, h]

namespace Factory.Aloof

variable {f : Factory ε α} {depth : Nat} {p : Pool α} {J : List (Deed ε α)}

/-- **When a miss has been counted nothing is idle.** -/
theorem idle_of_get (hf : f.Aloof) {g : Ending ε α} (h : Runs f (depth + 1) .get p J g) :
    occurrences (.counted .miss) J = 0 ∨ (p.after J).idle.toList = [] := by
  cases h with
  | hit => simp [Deed.mark?]
  | missed hidle hmake =>
    refine .inr ?_
    obtain ⟨-, rfl⟩ := hf.make hmake
    cases g <;> simpa [next, failureDeeds, missDeeds] using hidle

/-- A growth counts no miss. -/
theorem misses_of_grow (hf : f.Aloof) {count : UInt64} {e : Ending ε Unit}
    (h : Runs f (depth + 1) (.grow count) p J e) : occurrences (.counted .miss) J = 0 := by
  have hlawful := lawful_of_total fun w hw => h.settled (w := w) hw
  have hquiet := occurrences_of_quiet (hf.quiet_grow h)
  have hgot := hlawful.got
  omega

/-- A get counts no growth. -/
theorem growths_of_get (hf : f.Aloof) {g : Ending ε α} (h : Runs f (depth + 1) .get p J g) :
    occurrences (.counted .growth) J = 0 := by
  cases h with
  | hit => simp [Deed.mark?]
  | missed hidle hmake =>
    obtain ⟨-, rfl⟩ := hf.make hmake
    cases g <;> simp [failureDeeds, missDeeds, Deed.mark?]

end Factory.Aloof

namespace Desk

variable {f : Factory ε α} {depth : Nat} {d d' : Desk α} {r : Request α} {J : List (Deed ε α)}
  {e : Ending ε (Reply α)}

/-- Only a growth wants the pool to be grown. -/
theorem eq_grow_of_errand {count : UInt64} (hr : d.errand (ε := ε) r = .grow count) :
    r = .grow count := by
  rcases hslot : r.slot? with _ | slot
  · cases r with
    | grow n => rw [Errand.grow.inj hr]
    | get | checkout | bring => cases hr
    | _ => cases hslot
  · obtain ⟨_, _, herrand, -⟩ | ⟨_, herrand, -⟩ := errand_of_slot? (ε := ε) (d := d) hslot
    · cases herrand.symm.trans hr
    · cases herrand.symm.trans hr

/-- **After a request that has counted a miss nothing is idle.** -/
theorem Serves.idle_of_miss (hf : f.Aloof) (h : Serves f (depth + 1) d r J e d') :
    occurrences (.counted .miss) J = 0 ∨ d'.pool.idle.toList = [] := by
  rw [h.pool_eq]
  cases h with
  | handedOut hr hget | notHandedOut hr hget => exact hf.idle_of_get hget
  | grown hr hgrow | notGrown hr hgrow => exact .inl (hf.misses_of_grow hgrow)
  | given hr => exact .inl (by simp [releaseDeeds, Deed.mark?])
  | settled hr => exact .inl rfl

/-- Only a growth adds new instances. -/
theorem Serves.growths_eq_zero (hf : f.Aloof) (h : Serves f (depth + 1) d r J e d')
    (hr : ∀ count, r ≠ .grow count) : occurrences (.counted .growth) J = 0 := by
  cases h with
  | handedOut _ hget | notHandedOut _ hget => exact hf.growths_of_get hget
  | grown hr' | notGrown hr' => exact absurd (eq_grow_of_errand hr') (hr _)
  | given => simp [releaseDeeds, Deed.mark?]
  | settled => rfl

end Desk

/-! ## Sessions -/

section

variable (f : Factory ε α) (kind : Kind) (depth : Nat) (initial : UInt64)
  (requests : List (Request α))

/-- How many instances growths have added in a session, that of its beginning included. -/
def grownBy : Nat :=
  occurrences (.counted .growth) (session f kind depth initial requests).journal.toList

/-- How many instances misses have handed out in a session. -/
def missedBy : Nat :=
  occurrences (.counted .miss) (session f kind depth initial requests).journal.toList

/-- How many instances the factory has made in a session. -/
def madeBy : Nat :=
  occurrences .returned (session f kind depth initial requests).journal.toList

/-- By how much more instances are outstanding than growths have added. -/
def excessDemand : Nat :=
  sessionOutstanding f kind depth initial requests - grownBy f kind depth initial requests

/-- Every instance was made for a growth or for a miss. -/
theorem madeBy_eq : madeBy f kind depth initial requests =
    grownBy f kind depth initial requests + missedBy f kind depth initial requests :=
  (lawful_of_total (chronicle_session f kind depth initial requests).total_eq_zero).returned.symm

variable {f kind depth initial requests}

/-- Nothing is brought by a user who releases only what was handed out. -/
theorem times_brought_session (f : Factory ε α) (kind : Kind) (depth : Nat) (initial : UInt64)
    (hown : ∀ r ∈ requests, r.Own) :
    times .brought (sessionMoves f kind depth initial requests) = 0 := by
  induction requests using List.reverseRecOn with
  | nil => rfl
  | append_singleton requests r ih =>
    obtain ⟨J, e, d, -, -, hmoves⟩ := exists_session_concat f kind depth initial requests r
    have hr : r.Own := hown r (by simp)
    have hrequests := ih fun r' hr' => hown r' (List.mem_append_left _ hr')
    rw [hmoves, times_append, hrequests, hr.times_brought]

/-- **What is idle or outstanding came from growths and misses.** -/
theorem idle_add_outstanding (hf : f.Aloof) (kind : Kind) (depth : Nat) (initial : UInt64)
    (hown : ∀ r ∈ requests, r.Own) :
    (session f kind (depth + 1) initial requests).state.pool.idle.toList.length +
        sessionOutstanding f kind (depth + 1) initial requests =
      grownBy f kind (depth + 1) initial requests +
        missedBy f kind (depth + 1) initial requests := by
  have hchronicle := chronicle_session f kind (depth + 1) initial requests
  have hidle := hchronicle.length_idle
  obtain ⟨hadded, hserved, hreleased, hgot, -, -, -⟩ := lawful_of_total hchronicle.total_eq_zero
  obtain ⟨hgot', hreleased'⟩ := hf.told kind depth initial requests
  have hgiven := sessionOutstanding_add f kind (depth + 1) initial requests
  have hbrought := times_brought_session f kind (depth + 1) initial hown
  rw [grownBy, missedBy]
  omega

/-- The building of a pool misses nothing. -/
theorem missedBy_nil (hf : f.Aloof) : missedBy f kind (depth + 1) initial [] = 0 := by
  obtain ⟨J, h, hsession⟩ := exists_session_nil f kind (depth + 1) initial
  rw [missedBy, hsession]
  show occurrences (.counted .miss) (J ++ _) = 0
  rw [occurrences_append, hf.misses_of_grow h]
  rcases (f.build kind (depth + 1) initial).1 with _ | _ | _ | _ <;> simp [readyDeeds, Deed.mark?]

/-- **There are as many misses as the peak of excess demand.** -/
theorem missedBy_eq_peak (hf : f.Aloof) (hown : ∀ r ∈ requests, r.Own) :
    missedBy f kind (depth + 1) initial requests =
      peak (excessDemand f kind (depth + 1) initial) requests := by
  induction requests using List.reverseRecOn with
  | nil =>
    have hbalance := idle_add_outstanding hf kind depth initial hown
    rw [missedBy_nil hf] at hbalance ⊢
    rw [peak_nil, excessDemand]
    omega
  | append_singleton requests r ih =>
    obtain ⟨J, e, d, h, hsession, -⟩ :=
      exists_session_concat f kind (depth + 1) initial requests r
    have hrest := ih fun r' hr' => hown r' (List.mem_append_left _ hr')
    have hbalance := idle_add_outstanding hf kind depth initial hown
    have hmissed : missedBy f kind (depth + 1) initial (requests ++ [r]) =
        missedBy f kind (depth + 1) initial requests + occurrences (.counted .miss) J := by
      rw [missedBy, hsession, Array.toList_append, occurrences_append]
      rfl
    rw [peak_concat, ← hrest, excessDemand]
    -- either nothing was missed, or nothing is idle and all of the excess was missed
    obtain hnone | hidle := h.idle_of_miss hf
    · omega
    · have hempty : (session f kind (depth + 1) initial
          (requests ++ [r])).state.pool.idle.toList.length = 0 := by
        rw [hsession, hidle]
        rfl
      omega

/-! ### Without growth -/

/-- Without growth there are as many instances from growths as in the beginning. -/
theorem grownBy_eq (hf : f.Aloof) (hbuild : (f.build kind (depth + 1) initial).1 = .ok ())
    (hgrow : ∀ r ∈ requests, ∀ count, r ≠ .grow count) :
    grownBy f kind (depth + 1) initial requests = initial.toNat := by
  induction requests using List.reverseRecOn with
  | nil =>
    obtain ⟨J, h, hsession⟩ := exists_session_nil f kind (depth + 1) initial
    rw [hbuild] at h hsession
    have hbalance := @idle_add_outstanding _ _ f [] hf kind depth initial nofun
    have hidle : (session f kind (depth + 1) initial []).state.pool.idle.toList.length =
        initial.toNat := by
      have hlength := (hf.exact_grow h).length_idle
      rw [show (empty kind : Pool α).idle.toList = [] from Idle.toList_empty kind] at hlength
      rw [hsession, after_append]
      exact hlength.trans (Nat.zero_add _)
    have hnone : sessionOutstanding f kind (depth + 1) initial [] = 0 := by
      rw [sessionOutstanding, hsession]
      rfl
    rw [hidle, hnone, missedBy_nil hf] at hbalance
    exact hbalance.symm
  | append_singleton requests r ih =>
    obtain ⟨J, e, d, h, hsession, -⟩ :=
      exists_session_concat f kind (depth + 1) initial requests r
    have hrest := ih fun r' hr' => hgrow r' (List.mem_append_left _ hr')
    have hnone := h.growths_eq_zero hf (hgrow r (by simp))
    rw [grownBy, hsession, Array.toList_append, occurrences_append, ← hrest]
    show _ + occurrences _ J = _
    rw [hnone]
    rfl

/-- How many misses a session has, and how many instances were made for it. -/
structure PeakDemand (f : Factory ε α) (kind : Kind) (depth : Nat) (initial : UInt64)
    (requests : List (Request α)) : Prop where
  /-- Misses are the peak of excess demand. -/
  missed : missedBy f kind depth initial requests =
    peak (excessDemand f kind depth initial) requests
  /-- Instances are made for growths and for misses. -/
  made : madeBy f kind depth initial requests =
    grownBy f kind depth initial requests + missedBy f kind depth initial requests
  /-- The statistics of the pool say so. -/
  stats : (session f kind depth initial requests).state.pool.stats.misses =
      .ofNat (missedBy f kind depth initial requests) ∧
    (session f kind depth initial requests).state.pool.stats.grown =
      .ofNat (grownBy f kind depth initial requests) ∧
    (session f kind depth initial requests).state.pool.stats.created =
      .ofNat (madeBy f kind depth initial requests)
  /-- A pool that is not grown makes as many instances as it began with, or as were outstanding at
  the peak if these were more. -/
  steady : (f.build kind depth initial).1 = .ok () →
    (∀ r ∈ requests, ∀ count, r ≠ .grow count) →
    madeBy f kind depth initial requests =
      max initial.toNat (peak (sessionOutstanding f kind depth initial) requests)

/-- **Misses are the peak of excess demand**, in either kind of store, whatever its first size and
however the session goes. -/
theorem misses_eq_peak_excess (hf : f.Aloof) (kind : Kind) (depth : Nat) (initial : UInt64)
    (hown : ∀ r ∈ requests, r.Own) : PeakDemand f kind (depth + 1) initial requests where
  missed := missedBy_eq_peak hf hown
  made := madeBy_eq f kind (depth + 1) initial requests
  stats := by
    have hchronicle := chronicle_session f kind (depth + 1) initial requests
    have hcounters := hchronicle.counters_eq
    refine ⟨?_, ?_, ?_⟩
    · exact (congrArg Counters.misses hcounters).trans (UInt64.zero_add _)
    · exact (congrArg Counters.grown hcounters).trans (UInt64.zero_add _)
    · rw [madeBy_eq]
      exact (congrArg Counters.created hcounters).trans (UInt64.zero_add _)
  steady hbuild hgrow := by
    have hgrown : ∀ t, grownBy f kind (depth + 1) initial (requests.take t) = initial.toNat :=
      fun t => grownBy_eq hf hbuild fun r hr => hgrow r (List.mem_of_mem_take hr)
    have hpeak : peak (excessDemand f kind (depth + 1) initial) requests =
        peak (sessionOutstanding f kind (depth + 1) initial) requests - initial.toNat := by
      rw [← peak_sub]
      exact peak_congr fun t => by rw [excessDemand, hgrown]
    rw [madeBy_eq, missedBy_eq_peak hf hown, hpeak, grownBy_eq hf hbuild hgrow]
    omega

end

/-- A factory that makes every instance it is asked for. -/
def tireless : Plan where
  first := []
  later := .make
  fallible := true
  opening := 0

/-- Requests with two peaks: three instances are outstanding where one was grown, and later five
where two were. -/
def busyRequests : List (Request Tagged) :=
  [.get, .checkout, .get, .release 0, .drop 1, .grow 1, .checkout, .detach 3, .get, .checkout,
    .drop 2, .get, .drop 5, .get]

/-- The second peak leaves as many misses as it exceeds the growths by. -/
theorem misses_eq_peak_excess_busy :
    tireless.factory.Aloof ∧ (∀ r ∈ busyRequests, r.Own) ∧
      missedBy tireless.factory .stack 1 1 busyRequests = 3 ∧
      peak (excessDemand tireless.factory .stack 1 1) busyRequests = 3 := by
  have haloof : tireless.factory.Aloof := Plan.aloof (by decide)
  have hown : ∀ r ∈ busyRequests, r.Own := by simp [busyRequests, Request.Own]
  have hmissed : missedBy tireless.factory .stack 1 1 busyRequests = 3 := by decide +kernel
  have hpeak := (misses_eq_peak_excess haloof .stack 0 1 hown).missed
  exact ⟨haloof, hown, hmissed, hpeak.symm.trans hmissed⟩

end Pool

end ConverterKit
