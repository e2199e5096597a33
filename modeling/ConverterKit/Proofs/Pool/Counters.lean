import ConverterKit.Pool.Plan
import ConverterKit.Proofs.Pool.Conservation

/-!
# The counters of a pool balance

The counters of a pool are what its journal says, and the journal obeys seven conservation laws:
what is added was made by a growth or released, what is served is a hit, and so on. Together they
say that the counters of a pool fit each other, its idle instances, and what happened to it, after
any session and however its factory uses the pool. Counters wrap around, so this is said of words.

## Main definitions

* `Counters.raised`: counters after the happenings in a journal
* `Balanced`: counters that fit a journal

## Main results

* `counters_after`, `calls_after`: the counters and the number of calls are what the journal says
* `Runs.not_lapsed`: what ends has not nested too deep
* `counters_balance`: the counters of a pool balance after every session
-/

namespace ConverterKit

namespace Pool

variable {ε α β : Type}

/-! ## The counters from the journal -/

/-- Counters after the happenings in a journal. -/
def Counters.raised (c : Counters) (J : List (Deed ε α)) : Counters where
  created := c.created + .ofNat (occurrences (.counted .growth) J + occurrences (.counted .miss) J)
  hits := c.hits + .ofNat (occurrences (.counted .hit) J)
  misses := c.misses + .ofNat (occurrences (.counted .miss) J)
  released := c.released + .ofNat (occurrences (.counted .release) J)
  grown := c.grown + .ofNat (occurrences (.counted .growth) J)
  factoryErrors := c.factoryErrors + .ofNat (occurrences (.counted .failure) J)

theorem raised_nil (c : Counters) : c.raised ([] : List (Deed ε α)) = c := by
  simp [Counters.raised]

theorem raised_cons (c : Counters) (d : Deed ε α) (J : List (Deed ε α)) :
    c.raised (d :: J) = (c.raised [d]).raised J := by
  simp only [Counters.raised, occurrences_cons, occurrences_nil, zero_add, UInt64.ofNat_add,
    Counters.mk.injEq]
  refine ⟨?_, ?_, ?_, ?_, ?_, ?_⟩ <;> ac_rfl

theorem counters_next (p : Pool α) (d : Deed ε α) :
    (p.next d).counters = p.counters.raised [d] := by
  cases d with
  | counted t => cases t <;> simp [next, Counters.count, Counters.raised, Deed.mark?]
  | served a =>
    simp only [next]
    split <;> simp [Counters.raised, Deed.mark?]
  | callEnded e => cases e <;> simp [next, Counters.raised, Deed.mark?]
  | getEnded e => cases e <;> simp [next, Counters.raised, Deed.mark?]
  | _ => simp [next, Counters.raised, Deed.mark?]

/-- **The counters are what the journal says.** -/
theorem counters_after (p : Pool α) (J : List (Deed ε α)) :
    (p.after J).counters = p.counters.raised J := by
  induction J generalizing p with
  | nil => exact (raised_nil p.counters).symm
  | cons d J ih => rw [after_cons, ih, counters_next, ← raised_cons]

theorem calls_next (p : Pool α) (d : Deed ε α) :
    (p.next d).calls = p.calls + occurrences .began [d] := by
  cases d with
  | served a =>
    simp only [next]
    split <;> simp [Deed.mark?]
  | callEnded e => cases e <;> simp [next, Deed.mark?]
  | getEnded e => cases e <;> simp [next, Deed.mark?]
  | _ => simp [next, Deed.mark?]

/-- **The number of calls is what the journal says.** -/
theorem calls_after (p : Pool α) (J : List (Deed ε α)) :
    (p.after J).calls = p.calls + occurrences .began J := by
  induction J generalizing p with
  | nil => rfl
  | cons d J ih =>
    rw [after_cons, ih, calls_next, occurrences_cons, occurrences_cons, occurrences_nil]
    omega

/-! ## The laws -/

/-- What the laws of conservation say about a journal. -/
structure Lawful (J : List (Deed ε α)) : Prop where
  /-- What was added was made by a growth or released. -/
  added : occurrences .added J =
    occurrences (.counted .growth) J + occurrences (.counted .release) J
  /-- What was served was a hit. -/
  served : occurrences .served J = occurrences (.counted .hit) J
  /-- Every release was counted. -/
  released : occurrences (.counted .release) J = occurrences .released J
  /-- Every get that handed out an instance was counted, as a hit or as a miss. -/
  got : occurrences (.counted .hit) J + occurrences (.counted .miss) J = occurrences .got J
  /-- Every instance a call returned was counted, by a get or by a growth. -/
  returned : occurrences (.counted .growth) J + occurrences (.counted .miss) J =
    occurrences .returned J
  /-- Every error a call returned was counted. -/
  failed : occurrences (.counted .failure) J = occurrences .failed J
  /-- Every call that began has ended. -/
  began : occurrences .began J = occurrences .returned J + occurrences .failed J +
    occurrences .panicked J + occurrences .lapsed J

/-- A journal in which nothing is left open is lawful. -/
theorem lawful_of_total {J : List (Deed ε α)}
    (h : ∀ w : Deed ε α → ℤ, Conserved w → total w J = 0) : Lawful J where
  added := by
    simpa using occurrences_eq_of_law [.added] [.counted .growth, .counted .release]
      ⟨rfl, rfl, rfl, rfl, rfl, rfl, rfl⟩ h
  served := by
    simpa using occurrences_eq_of_law [.served] [.counted .hit]
      ⟨rfl, rfl, rfl, rfl, rfl, rfl, rfl⟩ h
  released := by
    simpa using occurrences_eq_of_law [.counted .release] [.released]
      ⟨rfl, rfl, rfl, rfl, rfl, rfl, rfl⟩ h
  got := by
    simpa using occurrences_eq_of_law [.counted .hit, .counted .miss] [.got]
      ⟨rfl, rfl, rfl, rfl, rfl, rfl, rfl⟩ h
  returned := by
    simpa using occurrences_eq_of_law [.counted .growth, .counted .miss] [.returned]
      ⟨rfl, rfl, rfl, rfl, rfl, rfl, rfl⟩ h
  failed := by
    simpa using occurrences_eq_of_law [.counted .failure] [.failed]
      ⟨rfl, rfl, rfl, rfl, rfl, rfl, rfl⟩ h
  began := by
    simpa [add_assoc] using occurrences_eq_of_law [.began] [.returned, .failed, .panicked, .lapsed]
      ⟨rfl, rfl, rfl, rfl, rfl, rfl, rfl⟩ h

/-- The counters are those of the journal. -/
theorem Chronicle.counters_eq {kind : Kind} {J : List (Deed ε α)} {p : Pool α}
    (h : Chronicle kind J p) : p.counters = Counters.raised {} J := by
  rw [h.pool_eq]
  exact counters_after _ J

/-- **As many instances are idle** as were added and not served since. -/
theorem Chronicle.length_idle {kind : Kind} {J : List (Deed ε α)} {p : Pool α}
    (h : Chronicle kind J p) :
    p.idle.toList.length + occurrences .served J = occurrences .added J := by
  have hgain : ∀ K : List (Deed ε α), (K.map (gain fun _ => 1)).sum =
      (occurrences .added K : ℤ) - occurrences .served K := by
    intro K
    induction K with
    | nil => rfl
    | cons d K ih =>
      rw [List.map_cons, List.sum_cons, ih]
      cases d with
      | added a | served a => simp [gain, Deed.mark?]; omega
      | callEnded e | getEnded e => cases e <;> simp [gain, Deed.mark?]
      | _ => simp [gain, Deed.mark?]
  have hworth := h.supplies.worth_after fun _ => 1
  rw [← h.pool_eq, hgain] at hworth
  have hempty : (empty kind : Pool α).worth (fun _ => 1) = 0 := by simp [worth, empty]
  have hlength : p.worth (fun _ => 1) = p.idle.toList.length := by simp [worth]
  omega

/-! ## Calls that nested too deep -/

theorem occurrences_lapsed_failureDeeds (kind : Kind) (e : Ending ε α) :
    occurrences .lapsed (failureDeeds kind e) = 0 := by
  cases e <;> simp [failureDeeds, Deed.mark?]

theorem occurrences_lapsed_missDeeds (kind : Kind) (e : Ending ε α) :
    occurrences .lapsed (missDeeds kind e ++ [.getEnded e]) = 0 := by
  cases e <;> simp [missDeeds, Deed.mark?]

theorem occurrences_lapsed_growthDeeds (p : Pool α) (count : UInt64) (e : Ending ε Unit) :
    occurrences .lapsed (growthDeeds p count e ++ [.growEnded count e] : List (Deed ε α)) = 0 := by
  cases e <;> simp [growthDeeds, Deed.mark?]

theorem occurrences_lapsed_releaseDeeds (a : α) :
    occurrences .lapsed (releaseDeeds a : List (Deed ε α)) = 0 := by
  simp [releaseDeeds, Deed.mark?]

/-- **What ends has not nested too deep**, since nothing catches that. -/
theorem Runs.not_lapsed {f : Factory ε α} {depth : Nat} {task : Task ε α β} {p : Pool α}
    {J : List (Deed ε α)} {e : Ending ε β} (h : Runs f depth task p J e) (he : e ≠ .unfinished) :
    occurrences .lapsed J = 0 := by
  induction h with
  | tooDeep | addedAll | grewByNone | makes | fails | panics => rfl
  | @called n p J e h ih =>
    rw [occurrences_cons, occurrences_append, ih he]
    cases e <;> simp_all [Deed.mark?]
  | made h ih => rw [occurrences_append, ih he, occurrences_lapsed_failureDeeds]
  | hit hidle => simp [Deed.mark?]
  | missed hidle h ih => rw [occurrences_append, ih he, occurrences_lapsed_missDeeds]
  | released => exact occurrences_lapsed_releaseDeeds _
  | added hmake h ihmake ih =>
    rw [occurrences_append, occurrences_append, ihmake nofun, ih he]
    simp [additionDeeds, Deed.mark?]
  | @addStopped n m p J e e' hmake hstop ih =>
    refine ih fun hunfinished => he ?_
    subst hunfinished
    exact (Option.some.inj hstop).symm
  | growRefused hcount hroom => simp [Deed.mark?]
  | grew hcount hroom h ih =>
    rw [occurrences_cons, occurrences_append, ih he, occurrences_lapsed_growthDeeds]
    simp [Deed.mark?]
  | releases h ih => rw [occurrences_append, occurrences_lapsed_releaseDeeds, ih he]
  | @grows n p count script J K g u e hgrow hu h ihgrow ih =>
    rw [occurrences_append, ih he, ihgrow]
    rintro rfl
    simp [Ending.caught?] at hu
  | @growStopped n p count script J g e hgrow hu hstop ih =>
    refine ih fun hunfinished => he ?_
    subst hunfinished
    exact (Option.some.inj hstop).symm
  | @gets n p script J K g u e hget hu h ihget ih =>
    rw [occurrences_append, ih he, ihget]
    rintro rfl
    simp [Ending.caught?] at hu
  | @getStopped n p script J g e hget hu hstop ih =>
    refine ih fun hunfinished => he ?_
    subst hunfinished
    exact (Option.some.inj hstop).symm

/-- A request that ends has not nested too deep. -/
theorem Desk.Serves.not_lapsed {f : Factory ε α} {depth : Nat} {d d' : Desk α} {r : Request α}
    {J : List (Deed ε α)} {e : Ending ε (Reply α)} (h : Serves f depth d r J e d')
    (he : e ≠ .unfinished) : occurrences .lapsed J = 0 := by
  have hstop : ∀ {γ : Type} {g : Ending ε γ}, g.stop? = some e → g ≠ .unfinished := by
    rintro γ g hg rfl
    exact he (Option.some.inj hg).symm
  cases h with
  | handedOut hr h => exact h.not_lapsed nofun
  | notHandedOut hr h hg => exact h.not_lapsed (hstop hg)
  | grown hr h => exact h.not_lapsed nofun
  | notGrown hr h hg => exact h.not_lapsed (hstop hg)
  | given hr => exact occurrences_lapsed_releaseDeeds _
  | settled hr => rfl

/-- Requests that all end have not nested too deep. -/
theorem Desk.Visits.not_lapsed {f : Factory ε α} {depth : Nat} {d d' : Desk α}
    {requests : List (Request α)} {J : List (Deed ε α)} {es : List (Ending ε (Reply α))}
    (h : Visits f depth d requests J es d') (hes : ∀ e ∈ es, e ≠ .unfinished) :
    occurrences .lapsed J = 0 := by
  induction h with
  | nil => rfl
  | cons h hs ih =>
    rw [occurrences_append, h.not_lapsed (hes _ List.mem_cons_self),
      ih fun e he => hes e (List.mem_cons_of_mem _ he)]

/-- A session that ends has not nested too deep. -/
theorem session_not_lapsed {f : Factory ε α} {kind : Kind} {depth : Nat} {initial : UInt64}
    {requests : List (Request α)} (hbuild : (f.build kind depth initial).1 ≠ .unfinished)
    (hes : ∀ e ∈ Desk.endings f depth requests (Desk.opened f kind depth initial),
      e ≠ .unfinished) :
    occurrences .lapsed (session f kind depth initial requests).journal.toList = 0 := by
  obtain ⟨J, K, d, h, -, hvisits, hsession⟩ := exists_session f kind depth initial requests
  rw [hsession]
  show occurrences .lapsed (J ++ _ ++ K) = 0
  rw [occurrences_append, occurrences_append, h.not_lapsed hbuild, hvisits.not_lapsed hes]
  rcases (f.build kind depth initial).1 with _ | _ | _ | _ <;> simp [readyDeeds, Deed.mark?]

/-! ## The balance -/

/-- Counters that fit a journal. All of this is about words, which wrap around. -/
structure Balanced (J : List (Deed ε α)) (p : Pool α) : Prop where
  /-- What is idle or was taken from the idle instances came with a growth or a release. -/
  idle : .ofNat p.stats.available + p.stats.hits = p.stats.grown + p.stats.released
  /-- Instances are made for growths and for misses. -/
  created : p.stats.created = p.stats.grown + p.stats.misses
  /-- Factory calls return an instance, return an error, or panic. -/
  calls : p.stats.created + p.stats.factoryErrors + .ofNat (occurrences .panicked J) =
    .ofNat (occurrences .began J)
  /-- The pool numbers the factory calls. -/
  numbered : p.calls = occurrences .began J
  /-- Factory errors are the factory calls that returned an error. -/
  factoryErrors : p.stats.factoryErrors = .ofNat (occurrences .failed J)
  /-- Hits and misses are the gets that handed out an instance. -/
  gets : p.stats.hits + p.stats.misses = .ofNat (occurrences .got J)
  /-- Releases are counted. -/
  released : p.stats.released = .ofNat (occurrences .released J)

/-- The counters of a pool fit a journal in which nothing nested too deep. -/
theorem Chronicle.balanced {kind : Kind} {J : List (Deed ε α)} {p : Pool α}
    (h : Chronicle kind J p) (hlapsed : occurrences .lapsed J = 0) : Balanced J p := by
  obtain ⟨hadded, hserved, hreleased, hgot, hreturned, hfailed, hbegan⟩ :=
    lawful_of_total h.total_eq_zero
  have htallied : p.idle.Tallied := by
    rw [h.pool_eq]
    exact tallied_after (Idle.tallied_empty kind) J
  have havailable : p.stats.available = p.idle.toList.length := Idle.available_eq htallied
  have hlength := h.length_idle
  have hcounters := h.counters_eq
  have hword : ∀ n, (0 : UInt64) + .ofNat n = .ofNat n := fun _ => UInt64.zero_add _
  have hcreated : p.stats.created = .ofNat _ :=
    (congrArg Counters.created hcounters).trans (hword _)
  have hhits : p.stats.hits = .ofNat _ := (congrArg Counters.hits hcounters).trans (hword _)
  have hmisses : p.stats.misses = .ofNat _ := (congrArg Counters.misses hcounters).trans (hword _)
  have hreleases : p.stats.released = .ofNat _ :=
    (congrArg Counters.released hcounters).trans (hword _)
  have hgrown : p.stats.grown = .ofNat _ := (congrArg Counters.grown hcounters).trans (hword _)
  have herrors : p.stats.factoryErrors = .ofNat _ :=
    (congrArg Counters.factoryErrors hcounters).trans (hword _)
  have hcalls : p.calls = occurrences .began J := by
    rw [h.pool_eq, calls_after]
    exact Nat.zero_add _
  refine ⟨?_, ?_, ?_, hcalls, ?_, ?_, ?_⟩
  · rw [havailable, hhits, hgrown, hreleases, ← UInt64.ofNat_add, ← UInt64.ofNat_add]
    exact congrArg UInt64.ofNat (by omega)
  · rw [hcreated, hgrown, hmisses, ← UInt64.ofNat_add]
  · rw [hcreated, herrors, ← UInt64.ofNat_add, ← UInt64.ofNat_add]
    exact congrArg UInt64.ofNat (by omega)
  · rw [herrors, hfailed]
  · rw [hhits, hmisses, ← UInt64.ofNat_add, hgot]
  · rw [hreleases, hreleased]

/-- **The counters of a pool balance** after every session that ends, in either kind of store and
whatever the calls of its factory do with the pool. -/
theorem counters_balance (f : Factory ε α) (kind : Kind) (depth : Nat) (initial : UInt64)
    (requests : List (Request α)) (hbuild : (f.build kind depth initial).1 = .ok ())
    (hfinished : ∀ e ∈ Desk.endings f depth requests (Desk.opened f kind depth initial),
      e ≠ .unfinished) :
    Balanced (session f kind depth initial requests).journal.toList
      (session f kind depth initial requests).state.pool := by
  refine (chronicle_session f kind depth initial requests).balanced ?_
  refine session_not_lapsed ?_ hfinished
  rw [hbuild]
  exact nofun

/-- A factory whose calls use the pool, panic and fail. -/
def unruly : Plan where
  first := [.make, .use (some { tag := 70 }) (some 2) true, .panic "worn out", .fail "no more",
    .use none (some 1) true, .use none none true]
  later := .make
  fallible := true
  opening := 1

/-- Requests that run into all of this. -/
def unrulyRequests : List (Request Tagged) :=
  [.checkout, .get, .get, .checkout, .get, .drop 0, .bring { tag := 71 }, .grow 2]

/-- Counters balance after a session with an unruly factory. -/
theorem counters_balance_unruly :
    (unruly.factory.build .queue 9 1).1 = .ok () ∧
    (∀ e ∈ Desk.endings unruly.factory 9 unrulyRequests (Desk.opened unruly.factory .queue 9 1),
      e ≠ .unfinished) ∧
    Balanced (session unruly.factory .queue 9 1 unrulyRequests).journal.toList
      (session unruly.factory .queue 9 1 unrulyRequests).state.pool := by
  have hbuild : (unruly.factory.build .queue 9 1).1 = .ok () := by decide
  have hfinished : ∀ e ∈ Desk.endings unruly.factory 9 unrulyRequests
      (Desk.opened unruly.factory .queue 9 1), e ≠ .unfinished := by decide +kernel
  exact ⟨hbuild, hfinished,
    counters_balance unruly.factory .queue 9 1 unrulyRequests hbuild hfinished⟩

end Pool

end ConverterKit
