import ConverterKit.Proofs.Pool.Aloof

/-!
# What failures leave behind

With a factory that leaves its pool alone one knows exactly what a failure leaves behind. A growth
asks for one instance after the other and stops at the first call that returns none. What was made
until then stays; it is added behind what was idle, in order, and counted. The call that stopped the
growth is counted if it returned an error, and not if it panicked. A get that finds nothing idle and
gets nothing from the factory changes nothing else, and building a pool is growing an empty one.

The one failure that comes before any call is a stack without room for a growth.

## Main definitions

* `Factory.products`: what so many calls make, up to the first one that makes nothing
* `Pool.stocked`: a pool with further idle instances, counted as grown
* `ExactGrowth`, `ExactlyGrown`: what a growth leaves behind, however it ends
* `ExactFailure`: what failures leave behind

## Main results

* `Factory.Aloof.exact_grow`: a growth leaves its products
* `failures_exact`: what failures leave behind, in either kind of store
-/

namespace ConverterKit

namespace Pool

variable {ε α β : Type}

/-! ## What calls make -/

namespace Factory

/-- What the given number of calls make, from the one with the number `start` on, up to the first
one that makes nothing. -/
def products (f : Factory ε α) (start : Nat) : Nat → List α
  | 0 => []
  | n + 1 =>
    match f.outcome start with
    | .ok a => a :: f.products (start + 1) n
    | _ => []

variable {f : Factory ε α} {start n : Nat}

theorem products_of_ok {a : α} (h : f.outcome start = .ok a) :
    f.products start (n + 1) = a :: f.products (start + 1) n := by
  rw [products, h]

theorem products_of_stop {e : Ending ε β} (h : (f.outcome start).stop? = some e) :
    f.products start (n + 1) = [] := by
  rw [products]
  cases hout : f.outcome start with
  | ok a =>
    rw [hout] at h
    cases h
  | _ => rfl

/-- What is made was made by a call. -/
theorem exists_outcome_of_mem_products {a : α} (h : a ∈ f.products start n) :
    ∃ number, f.outcome number = .ok a := by
  induction n generalizing start with
  | zero => cases h
  | succ n ih =>
    rw [products] at h
    split at h
    · next b hb =>
      rcases List.mem_cons.mp h with rfl | h
      · exact ⟨start, hb⟩
      · exact ih h
    · cases h

end Factory

/-! ## Growths -/

/-- How many errors an ending counts for. -/
def errors : Ending ε β → Nat
  | .error _ => 1
  | _ => 0

/-- A pool in which these instances were added and counted as grown, with so many calls that began
and so many errors of the factory. -/
def stocked (p : Pool α) (made : List α) (calls errors : Nat) : Pool α where
  idle := made.foldl .push p.idle
  counters := { p.counters with
    created := p.counters.created + .ofNat made.length
    grown := p.counters.grown + .ofNat made.length
    factoryErrors := p.counters.factoryErrors + .ofNat errors }
  calls := p.calls + calls

theorem Idle.toList_foldl_push (idle : Idle α) (made : List α) :
    (made.foldl Idle.push idle).toList = idle.toList ++ made := by
  induction made generalizing idle with
  | nil => exact (List.append_nil _).symm
  | cons a made ih => rw [List.foldl_cons, ih, Idle.toList_push, List.append_assoc]; rfl

/-- A call was made for the first instance, and it was added. -/
theorem stocked_stocked (p : Pool α) (a : α) (made : List α) (calls errors : Nat) :
    (p.stocked [a] 1 0).stocked made calls errors =
      p.stocked (a :: made) (calls + 1) errors := by
  simp only [stocked, List.foldl_cons, List.foldl_nil, List.length_cons, List.length_nil,
    UInt64.ofNat_add, Pool.mk.injEq, Counters.mk.injEq, true_and]
  refine ⟨⟨?_, ?_, ?_⟩, ?_⟩
  · ac_rfl
  · ac_rfl
  · simp
  · omega

/-- **What a growth leaves behind**, however it ends: what the calls made up to the first one that
made nothing. -/
structure ExactGrowth (f : Factory ε α) (count : Nat) (p : Pool α) (e : Ending ε Unit)
    (q : Pool α) : Prop where
  /-- It succeeds if every call makes an instance. -/
  ok_iff : e = .ok () ↔ (f.products p.calls count).length = count
  /-- Otherwise it ends as the first call does that makes none. -/
  stop : (f.products p.calls count).length < count →
    (f.outcome (p.calls + (f.products p.calls count).length)).stop? = some e
  /-- What was made is added and counted. Further, each call made has a number, and an error of the
  last of them is counted. Nothing else has changed. -/
  pool_eq : q = p.stocked (f.products p.calls count)
    (min count ((f.products p.calls count).length + 1)) (errors e)

namespace ExactGrowth

variable {f : Factory ε α} {n : Nat} {p q : Pool α} {e : Ending ε Unit}

/-- What was made is idle, behind what was idle before. -/
theorem toList_idle (h : ExactGrowth f n p e q) :
    q.idle.toList = p.idle.toList ++ f.products p.calls n := by
  rw [h.pool_eq]
  exact Idle.toList_foldl_push _ _

theorem nothing (f : Factory ε α) (p : Pool α) : ExactGrowth f 0 p (.ok ()) p where
  ok_iff := ⟨fun _ => rfl, fun _ => rfl⟩
  stop h := absurd h (Nat.not_lt_zero _)
  pool_eq := by simp [stocked, Factory.products, errors]

/-- A call makes an instance, which is added, and the growth goes on. -/
theorem cons {a : α} (hmade : f.outcome p.calls = .ok a)
    (h : ExactGrowth f n (p.stocked [a] 1 0) e q) : ExactGrowth f (n + 1) p e q := by
  obtain ⟨hok, hstop, hpool⟩ := h
  have hproducts : f.products p.calls (n + 1) = a :: f.products (p.stocked [a] 1 0).calls n :=
    Factory.products_of_ok hmade
  refine ⟨?_, fun hlt => ?_, ?_⟩
  · rw [hproducts, hok, List.length_cons, Nat.add_right_cancel_iff]
  · rw [hproducts, List.length_cons] at hlt ⊢
    have hrest := hstop (Nat.lt_of_succ_lt_succ hlt)
    rwa [stocked, Nat.add_assoc, Nat.add_comm 1] at hrest
  · rw [hpool, stocked_stocked, hproducts, List.length_cons, Nat.add_min_add_right]

/-- A call makes no instance, and the growth stops. -/
theorem stopped (hstop : (f.outcome p.calls).stop? = some e) :
    ExactGrowth f (n + 1) p e (p.stocked [] 1 (errors e)) := by
  have hproducts : f.products p.calls (n + 1) = [] := Factory.products_of_stop hstop
  refine ⟨?_, fun _ => ?_, ?_⟩
  · rw [hproducts]
    refine ⟨?_, nofun⟩
    rintro rfl
    cases hout : f.outcome p.calls <;> rw [hout] at hstop <;> cases hstop
  · rw [hproducts]
    exact hstop
  · rw [hproducts, List.length_nil, Nat.add_comm n, Nat.min_eq_right (Nat.le_add_right _ _)]

end ExactGrowth

/-- How a growth turns out, and the pool it leaves. -/
structure ExactlyGrown (f : Factory ε α) (count : UInt64) (p : Pool α) (e : Ending ε Unit)
    (q : Pool α) : Prop where
  /-- Where there is room, it leaves what the calls made. -/
  room : count = 0 ∨ p.HasRoom f.instanceSize count → ExactGrowth f count.toNat p e q
  /-- Without room it panics before any call, and nothing has changed. -/
  refused : count ≠ 0 → ¬p.HasRoom f.instanceSize count →
    e = .panicked "capacity overflow" ∧ q = p

/-- What is idle after a growth was idle before or was made by a call. -/
theorem ExactlyGrown.mem_idle {f : Factory ε α} {count : UInt64} {p q : Pool α}
    {e : Ending ε Unit} (h : ExactlyGrown f count p e q) {a : α} (ha : a ∈ q.idle.toList) :
    a ∈ p.idle.toList ∨ ∃ number, f.outcome number = .ok a := by
  by_cases hroom : count = 0 ∨ p.HasRoom f.instanceSize count
  · rw [(h.room hroom).toList_idle] at ha
    exact (List.mem_append.mp ha).imp_right Factory.exists_outcome_of_mem_products
  · obtain ⟨hcount, hno⟩ := not_or.mp hroom
    obtain ⟨-, rfl⟩ := h.refused hcount hno
    exact .inl ha

/-- A growth that succeeds has added as many instances as it should. -/
theorem ExactlyGrown.length_idle {f : Factory ε α} {count : UInt64} {p q : Pool α}
    (h : ExactlyGrown f count p (.ok ()) q) :
    q.idle.toList.length = p.idle.toList.length + count.toNat := by
  by_cases hroom : count = 0 ∨ p.HasRoom f.instanceSize count
  · have hexact := h.room hroom
    rw [hexact.toList_idle, List.length_append, hexact.ok_iff.mp rfl]
  · obtain ⟨hcount, hno⟩ := not_or.mp hroom
    cases (h.refused hcount hno).1

namespace Factory.Aloof

variable {f : Factory ε α} {depth : Nat} {p : Pool α} {J : List (Deed ε α)}

/-- Adding new instances leaves what the calls made. -/
theorem exact_add (hf : f.Aloof) {n : Nat} {e : Ending ε Unit}
    (h : Runs f (depth + 1) (.add n) p J e) : ExactGrowth f n p e (p.after J) := by
  induction n generalizing p J with
  | zero =>
    cases h
    exact .nothing f p
  | succ n ih =>
    cases h with
    | @added _ _ _ a J K _ hmake hrest =>
      obtain ⟨hmade, rfl⟩ := hf.make hmake
      have hadded : (p.after [.callBegan p.idle, .callEnded (.ok a : Ending ε α)]).after
          (additionDeeds a : List (Deed ε α)) = p.stocked [a] 1 0 := by
        simp [next, additionDeeds, Counters.count, stocked]
      have hnofailure : failureDeeds p.kind (.ok a : Ending ε α) = [] := rfl
      have hgrowth := ih hrest
      rw [after_append, after_append]
      rw [hnofailure, List.append_nil, hadded] at hgrowth ⊢
      exact hgrowth.cons hmade.symm
    | @addStopped _ _ _ _ g _ hmake hstop =>
      obtain ⟨rfl, rfl⟩ := hf.make hmake
      have hstopped : p.after ([.callBegan p.idle, .callEnded (f.outcome p.calls)] ++
          failureDeeds p.kind (f.outcome p.calls)) = p.stocked [] 1 (errors e) := by
        cases hout : f.outcome p.calls with
        | ok a =>
          rw [hout] at hstop
          cases hstop
        | _ =>
          rw [hout] at hstop
          obtain rfl := Option.some.inj hstop
          simp [next, failureDeeds, Counters.count, stocked, errors]
      rw [hstopped]
      exact .stopped hstop

/-- **A growth leaves what the calls made**, or nothing if there is no room for it. -/
theorem exact_grow (hf : f.Aloof) {count : UInt64} {e : Ending ε Unit}
    (h : Runs f (depth + 1) (.grow count) p J e) : ExactlyGrown f count p e (p.after J) := by
  cases h with
  | grewByNone => exact ⟨fun _ => .nothing f p, fun hcount => absurd rfl hcount⟩
  | growRefused hcount hno =>
    exact ⟨fun hroom => absurd hroom (not_or_intro hcount hno), fun _ _ => ⟨rfl, rfl⟩⟩
  | grew hcount hroom hadd =>
    refine ⟨fun _ => ?_, fun _ hno => absurd hroom hno⟩
    have hbegan : p.next (.growBegan count : Deed ε α) = p := rfl
    have hended : ∀ q : Pool α, q.after (growthDeeds q count e ++ [.growEnded count e]
        : List (Deed ε α)) = q := fun q => by cases e <;> rfl
    rw [after_cons, after_append, hbegan, hended]
    exact hf.exact_add hadd

/-- **A get that fails** leaves everything as it was but the count of calls and that of errors. -/
theorem exact_get (hf : f.Aloof) {g e : Ending ε α} (hidle : p.idle.toList = [])
    (hstop : (f.outcome p.calls).stop? = some g) (h : Runs f (depth + 1) .get p J e) :
    e = g ∧ p.after J = p.stocked [] 1 (errors g) := by
  cases h with
  | hit hpop =>
    rw [Idle.pop?_eq_none_iff.mpr hidle] at hpop
    cases hpop
  | missed hpop hmake =>
    obtain ⟨rfl, rfl⟩ := hf.make hmake
    cases hout : f.outcome p.calls with
    | ok a =>
      rw [hout] at hstop
      cases hstop
    | _ =>
      rw [hout] at hstop
      obtain rfl := Option.some.inj hstop
      simp [next, failureDeeds, missDeeds, Counters.count, stocked, errors]

/-- What is idle after a get was idle before. -/
theorem mem_idle_get (hf : f.Aloof) {e : Ending ε α} (h : Runs f (depth + 1) .get p J e) {a : α}
    (ha : a ∈ (p.after J).idle.toList) : a ∈ p.idle.toList := by
  cases h with
  | @hit _ _ b rest hpop =>
    have hrest : (p.after [.served b, .counted .hit, .getEnded (.ok b : Ending ε α)]).idle =
        rest := by
      simp only [after_cons, after_nil, next, hpop]
    rw [hrest] at ha
    exact (Idle.perm_of_pop? hpop).mem_iff.mpr (List.mem_cons_of_mem b ha)
  | missed _ hmake =>
    obtain ⟨-, rfl⟩ := hf.make hmake
    cases e <;> exact ha

end Factory.Aloof

/-! ## Failures -/

/-- **What failures leave behind** in a pool with this factory. -/
structure ExactFailure (f : Factory ε α) (depth : Nat) (s : Scene (Pool α) (Deed ε α)) : Prop where
  /-- A growth leaves what the calls made until then. -/
  growth : ∀ count, ExactlyGrown f count s.state (f.grow depth count s).1
    (f.grow depth count s).2.state
  /-- A get that finds nothing idle and gets nothing from the factory ends as the call does. Nothing
  has changed but the count of calls and, if there was an error, that of errors. -/
  get : ∀ e, s.state.idle.toList = [] → (f.outcome s.state.calls).stop? = some e →
    (f.get depth s).1 = e ∧ (f.get depth s).2.state = s.state.stocked [] 1 (errors e)
  /-- Building a pool is growing an empty one. -/
  build : ∀ kind initial, ExactlyGrown f initial (.empty kind) (f.build kind depth initial).1
    (f.build kind depth initial).2.state

/-- **Failures leave an exact state**: with a factory that leaves the pool alone, one knows what a
growth, a get and the building of a pool leave behind when the factory fails, in either kind of
store and whatever the pool was. -/
theorem failures_exact {f : Factory ε α} (hf : f.Aloof) (depth : Nat)
    (s : Scene (Pool α) (Deed ε α)) : ExactFailure f (depth + 1) s where
  growth count := by
    obtain ⟨J, e, heq, h⟩ := exists_runs f (depth + 1) (.grow count) s
    have hgrow : f.grow (depth + 1) count s = (e, record s J) := heq
    rw [hgrow, state_record]
    exact hf.exact_grow h
  get g hidle hstop := by
    obtain ⟨J, e, heq, h⟩ := exists_runs f (depth + 1) .get s
    have hget : f.get (depth + 1) s = (e, record s J) := heq
    rw [hget, state_record]
    exact hf.exact_get hidle hstop h
  build kind initial := by
    obtain ⟨J, e, h, hbuild⟩ := exists_opening f kind (depth + 1) initial
    have hready : ∀ q : Pool α, q.after (readyDeeds kind initial e : List (Deed ε α)) = q :=
      fun q => by cases e <;> rfl
    rw [hbuild, state_record, after_append, hready]
    exact hf.exact_grow h

/-- A factory that makes three instances, returns an error and then panics. -/
def spent : Plan where
  first := [.make, .make, .make, .fail "spent"]
  later := .panic "worn out"
  fallible := true
  opening := 0

/-- A pool of two instances is grown by three of which one is made, and a get from the empty pool
runs into the panic. -/
theorem failures_exact_spent :
    spent.factory.Aloof ∧
      (spent.factory.grow 1 3 (spent.factory.build .queue 1 2).2).1 = .error "spent" ∧
      (spent.factory.grow 1 3 (spent.factory.build .queue 1 2).2).2.state =
        (spent.factory.build .queue 1 2).2.state.stocked [{ tag := 2 }] 2 1 ∧
      (spent.factory.get 1 (.fresh { idle := .stack [], calls := 4 })).1 =
        .panicked "worn out" := by
  have haloof : spent.factory.Aloof := Plan.aloof (by decide)
  have hgrowth := (failures_exact haloof 0 (spent.factory.build .queue 1 2).2).growth 3
  have hexact := hgrowth.room (.inr trivial)
  have hget := (failures_exact haloof 0 (.fresh { idle := .stack [], calls := 4 })).get
  have hstopped : .error "spent" = (spent.factory.grow 1 3 (spent.factory.build .queue 1 2).2).1 :=
    Option.some.inj (hexact.stop (by decide))
  refine ⟨haloof, hstopped.symm, ?_, (hget (.panicked "worn out") rfl rfl).1⟩
  have hpool := hexact.pool_eq
  rw [← hstopped] at hpool
  exact hpool

end Pool

end ConverterKit
