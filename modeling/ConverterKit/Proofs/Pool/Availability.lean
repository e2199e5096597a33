import ConverterKit.Proofs.Pool.Counters
import ConverterKit.Proofs.Pool.Setback

/-!
# The number of available instances is the truth

A pool says how many instances are available, and a user reads this as a promise: so many gets will
be served without the factory. The promise is kept. Whatever sessions and factory calls did to the
pool before, as many gets as it says are hits, and the next one calls the factory.

For a stack this is plain, since it answers with its height. A queue answers with the tally that is
kept beside it, and an arrival and a departure change the two one after the other. An arrival is
split into `Idle.raise` and `Idle.enter`, a departure into `Idle.leave?` and `Idle.lower`; between
the halves of either the tally is one ahead of the queue, so it is never below zero, and before and
after them it is the length.

## Main definitions

* `Idle.raise`, `Idle.enter`, `Idle.leave?`, `Idle.lower`: the halves of an arrival and a departure
* `Idle.Ahead`: the tally is one ahead of the queue
* `Factory.gets`: many gets in a row
* `Truthful`: the number of available instances is that of the gets served without the factory

## Main results

* `Idle.push_eq`, `Idle.pop?_eq`: an arrival and a departure are made of their halves
* `exists_gets`: as many gets as there are idle instances are served from them
* `available_truthful`: the number of available instances is the truth, at every moment of every
  session
-/

namespace ConverterKit

namespace Pool

variable {ε α β : Type}

/-! ## The halves of an arrival and of a departure -/

namespace Idle

/-- The tally is raised for an instance that is about to arrive. -/
def raise : Idle α → Idle α
  | .stack items => .stack items
  | .queue line tally => .queue line (tally + 1)

/-- An instance arrives for which the tally was raised. -/
def enter (idle : Idle α) (a : α) : Idle α :=
  match idle with
  | .stack items => .stack (a :: items)
  | .queue line tally => .queue (line.push a) tally

/-- The instance to serve next leaves, and the tally is not yet lowered. -/
def leave? : Idle α → Option (α × Idle α)
  | .stack [] => none
  | .stack (a :: items) => some (a, .stack items)
  | .queue line tally => line.pop?.map fun (a, rest) => (a, .queue rest tally)

/-- The tally is lowered for an instance that has left. -/
def lower : Idle α → Idle α
  | .stack items => .stack items
  | .queue line tally => .queue line (tally - 1)

/-- **An arrival is made of its halves**, the tally first. -/
theorem push_eq (idle : Idle α) (a : α) : idle.push a = idle.raise.enter a := by
  cases idle <;> rfl

/-- **A departure is made of its halves**, the tally last. -/
theorem pop?_eq (idle : Idle α) :
    idle.pop? = idle.leave?.map fun (a, rest) => (a, rest.lower) := by
  match idle with
  | .stack [] => rfl
  | .stack (_ :: _) => rfl
  | .queue line tally => cases h : line.pop? <;> simp [pop?, leave?, lower, h]

/-- The tally, if the store keeps one, is one more than the number of queued instances. -/
def Ahead : Idle α → Prop
  | .stack _ => True
  | .queue line tally => tally = line.toList.length + 1

theorem Tallied.raise {idle : Idle α} (h : idle.Tallied) : idle.raise.Ahead := by
  cases idle with
  | stack items => trivial
  | queue line tally => exact congrArg (· + 1) h

theorem Tallied.leave? {idle rest : Idle α} {a : α} (h : idle.Tallied)
    (hleave : idle.leave? = some (a, rest)) : rest.Ahead := by
  match idle with
  | .stack [] => simp [Idle.leave?] at hleave
  | .stack (_ :: _) =>
    obtain ⟨rfl, rfl⟩ := by simpa [Idle.leave?] using hleave
    trivial
  | .queue line tally =>
    obtain ⟨⟨b, r⟩, hline, hrest⟩ := Option.map_eq_some_iff.mp hleave
    obtain ⟨rfl, rfl⟩ := Prod.mk.inj hrest
    have htally : tally = line.toList.length := h
    show tally = r.toList.length + 1
    rw [htally, Line.toList_of_pop? hline, List.length_cons]
    rfl

end Idle

/-! ## Many gets -/

/-- Get so many instances, one after the other. -/
def Factory.gets (f : Factory ε α) (depth : Nat) : Nat → Work ε α (List α)
  | 0 => return []
  | n + 1 => do
    let a ← f.get depth
    let others ← f.gets depth n
    return a :: others

/-- The second pool is the first one after these instances were served: each of them has left the
idle ones and is a hit, and nothing else has changed. -/
structure Handed (p : Pool α) (served : List α) (q : Pool α) : Prop where
  /-- The instances were idle, and those not served still are. -/
  idle : p.idle.toList.Perm (served ++ q.idle.toList)
  /-- Each of them is a hit, and nothing else is counted. -/
  counters : q.counters = { p.counters with hits := p.counters.hits + .ofNat served.length }
  /-- The factory was not called. -/
  calls : q.calls = p.calls

theorem Handed.nothing (p : Pool α) : Handed p [] p where
  idle := .refl _
  counters := by simp
  calls := rfl

/-- One more instance is served before the others. -/
theorem Handed.cons {p q : Pool α} {a : α} {rest : Idle α} {served : List α}
    (hidle : p.idle.pop? = some (a, rest))
    (h : Handed { p with idle := rest, counters := p.counters.count .hit } served q) :
    Handed p (a :: served) q where
  idle := (Idle.perm_of_pop? hidle).trans (h.idle.cons a)
  counters := by
    rw [h.counters, List.length_cons, UInt64.ofNat_add, UInt64.add_comm (.ofNat served.length),
      ← UInt64.add_assoc]
    rfl
  calls := h.calls

/-- What is noted when instances are got that were idle. -/
def hitDeeds (served : List α) : List (Deed ε α) :=
  served.flatMap fun a => [.served a, .counted .hit, .getEnded (.ok a)]

/-- **As many gets as there are idle instances are served from them.** -/
theorem exists_gets (f : Factory ε α) (depth : Nat) {n : Nat} (s : Scene (Pool α) (Deed ε α))
    (hn : n ≤ s.state.idle.toList.length) :
    ∃ served, f.gets depth n s = (.ok served, record s (hitDeeds served)) ∧ served.length = n ∧
      Handed s.state served (s.state.after (hitDeeds served : List (Deed ε α))) := by
  induction n generalizing s with
  | zero => exact ⟨[], rfl, rfl, .nothing _⟩
  | succ n ih =>
    rcases hidle : s.state.idle.pop? with _ | ⟨a, rest⟩
    · rw [Idle.pop?_eq_none_iff.mp hidle] at hn
      exact absurd hn (Nat.not_succ_le_zero n)
    · have hget : f.get depth s = (.ok a, record s (hitDeeds [a])) := get_of_some hidle
      have hpool : s.state.after (hitDeeds [a] : List (Deed ε α)) =
          { s.state with idle := rest, counters := s.state.counters.count .hit } := by
        simp [hitDeeds, next, hidle]
      have hrest : n ≤ (record s (hitDeeds [a])).state.idle.toList.length := by
        have hlength := (Idle.perm_of_pop? hidle).length_eq
        rw [state_record, hpool]
        simp only [List.length_cons] at hlength
        show n ≤ rest.toList.length
        omega
      obtain ⟨served, hgets, hlength, hhanded⟩ := ih _ hrest
      rw [state_record] at hhanded
      have happend : (hitDeeds (a :: served) : List (Deed ε α)) = hitDeeds [a] ++ hitDeeds served :=
        rfl
      refine ⟨a :: served, ?_, by rw [List.length_cons, hlength], ?_⟩
      · rw [happend, record_append]
        show (f.get depth >>= fun b => f.gets depth n >>= fun others => pure (b :: others)) s = _
        rw [Act.bind_of_ok hget, Act.bind_of_ok hgets]
        rfl
      · rw [happend, after_append]
        rw [hpool] at hhanded ⊢
        exact hhanded.cons hidle

/-- **A get from an empty pool calls the factory.** -/
theorem calls_lt_get (f : Factory ε α) (depth : Nat) (s : Scene (Pool α) (Deed ε α))
    (hidle : s.state.idle.toList = []) :
    s.state.calls < (f.get (depth + 1) s).2.state.calls := by
  obtain ⟨J, e, heq, h⟩ := exists_runs f (depth + 1) .get s
  have hget : f.get (depth + 1) s = (e, record s J) := heq
  rw [hget, state_record, calls_after]
  cases h with
  | hit hpop =>
    rw [Idle.pop?_eq_none_iff.mpr hidle] at hpop
    cases hpop
  | missed hpop hmake =>
    cases hmake with
    | made hcall =>
      cases hcall with
      | called hplay =>
        simp only [List.cons_append, occurrences_cons, Deed.mark?]
        simp

/-! ## The promise -/

/-- **The number of available instances is the truth** about the gets to come. -/
structure Truthful (f : Factory ε α) (depth : Nat) (s : Scene (Pool α) (Deed ε α)) : Prop where
  /-- The tally, if the store keeps one, is the number of queued instances. -/
  tallied : s.state.idle.Tallied
  /-- So many gets, and any fewer, are served without the factory, and each of them takes one from
  the number. -/
  gets : ∀ n ≤ s.state.stats.available, ∃ served t, f.gets depth n s = (.ok served, t) ∧
    served.length = n ∧ Handed s.state served t.state ∧
      t.state.stats.available + n = s.state.stats.available
  /-- The get after them calls the factory. -/
  exhausted : (f.gets depth s.state.stats.available s).2.state.calls <
    (f.get depth (f.gets depth s.state.stats.available s).2).2.state.calls

/-- What makes a pool truthful is that its tally is right. -/
theorem truthful_of_tallied (f : Factory ε α) (depth : Nat) {s : Scene (Pool α) (Deed ε α)}
    (h : s.state.idle.Tallied) : Truthful f (depth + 1) s := by
  have havailable : s.state.stats.available = s.state.idle.toList.length := Idle.available_eq h
  have hgets : ∀ n ≤ s.state.stats.available, ∃ served t, f.gets (depth + 1) n s =
      (.ok served, t) ∧ served.length = n ∧ Handed s.state served t.state ∧
        t.state.stats.available + n = s.state.stats.available := by
    intro n hn
    obtain ⟨served, heq, hlength, hhanded⟩ :=
      exists_gets f (depth + 1) s (hn.trans_eq havailable)
    refine ⟨served, _, heq, hlength, by rwa [state_record], ?_⟩
    have hleft : (record s (hitDeeds served)).state.stats.available =
        (record s (hitDeeds served)).state.idle.toList.length := by
      rw [state_record]
      exact Idle.available_eq (tallied_after h _)
    have hperm := hhanded.idle.length_eq
    rw [List.length_append, hlength] at hperm
    rw [hleft, havailable, state_record, hperm, Nat.add_comm]
  refine ⟨h, hgets, ?_⟩
  obtain ⟨served, t, heq, hlength, hhanded, -⟩ := hgets _ le_rfl
  rw [heq]
  refine calls_lt_get f depth t ?_
  have hperm := hhanded.idle.length_eq
  rw [List.length_append, hlength, havailable] at hperm
  exact List.length_eq_zero_iff.mp (by omega)

/-- The number of available instances, seen from every moment of a session: between any two deeds,
in the middle of an operation or of a factory call just as between operations. -/
structure Available (f : Factory ε α) (depth : Nat) (kind : Kind)
    (s : Scene (Desk α) (Deed ε α)) : Prop where
  /-- The pool is what its journal says, so its moments are the beginnings of the journal. -/
  pool_eq : s.state.pool = (empty kind).after s.journal.toList
  /-- At every moment the number is the truth. -/
  moment : ∀ J, J <+: s.journal.toList → ∀ noted, Truthful f depth ⟨(empty kind).after J, noted⟩
  /-- A factory call finds the pool as it is at the moment the call begins, with a right tally. -/
  entry : ∀ J idle, J ++ [.callBegan idle] <+: s.journal.toList →
    idle = ((empty kind).after J).idle ∧ idle.Tallied
  /-- While an instance arrives, the tally is one ahead of the queue. -/
  arrival : ∀ J a, J ++ [.added a] <+: s.journal.toList →
    ((empty kind).after J).idle.raise.Ahead ∧
      ((empty kind).after (J ++ [.added a] : List (Deed ε α))).idle =
        ((empty kind).after J).idle.raise.enter a
  /-- While an instance leaves, the tally is one ahead of the queue. -/
  departure : ∀ J a, J ++ [.served a] <+: s.journal.toList →
    ∃ rest, ((empty kind).after J).idle.leave? = some (a, rest) ∧ rest.Ahead ∧
      ((empty kind).after (J ++ [.served a] : List (Deed ε α))).idle = rest.lower
  /-- A growth that succeeds with a factory that leaves the pool alone raises the number by just as
  many, and the number is the truth again. -/
  growth : f.Aloof → ∀ J, J <+: s.journal.toList → ∀ noted count t,
    f.grow depth count ⟨(empty kind).after J, noted⟩ = (.ok (), t) →
      t.state.stats.available = ((empty kind).after J).stats.available + count.toNat ∧
        Truthful f depth t

/-- A growth that succeeds with a factory that leaves the pool alone makes just as many instances
available. -/
theorem Factory.Aloof.available_grow {f : Factory ε α} (hf : f.Aloof) {depth : Nat}
    {s t : Scene (Pool α) (Deed ε α)} {count : UInt64} (h : s.state.idle.Tallied)
    (hgrow : f.grow (depth + 1) count s = (.ok (), t)) :
    t.state.idle.Tallied ∧
      t.state.stats.available = s.state.stats.available + count.toNat := by
  obtain ⟨J, e, heq, hruns⟩ := exists_runs f (depth + 1) (.grow count) s
  obtain ⟨rfl, rfl⟩ := Prod.mk.inj (hgrow.symm.trans heq)
  have hlength := (hf.exact_grow hruns).length_idle
  have htallied : (s.state.after J).idle.Tallied := tallied_after h J
  rw [state_record]
  refine ⟨htallied, ?_⟩
  calc (s.state.after J).stats.available
      = (s.state.after J).idle.toList.length := Idle.available_eq htallied
    _ = s.state.idle.toList.length + count.toNat := hlength
    _ = s.state.stats.available + count.toNat := by rw [← Idle.available_eq h]; rfl

/-- **The number of available instances is the truth** at every moment of every session, in either
kind of store and whatever the calls of the factory do with the pool. -/
theorem available_truthful (f : Factory ε α) (kind : Kind) (depth : Nat) (initial : UInt64)
    (requests : List (Request α)) :
    Available f (depth + 1) kind (session f kind (depth + 1) initial requests) := by
  have hchronicle := chronicle_session f kind (depth + 1) initial requests
  have hcalls : Fitting fun (p : Pool α) (d : Deed ε α) =>
      ∀ idle, d = .callBegan idle → idle = p.idle :=
    ⟨fun _ _ hd => (Deed.callBegan.inj hd).symm, fun _ _ _ _ => nofun,
      fun _ _ hbegan _ idle hd => absurd hd (hbegan idle)⟩
  have halong := along_session hcalls f kind (depth + 1) initial requests
  have htallied : ∀ J : List (Deed ε α), ((empty kind : Pool α).after J).idle.Tallied :=
    tallied_after (Idle.tallied_empty kind)
  refine ⟨hchronicle.pool_eq, ?_, ?_, ?_, ?_, ?_⟩
  · intro J _ noted
    exact truthful_of_tallied f depth (htallied J)
  · rintro J idle ⟨K, hK⟩
    rw [← hK, along_append, along_append] at halong
    have hidle : idle = ((empty kind).after J).idle := halong.1.2.1 idle rfl
    exact ⟨hidle, hidle ▸ htallied J⟩
  · intro J a _
    rw [after_append]
    exact ⟨(htallied J).raise, Idle.push_eq _ a⟩
  · rintro J a ⟨K, hK⟩
    have hsupplies := hchronicle.supplies
    rw [← hK, supplies_append, supplies_append] at hsupplies
    obtain ⟨rest, hpop⟩ := hsupplies.1.2.1 a rfl
    obtain ⟨⟨b, left⟩, hleave, hrest⟩ :=
      Option.map_eq_some_iff.mp ((Idle.pop?_eq _).symm.trans hpop)
    obtain ⟨rfl, rfl⟩ := Prod.mk.inj hrest
    refine ⟨left, hleave, (htallied J).leave? hleave, ?_⟩
    rw [after_append]
    simp [next, hpop]
  · intro hf J _ noted count t hgrow
    obtain ⟨ht, havailable⟩ := hf.available_grow (htallied J) hgrow
    exact ⟨havailable, truthful_of_tallied f depth ht⟩

/-- From a pool of two instances one is got, and the pool is grown by one. Two are available then,
and two gets are served without the factory. -/
theorem available_truthful_spent :
    spent.factory.Aloof ∧ ∃ served t u,
      spent.factory.grow 1 1 ⟨(session spent.factory .queue 1 2 [.get]).state.pool, #[]⟩ =
        (.ok (), t) ∧ t.state.stats.available = 2 ∧
      spent.factory.gets 1 2 t = (.ok served, u) ∧ u.state.calls = 3 := by
  have haloof : spent.factory.Aloof := Plan.aloof (by decide)
  have hkept : Available spent.factory 1 .queue (session spent.factory .queue 1 2 [.get]) :=
    available_truthful spent.factory .queue 0 2 [.get]
  have hgrowth := hkept.growth haloof _ List.prefix_rfl #[] 1
  rw [← hkept.pool_eq] at hgrowth
  generalize hs : (⟨(session spent.factory .queue 1 2 [.get]).state.pool, #[]⟩ :
    Scene (Pool Tagged) (Deed String Tagged)) = s at hgrowth ⊢
  have hgrown : spent.factory.grow 1 1 s = (.ok (), (spent.factory.grow 1 1 s).2) :=
    Prod.ext (by rw [← hs]; decide +kernel) rfl
  have hone : (session spent.factory .queue 1 2 [.get]).state.pool.stats.available = 1 := by
    decide +kernel
  have hcalls : (spent.factory.grow 1 1 s).2.state.calls = 3 := by rw [← hs]; decide +kernel
  obtain ⟨havailable, htruthful⟩ := hgrowth _ hgrown
  have htwo : (spent.factory.grow 1 1 s).2.state.stats.available = 2 :=
    havailable.trans (congrArg (· + 1) hone)
  obtain ⟨served, u, hgets, -, hhanded, -⟩ := htruthful.gets 2 htwo.ge
  exact ⟨haloof, served, _, u, hgrown, htwo, hgets, hhanded.calls.trans hcalls⟩

end Pool

end ConverterKit
