import ConverterKit.Proofs.Pool.Journal
import ConverterKit.Scratch.World
import Mathlib.Algebra.Group.Nat.Defs

/-!
# Lending buffers

A routine that is run in a context is lent a buffer. Whatever is idle in the pool of the context,
and however dirty it is, the routine starts with an empty buffer, under a guard that has it; and
whatever the routine does with the buffer, and however it ends, the loans are afterwards what they
were before.

So the pool makes no difference to what a routine does, as long as the context can make buffers at
all.

## Main definitions

* `Supply.Roomy`: buffers of this kind can be made
* `World.Serving`: a world in which a context can lend buffers, with these ones on loan already
* `World.emptying`: what is done with a buffer while it is on loan

## Main results

* `World.Serving.borrow`, `amend`, `giveBack`: the life of a loan
* `World.Serving.lend`: running a routine with a buffer
* `World.openContext_of_ok`, `openContext_of_panicked`: opening a context is filling its pool
-/

namespace ConverterKit

namespace Scratch

/-! ## Getting a buffer -/

namespace Supply

/-- Buffers of this kind can be made: no call of their factory panics. -/
def Roomy (s : Supply) : Prop := ∀ number, ∃ b, s.script number = .make b

theorem roomy_withRoom {capacity : UInt64} (h : capacity.toNat < 2 ^ 63) :
    (Supply.withRoom capacity).Roomy := by
  have hreservable : ¬Pool.reservable < capacity.toNat := by
    have hsize : Pool.reservable = 2 ^ 63 - 1 := by decide
    omega
  exact fun number => ⟨_, if_neg hreservable⟩

/-- A buffer can always be checked out: an idle one or else a new one. -/
theorem Roomy.checkout {s : Supply} (h : s.Roomy)
    (p : Scene (Pool Buffer) (Pool.Deed Empty Buffer)) :
    ∃ b t, s.factory.checkout World.depth p = (.ok ⟨some b⟩, t) := by
  suffices hget : ∃ b t, Pool.get (s.factory.call World.depth) p = (.ok b, t) by
    obtain ⟨b, t, ht⟩ := hget
    exact ⟨b, t, Act.bind_of_ok ht⟩
  rcases hidle : p.state.idle.pop? with _ | ⟨b, rest⟩
  · obtain ⟨b, hb⟩ := h p.state.calls
    have hplay : (s.factory.script p.state.calls).play s.factory.instanceSize (s.factory.call 0)
        (Pool.record p [.callBegan p.state.idle]) =
          (.ok b, Pool.record p [.callBegan p.state.idle]) := by
      show (s.script p.state.calls).play _ _ _ = _
      rw [hb]
      rfl
    exact ⟨b, _, Pool.get_of_none hidle (Pool.manufacture_of_call (Pool.call_of_play hplay))⟩
  · exact ⟨b, _, Pool.get_of_some hidle⟩

end Supply

namespace World

variable {κ H β ρ ε α : Type} {context : Nat} {loans : List Loan}
  {good : Resolution.Session κ H → Prop} {s : Scene (World κ H) (Deed κ H)}

/-! ## Worlds that can lend -/

/-- A world in which a context can lend buffers, with these ones on loan and a session that is
good. -/
structure Serving (context : Nat) (loans : List Loan) (good : Resolution.Session κ H → Prop)
    (w : World κ H) : Prop where
  /-- The context exists and its buffers can be made. -/
  context : ∃ c, w.contexts[context]? = some c ∧ c.supply.Roomy
  /-- The buffers on loan. -/
  loans : w.loans = loans
  /-- The session. -/
  session : good w.session

/-- What the pool does that succeeds leaves everything else in the world alone. -/
theorem Serving.onPool (h : Serving context loans good s.state)
    (work : Pool.Factory Empty Buffer → Pool.Work Empty Buffer α) {P : α → Prop}
    (hwork : ∀ supply : Supply, supply.Roomy → ∀ p, ∃ a t,
      work supply.factory p = (.ok a, t) ∧ P a) :
    ∃ a t, (World.onPool context work : Work κ H ε α) s = (.ok a, t) ∧ P a ∧
      Serving context loans good t.state := by
  obtain ⟨c, hc, hroomy⟩ := h.context
  obtain ⟨a, u, hu, ha⟩ := hwork c.supply hroomy (.fresh c.pool)
  refine ⟨a, ⟨setPool context u.state s.state, s.journal ++ u.journal.map (.pool context)⟩,
    ?_, ha, ?_⟩
  · simp only [World.onPool, Act.bind_apply, Act.state_apply, hc, Act.within, hu,
      Ending.mapError]
  · have hset : setPool context u.state s.state = { s.state with
        contexts := s.state.contexts.setIfInBounds context ⟨c.supply, u.state⟩ } := by
      simp only [setPool, hc]
    refine ⟨⟨⟨c.supply, u.state⟩, ?_, hroomy⟩, ?_, ?_⟩
    · have hlt : context < s.state.contexts.size := (Array.getElem?_eq_some_iff.mp hc).1
      rw [hset, Array.getElem?_setIfInBounds_self_of_lt hlt]
    · rw [hset]
      exact h.loans
    · rw [hset]
      exact h.session

/-- What the session does that succeeds leaves everything else in the world alone. -/
theorem Serving.onSession {good' : Resolution.Session κ H → Prop} {a : α}
    {u : Scene (Resolution.Session κ H) (Resolution.Deed κ H)}
    (h : Serving context loans good s.state) (work : Resolution.Session.Work κ H α)
    (hwork : work (.fresh s.state.session) = (.ok a, u))
    (hu : good' u.state) :
    ∃ t, (World.onSession work : Work κ H ε α) s = (.ok a, t) ∧
      Serving context loans good' t.state := by
  refine ⟨⟨{ s.state with session := u.state }, s.journal ++ u.journal.map .resolution⟩, ?_,
    h.context, h.loans, hu⟩
  simp only [World.onSession, Act.within, hwork, Ending.mapError]

/-! ## The life of a loan -/

/-- A loan of a buffer by a context. -/
abbrev loan (context : Nat) (b : Buffer) : Loan := ⟨context, ⟨some b⟩⟩

/-- **A buffer that is borrowed is empty.** -/
theorem Serving.borrow (h : Serving context loans good s.state) :
    ∃ b t, (World.borrow context : Work κ H ε Unit) s = (.ok (), t) ∧ b.bytes = [] ∧
      Serving context (loan context b :: loans) good t.state := by
  obtain ⟨g, t, ht, ⟨b, rfl, hb⟩, hserving⟩ := h.onPool (ε := ε)
    (fun f => do
      let g ← f.checkout depth
      g.amend Buffer.clear)
    (P := fun g => ∃ b : Buffer, g = ⟨some b⟩ ∧ b.bytes = []) fun supply hroomy p => by
      obtain ⟨b, t, ht⟩ := hroomy.checkout p
      exact ⟨⟨some b.clear⟩, t, Act.bind_of_ok ht, b.clear, rfl, rfl⟩
  refine ⟨b, ⟨{ t.state with loans := loan context b :: t.state.loans },
    t.journal.push (.lent context b t.state.loans)⟩, Act.bind_of_ok ht, hb,
    hserving.context, ?_, hserving.session⟩
  rw [hserving.loans]

/-- The buffer that is looked at is the one lent last. -/
theorem Serving.buffer {b : Buffer} (h : Serving context (loan context b :: loans) good s.state) :
    (World.buffer : Work κ H ε Buffer) s = (.ok b, s) := by
  simp only [World.buffer, Act.bind_apply, Act.state_apply, h.loans]
  rfl

/-- Looking at the buffer changes nothing. -/
theorem buffer_unchanged (s : Scene (World κ H) (Deed κ H)) :
    (World.buffer s : Ending ε Buffer × _).2 = s := by
  rcases hloans : s.state.loans with _ | ⟨⟨context, ⟨_ | b⟩⟩, rest⟩ <;>
    simp only [World.buffer, Act.bind_apply, Act.state_apply, hloans] <;> rfl

/-- Changing what is in the buffer lent last changes nothing else. -/
theorem amend_of_loans {b : Buffer} (h : s.state.loans = loan context b :: loans)
    (f : Buffer → Buffer) :
    (World.amend f : Work κ H ε Unit) s =
      (.ok (), ⟨{ s.state with loans := loan context (f b) :: loans }, s.journal⟩) := by
  simp only [World.amend, Act.bind_apply, Act.state_apply, h]
  rfl

/-- Without a buffer on loan nothing is changed. -/
theorem amend_cases (f : Buffer → Buffer) (s : Scene (World κ H) (Deed κ H)) :
    (∃ m, (World.amend f : Work κ H ε Unit) s = (.panicked m, s)) ∨
      ∃ context b loans, s.state.loans = loan context b :: loans ∧
        (World.amend f : Work κ H ε Unit) s =
          (.ok (), ⟨{ s.state with loans := loan context (f b) :: loans }, s.journal⟩) := by
  rcases hs : s.state.loans with _ | ⟨⟨context, ⟨_ | b⟩⟩, loans⟩
  · refine .inl ⟨"no buffer on loan", ?_⟩
    simp only [World.amend, Act.bind_apply, Act.state_apply, hs, Act.panic_apply]
  · refine .inl ⟨"pooled instance present until drop", ?_⟩
    simp only [World.amend, Act.bind_apply, Act.state_apply, hs]
    rfl
  · exact .inr ⟨context, b, loans, rfl, amend_of_loans hs f⟩

/-- The buffer that is changed is the one lent last. -/
theorem Serving.amend {b : Buffer} (h : Serving context (loan context b :: loans) good s.state)
    (f : Buffer → Buffer) :
    ∃ t, (World.amend f : Work κ H ε Unit) s = (.ok (), t) ∧
      Serving context (loan context (f b) :: loans) good t.state :=
  ⟨_, amend_of_loans h.loans f, h.context, rfl, h.session⟩

/-- The buffer that is given back is the one lent last. -/
theorem Serving.giveBack {b : Buffer} (h : Serving context (loan context b :: loans) good s.state) :
    ∃ t, (World.giveBack : Work κ H ε Unit) s = (.ok (), t) ∧
      Serving context loans good t.state := by
  have hreturned : Serving context loans good { s.state with loans := loans } :=
    ⟨h.context, rfl, h.session⟩
  obtain ⟨⟨⟩, t, ht, -, hserving⟩ := Serving.onPool (ε := ε) (s := ⟨_, s.journal⟩) hreturned
    (fun _ => Pool.Guard.drop ⟨some b⟩) (P := fun _ => True)
    fun _ _ p => ⟨(), _, Pool.release_apply p b, trivial⟩
  refine ⟨⟨t.state, t.journal.push (.returned context ⟨some b⟩)⟩, ?_, hserving⟩
  simp only [World.giveBack, Act.bind_apply, Act.state_apply, h.loans, Act.modify_apply, ht,
    Act.note_apply]

/-- What is done with the buffer while it is on loan: the routine runs, and then the buffer is
emptied, unless the routine panicked. -/
def emptying (steps : Work κ H ConversionError ρ) : Work κ H ConversionError ρ := do
  let result ← Act.attempt steps
  World.amend Buffer.clear
  Act.ofExcept result

theorem lend_eq (context : Nat) (steps : Work κ H ConversionError ρ) :
    World.lend context steps = (do
      World.borrow context
      let ending ← Act.settle (emptying steps)
      World.giveBack
      Act.conclude ending) := rfl

/-- Running a routine with a buffer ends as what is done with the buffer while it is on loan. -/
theorem lend_of_giveBack {steps : Work κ H ConversionError ρ} {e : Ending ConversionError ρ}
    {t u v : Scene (World κ H) (Deed κ H)}
    (hborrow : (World.borrow context : Work κ H ConversionError Unit) s = (.ok (), t))
    (hrun : emptying steps t = (e, u))
    (hgive : (World.giveBack : Work κ H ConversionError Unit) u = (.ok (), v)) :
    World.lend context steps s = (e, v) := by
  have hsettled : (Act.settle (emptying steps) : Work κ H ConversionError _) t = (.ok e, u) := by
    rw [Act.settle_apply, hrun]
  rw [lend_eq, Act.bind_of_ok hborrow, Act.bind_of_ok hsettled, Act.bind_of_ok hgive,
    Act.conclude_apply]

/-- **Running a routine with a buffer** ends as the routine does that starts with an empty one, and
the loans are then what they were. -/
theorem Serving.lend (steps : Work κ H ConversionError ρ) {e : Ending ConversionError ρ}
    (hsteps : ∀ b s, b.bytes = [] → Serving context (loan context b :: loans) good s.state →
      ∃ b' t, steps s = (e, t) ∧ Serving context (loan context b' :: loans) good t.state)
    (h : Serving context loans good s.state) :
    ∃ t, World.lend context steps s = (e, t) ∧ Serving context loans good t.state := by
  obtain ⟨b, t, ht, hempty, hlent⟩ := h.borrow (ε := ConversionError)
  obtain ⟨b', u, hu, hended⟩ := hsteps b t hempty hlent
  -- a panic skips the second emptying
  obtain ⟨b'', v, hv, hkept⟩ : ∃ b'' v, emptying steps t = (e, v) ∧
      Serving context (loan context b'' :: loans) good v.state := by
    obtain ⟨v, hv, hcleared⟩ := hended.amend (ε := ConversionError) Buffer.clear
    simp only [emptying, Act.bind_apply, Act.attempt_apply, hu]
    cases e with
    | ok r => exact ⟨b'.clear, v, by simp only [hv]; rfl, hcleared⟩
    | error r => exact ⟨b'.clear, v, by simp only [hv]; rfl, hcleared⟩
    | panicked m => exact ⟨b', u, rfl, hended⟩
    | unfinished => exact ⟨b', u, rfl, hended⟩
  obtain ⟨x, hx, hreturned⟩ := hkept.giveBack (ε := ConversionError)
  exact ⟨x, lend_of_giveBack ht hv hx, hreturned⟩

/-! ## Opening a context -/

section

variable {kind : Pool.Kind} {supply : Supply} {initial : UInt64}
  {u : Scene (Pool Buffer) (Pool.Deed Empty Buffer)}

/-- The pool of a context is filled outside the world, which only notes what happens to it. -/
theorem within_build {e : Ending Empty Unit}
    (h : supply.factory.build kind depth initial = (e, u))
    (s : Scene (World κ H) (Deed κ H)) :
    (Act.within (fun _ => Pool.empty kind) (fun _ w => w) (.pool s.state.contexts.size)
      Empty.elim (do
        supply.factory.fill depth initial
        Act.state) : Work κ H ε (Pool Buffer)) s =
      ((match e with
        | .ok () => .ok u.state
        | .error r => r.elim
        | .panicked m => .panicked m
        | .unfinished => .unfinished),
        ⟨s.state, s.journal ++ u.journal.map (Deed.pool s.state.contexts.size)⟩) := by
  have hfill : supply.factory.fill depth initial (.fresh (.empty kind)) = (e, u) := h
  simp only [Act.within, Act.bind_apply, hfill]
  cases e with
  | error r => exact r.elim
  | ok | panicked | unfinished => rfl

/-- A context whose pool can be filled is opened, in the same way in every world, and only adds
itself to it. -/
theorem openContext_of_ok (h : supply.factory.build kind depth initial = (.ok (), u))
    (s : Scene (World κ H) (Deed κ H)) :
    (openContext kind supply initial : Work κ H ε Unit) s =
      (.ok (), ⟨{ s.state with contexts := s.state.contexts.push ⟨supply, u.state⟩ },
        (s.journal ++ u.journal.map (Deed.pool s.state.contexts.size)).push
          (.reported (Report.ready u.state.kind u.state.available))⟩) := by
  rw [openContext, Act.bind_of_ok (Act.state_apply s), Act.bind_of_ok (within_build h s)]
  rfl

/-- A context whose pool cannot be filled leaves nothing but what was noted. -/
theorem openContext_of_panicked {m : String}
    (h : supply.factory.build kind depth initial = (.panicked m, u))
    (s : Scene (World κ H) (Deed κ H)) :
    (openContext kind supply initial : Work κ H ε Unit) s =
      (.panicked m,
        ⟨s.state, s.journal ++ u.journal.map (Deed.pool s.state.contexts.size)⟩) := by
  rw [openContext, Act.bind_of_ok (Act.state_apply s), Act.bind_of_panicked (within_build h s)]

/-- A context that is opened has a pool that could be filled. -/
theorem build_of_openContext {t : Scene (World κ H) (Deed κ H)}
    (h : (openContext kind supply initial : Work κ H ε Unit) s = (.ok (), t)) :
    ∃ u, supply.factory.build kind depth initial = (.ok (), u) := by
  rcases hbuild : supply.factory.build kind depth initial with ⟨e, u⟩
  rw [openContext, Act.bind_of_ok (Act.state_apply s)] at h
  cases e with
  | ok => exact ⟨u, rfl⟩
  | error r => exact r.elim
  | panicked m =>
    rw [Act.bind_of_panicked (within_build hbuild s)] at h
    cases (Prod.mk.inj h).1
  | unfinished =>
    rw [Act.bind_of_unfinished (within_build hbuild s)] at h
    cases (Prod.mk.inj h).1

/-- A context is opened in the same way in every world, and only adds itself to it. -/
theorem openContext_eq_ok {t : Scene (World κ H) (Deed κ H)}
    (h : (openContext kind supply initial : Work κ H ε Unit) s = (.ok (), t)) :
    ∃ pool, ∀ s', ∃ t', (openContext kind supply initial : Work κ H ε Unit) s' = (.ok (), t') ∧
      t'.state = { s'.state with contexts := s'.state.contexts.push ⟨supply, pool⟩ } := by
  obtain ⟨u, hbuild⟩ := build_of_openContext h
  exact ⟨u.state, fun s' => ⟨_, openContext_of_ok hbuild s', rfl⟩⟩

end

end World

end Scratch

end ConverterKit
