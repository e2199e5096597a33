import ConverterKit.Proofs.Scratch.Discipline

/-!
# Routines that are stopped

A routine that panics, and does not catch it, is stopped: what it had still to do is skipped, the
emptying of its buffer included. Other routines may be under way around it, and any of them may
catch the panic, so what happened inside of a routine cannot be told from how it ended.

This file says which routines are run with a buffer in the course of another one, and what it means
that one of them was stopped with a certain buffer in its hands. Whatever happens in between, the
buffer in the hands of a routine belongs to the context in which it is run.

## Main definitions

* `Ending.Stopped`: the endings that skip what comes after
* `World.SamePlaces`, `World.KeepsPlaces`: the loans are of the same contexts
* `World.Brings`, `World.Comprises`: which routines are run with a buffer in the course of another
* `World.StoppedWith`: a routine is stopped with a buffer in its hands

## Main results

* `World.keepsPlaces_play`: whatever a routine does, the loans are of the same contexts
* `World.emptying_cases`: a buffer that is not emptied is the one a routine was stopped with
-/

namespace ConverterKit

/-- The act panicked, or nested too deep, so what comes after it is skipped. -/
def Ending.Stopped {ε α : Type} : Ending ε α → Prop
  | .ok _ | .error _ => False
  | .panicked _ | .unfinished => True

/-- An act that is stopped is all that happens. -/
theorem Act.bind_of_stopped {σ δ ε α β : Type} {a : Act σ δ ε α} {f : α → Act σ δ ε β}
    {s t : Scene σ δ} {e : Ending ε α} (he : e.Stopped) (h : a s = (e, t)) :
    ∃ e' : Ending ε β, e'.Stopped ∧ (a >>= f) s = (e', t) := by
  cases e with
  | ok | error => exact he.elim
  | panicked m => exact ⟨.panicked m, trivial, Act.bind_of_panicked h⟩
  | unfinished => exact ⟨.unfinished, trivial, Act.bind_of_unfinished h⟩

namespace Scratch

namespace World

variable {κ H β ρ ε α : Type} {context : Nat} {s t u : Scene (World κ H) (Deed κ H)}

/-! ## Loans stay in place -/

/-- There are as many contexts, and the loans are of the same contexts. -/
structure SamePlaces (s t : Scene (World κ H) (Deed κ H)) : Prop where
  /-- There are as many contexts. -/
  size : t.state.contexts.size = s.state.contexts.size
  /-- The loans are of the same contexts. -/
  loans : t.state.loans.map Loan.context = s.state.loans.map Loan.context

theorem SamePlaces.refl (s : Scene (World κ H) (Deed κ H)) : SamePlaces s s := ⟨rfl, rfl⟩

theorem SamePlaces.trans (h : SamePlaces s t) (h' : SamePlaces t u) : SamePlaces s u :=
  ⟨h'.size.trans h.size, h'.loans.trans h.loans⟩

/-- However the act ends, the loans are of the same contexts afterwards. -/
def KeepsPlaces (work : Work κ H ε α) : Prop := ∀ s, SamePlaces s (work s).2

/-- What a pool does has nothing to do with loans. It succeeds or is stopped. -/
theorem onPool_cases (context : Nat)
    (work : Pool.Factory Empty Buffer → Pool.Work Empty Buffer α)
    (s : Scene (World κ H) (Deed κ H)) :
    ∃ e t, (onPool context work : Work κ H ε α) s = (e, t) ∧ t.state.loans = s.state.loans ∧
      t.state.contexts.size = s.state.contexts.size ∧
      (e.Stopped ∨ context < s.state.contexts.size ∧ ∃ a, e = .ok a) := by
  rcases hc : s.state.contexts[context]? with _ | c
  · exact ⟨_, _, onPool_of_none hc work, rfl, rfl, .inl trivial⟩
  rcases hwork : work c.supply.factory (.fresh c.pool) with ⟨e, v⟩
  have hpool : (onPool context work : Work κ H ε α) s = (e.mapError Empty.elim,
      ⟨setPool context v.state s.state, s.journal ++ v.journal.map (.pool context)⟩) := by
    simp only [onPool, Act.bind_apply, Act.state_apply, hc, Act.within, hwork]
  refine ⟨_, _, hpool, loans_setPool .., size_setPool .., ?_⟩
  cases e with
  | ok a => exact .inr ⟨(Array.getElem?_eq_some_iff.mp hc).1, a, rfl⟩
  | error r => exact r.elim
  | panicked | unfinished => exact .inl trivial

/-- Borrowing adds a loan of the context, or it is stopped. -/
theorem borrow_cases (context : Nat) (s : Scene (World κ H) (Deed κ H)) :
    (∃ g t, (borrow context : Work κ H ε Unit) s = (.ok (), t) ∧
      t.state.loans = ⟨context, g⟩ :: s.state.loans ∧
      t.state.contexts.size = s.state.contexts.size ∧ context < s.state.contexts.size) ∨
    ∃ e t, e.Stopped ∧ (borrow context : Work κ H ε Unit) s = (e, t) ∧ SamePlaces s t := by
  obtain ⟨e, t, hpool, hloans, hsize, he | ⟨hlt, ⟨_ | b⟩, rfl⟩⟩ :=
    onPool_cases (ε := ε) context (fun f => do
      let g ← f.checkout depth
      g.amend Buffer.clear) s
  · obtain ⟨e', he', hborrow⟩ := Act.bind_of_stopped he hpool
    exact .inr ⟨e', t, he', hborrow, hsize, congrArg _ hloans⟩
  · exact .inr ⟨.panicked _, t, trivial, Act.bind_of_ok hpool, hsize, congrArg _ hloans⟩
  · exact .inl ⟨⟨some b⟩, _, Act.bind_of_ok hpool, congrArg (_ :: ·) hloans, hsize, hlt⟩

/-- A context that lends a buffer exists, and the loan is its own. -/
theorem loans_of_borrow (h : (borrow context : Work κ H ε Unit) s = (.ok (), t)) :
    (∃ g, t.state.loans = ⟨context, g⟩ :: s.state.loans) ∧
      t.state.contexts.size = s.state.contexts.size ∧ context < s.state.contexts.size := by
  rcases borrow_cases (ε := ε) context s with
    ⟨g, t', ht', hloans, hsize, hlt⟩ | ⟨e, t', he, ht', -⟩
  · obtain rfl := (Prod.mk.inj (h.symm.trans ht')).2
    exact ⟨⟨g, hloans⟩, hsize, hlt⟩
  · obtain ⟨rfl, -⟩ := Prod.mk.inj (h.symm.trans ht')
    exact he.elim

/-- Giving back takes the last loan away, in any case. -/
theorem giveBack_loans (s : Scene (World κ H) (Deed κ H)) :
    (giveBack s : Ending ε Unit × _).2.state.loans = s.state.loans.tail ∧
      (giveBack s : Ending ε Unit × _).2.state.contexts.size = s.state.contexts.size := by
  rcases hs : s.state.loans with _ | ⟨⟨context, g⟩, loans⟩
  · simp only [giveBack, Act.bind_apply, Act.state_apply, hs, Act.panic_apply, List.tail_nil,
      and_self]
  · obtain ⟨e, v, hpool, hloans, hsize, -⟩ := onPool_cases (ε := ε) context (fun _ => g.drop)
      ⟨{ s.state with loans }, s.journal⟩
    simp only [giveBack, Act.bind_apply, Act.state_apply, hs, Act.modify_apply, List.tail_cons,
      hpool]
    cases e <;> exact ⟨hloans, hsize⟩

namespace KeepsPlaces

theorem of_unchanged {work : Work κ H ε α} (h : ∀ s, (work s).2 = s) : KeepsPlaces work :=
  fun s => (h s).symm ▸ .refl s

theorem bind {γ : Type} {a : Work κ H ε α} {f : α → Work κ H ε γ} (ha : KeepsPlaces a)
    (hf : ∀ x, KeepsPlaces (f x)) : KeepsPlaces (a >>= f) := by
  intro s
  have hfirst := ha s
  rw [Act.bind_apply]
  rcases hrun : a s with ⟨e, t⟩
  rw [hrun] at hfirst
  cases e with
  | ok x => exact hfirst.trans (hf x t)
  | error | panicked | unfinished => exact hfirst

theorem attempt {ε' : Type} {a : Work κ H ε α} (ha : KeepsPlaces a) :
    KeepsPlaces (Act.attempt a : Work κ H ε' (Except ε α)) := by
  intro s
  rw [Act.scene_attempt]
  exact ha s

theorem rescue {a : Work κ H ε α} (ha : KeepsPlaces a) : KeepsPlaces (Act.rescue a) := by
  intro s
  rw [Act.scene_rescue]
  exact ha s

theorem onPool (context : Nat) (work : Pool.Factory Empty Buffer → Pool.Work Empty Buffer α) :
    KeepsPlaces (World.onPool context work : Work κ H ε α) := by
  intro s
  obtain ⟨e, t, hpool, hloans, hsize, -⟩ := onPool_cases (ε := ε) context work s
  rw [hpool]
  exact ⟨hsize, congrArg _ hloans⟩

theorem onSession (work : Resolution.Session.Work κ H α) :
    KeepsPlaces (World.onSession work : Work κ H ε α) := by
  intro s
  rcases hwork : work (.fresh s.state.session) with ⟨e, v⟩
  simp only [World.onSession, Act.within, hwork]
  exact ⟨rfl, rfl⟩

theorem amend (f : Buffer → Buffer) : KeepsPlaces (World.amend f : Work κ H ε Unit) := by
  intro s
  rcases amend_cases (ε := ε) f s with ⟨m, hpanic⟩ | ⟨context, b, loans, hs, hamend⟩
  · rw [hpanic]
    exact .refl s
  · rw [hamend]
    exact ⟨rfl, by rw [hs]; rfl⟩

theorem emptying {steps : Work κ H ConversionError ρ} (hsteps : KeepsPlaces steps) :
    KeepsPlaces (World.emptying steps) :=
  hsteps.attempt.bind fun result => (KeepsPlaces.amend Buffer.clear).bind fun _ =>
    .of_unchanged fun _ => by cases result <;> rfl

/-- Running a routine with a buffer adds a loan and takes it away. -/
theorem lend {steps : Work κ H ConversionError ρ} (hsteps : KeepsPlaces steps) (context : Nat) :
    KeepsPlaces (World.lend context steps) := by
  intro s
  rcases borrow_cases (ε := ConversionError) context s with
    ⟨g, t, hborrow, hloans, hsize, -⟩ | ⟨e, t, he, hborrow, hplaces⟩
  · have hused := hsteps.emptying t
    obtain ⟨hback, hbacksize⟩ := giveBack_loans (ε := ConversionError) (World.emptying steps t).2
    rcases hgive : (World.giveBack : Work κ H ConversionError Unit) (World.emptying steps t).2 with
      ⟨e, v⟩
    rw [hgive] at hback hbacksize
    have hlend : (World.lend context steps s).2 = v := by
      have hsettled : (Act.settle (World.emptying steps) : Work κ H ConversionError _) t =
          (.ok (World.emptying steps t).1, (World.emptying steps t).2) := rfl
      rw [lend_eq, Act.bind_of_ok hborrow, Act.bind_of_ok hsettled, Act.bind_apply, hgive]
      cases e <;> rfl
    rw [hlend]
    refine ⟨hbacksize.trans (hused.size.trans hsize), ?_⟩
    rw [hback, List.map_tail, hused.loans, hloans]
    rfl
  · obtain ⟨e', -, hlend⟩ := Act.bind_of_stopped (f := fun _ => do
      let ending ← Act.settle (World.emptying steps)
      World.giveBack
      Act.conclude ending) he hborrow
    rw [lend_eq, hlend]
    exact hplaces

end KeepsPlaces

/-- **Whatever a routine does, the loans are of the same contexts**, so the buffer in its hands
belongs to the context in which it is run. -/
theorem keepsPlaces_play (callbacks : Resolution.Callbacks κ H) (nesting : Nat)
    (routine : Routine κ H β ρ) : KeepsPlaces (play callbacks nesting routine) := by
  induction routine with
  | finish | fail | panic => exact .of_unchanged fun _ => rfl
  | read next ih => exact (KeepsPlaces.of_unchanged buffer_unchanged).bind ih
  | edit change next ih => exact (KeepsPlaces.amend _).bind fun _ => ih
  | serviceId name next ih => exact (KeepsPlaces.onSession _).rescue.bind ih
  | nest context inner next ihinner ihnext =>
    exact (ihinner.lend context).attempt.rescue.bind ihnext
  | grow context count next ih => exact (KeepsPlaces.onPool context _).rescue.bind ih
  | stats context next ih =>
    exact (KeepsPlaces.of_unchanged fun _ => rfl : KeepsPlaces (Act.state : Work κ H _ _)).bind
      fun w => ih (w.stats context)
  | consult program next ih => exact (KeepsPlaces.onSession _).rescue.bind ih

/-! ## Routines in the course of another -/

mutual

/-- While the routine is played from the first scene, that other one is run with a buffer of that
context, from the second scene: by the routine itself, or in the course of one that it runs. -/
inductive Brings (callbacks : Resolution.Callbacks κ H) (nesting : Nat) :
    Routine κ H β ρ → Scene (World κ H) (Deed κ H) →
      Nat → Routine κ H β ρ → Scene (World κ H) (Deed κ H) → Prop where
  /-- After a look at the buffer. -/
  | read {next : Buffer → Routine κ H β ρ} {b : Buffer} {s s' t : Scene (World κ H) (Deed κ H)}
      {i : Nat} {other : Routine κ H β ρ}
      (hread : (buffer : Work κ H ConversionError Buffer) s = (.ok b, s'))
      (h : Brings callbacks nesting (next b) s' i other t) :
      Brings callbacks nesting (.read next) s i other t
  /-- After a change of the buffer. -/
  | edited {change : List UInt8 → List UInt8} {next : Routine κ H β ρ}
      {s s' t : Scene (World κ H) (Deed κ H)} {i : Nat} {other : Routine κ H β ρ}
      (hedit : (amend (Buffer.edit change) : Work κ H ConversionError Unit) s = (.ok (), s'))
      (h : Brings callbacks nesting next s' i other t) :
      Brings callbacks nesting (.edit change next) s i other t
  /-- After a name was resolved, or a panic was caught. -/
  | resolved {name : String} {next : Upshot ConversionError ServiceId → Routine κ H β ρ}
      {upshot : Upshot ConversionError ServiceId} {s s' t : Scene (World κ H) (Deed κ H)}
      {i : Nat} {other : Routine κ H β ρ}
      (hresolve : Act.rescue (onSession (callbacks.resolve nesting name)) s =
        ((.ok upshot, s') : Ending ConversionError _ × _))
      (h : Brings callbacks nesting (next upshot) s' i other t) :
      Brings callbacks nesting (.serviceId name next) s i other t
  /-- Where a routine is run. -/
  | running {context : Nat} {inner : Routine κ H β ρ}
      {next : Upshot ConversionError ρ → Routine κ H β ρ} {s t : Scene (World κ H) (Deed κ H)}
      {i : Nat} {other : Routine κ H β ρ}
      (h : Comprises callbacks nesting context inner s i other t) :
      Brings callbacks nesting (.nest context inner next) s i other t
  /-- After a routine was run, or a panic was caught. -/
  | ran {context : Nat} {inner : Routine κ H β ρ}
      {next : Upshot ConversionError ρ → Routine κ H β ρ} {upshot : Upshot ConversionError ρ}
      {s s' t : Scene (World κ H) (Deed κ H)} {i : Nat} {other : Routine κ H β ρ}
      (hrun : Act.rescue (Act.attempt (lend context (play callbacks nesting inner))) s =
        ((.ok upshot, s') : Ending ConversionError _ × _))
      (h : Brings callbacks nesting (next upshot) s' i other t) :
      Brings callbacks nesting (.nest context inner next) s i other t
  /-- After a pool was grown, or a panic was caught. -/
  | grown {context : Nat} {count : UInt64} {next : Except String Unit → Routine κ H β ρ}
      {upshot : Except String Unit} {s s' t : Scene (World κ H) (Deed κ H)} {i : Nat}
      {other : Routine κ H β ρ}
      (hgrow : Act.rescue (growScratch context count) s =
        ((.ok upshot, s') : Ending ConversionError _ × _))
      (h : Brings callbacks nesting (next upshot) s' i other t) :
      Brings callbacks nesting (.grow context count next) s i other t
  /-- After a look at the statistics. -/
  | counted {context : Nat} {next : Pool.Stats → Routine κ H β ρ}
      {s t : Scene (World κ H) (Deed κ H)} {i : Nat} {other : Routine κ H β ρ}
      (h : Brings callbacks nesting (next (s.state.stats context)) s i other t) :
      Brings callbacks nesting (.stats context next) s i other t
  /-- After code of the host's has run, or a panic was caught. -/
  | consulted {program : Resolution.Program κ H β} {next : Except String β → Routine κ H β ρ}
      {upshot : Except String β} {s s' t : Scene (World κ H) (Deed κ H)} {i : Nat}
      {other : Routine κ H β ρ}
      (hconsult : Act.rescue (onSession (callbacks.run nesting program)) s =
        ((.ok upshot, s') : Ending ConversionError _ × _))
      (h : Brings callbacks nesting (next upshot) s' i other t) :
      Brings callbacks nesting (.consult program next) s i other t

/-- Running the routine with a buffer of the context, from the first scene, comprises running that
other one from the second scene. -/
inductive Comprises (callbacks : Resolution.Callbacks κ H) (nesting : Nat) :
    Nat → Routine κ H β ρ → Scene (World κ H) (Deed κ H) →
      Nat → Routine κ H β ρ → Scene (World κ H) (Deed κ H) → Prop where
  /-- It is that routine. -/
  | itself {context : Nat} {routine : Routine κ H β ρ} {s : Scene (World κ H) (Deed κ H)} :
      Comprises callbacks nesting context routine s context routine s
  /-- The routine brings it about once it has been lent its buffer. -/
  | inside {context : Nat} {routine : Routine κ H β ρ} {s s' t : Scene (World κ H) (Deed κ H)}
      {i : Nat} {other : Routine κ H β ρ}
      (hborrow : (borrow context : Work κ H ConversionError Unit) s = (.ok (), s'))
      (h : Brings callbacks nesting routine s' i other t) :
      Comprises callbacks nesting context routine s i other t

end

/-! ## Being stopped -/

/-- The routine, run with a buffer of the context from this scene, is stopped while it is lent a
buffer that is then like this. -/
def StoppedWith (callbacks : Resolution.Callbacks κ H) (nesting : Nat) (context : Nat)
    (routine : Routine κ H β ρ) (s : Scene (World κ H) (Deed κ H)) (b : Buffer) : Prop :=
  ∃ t loans, (borrow context : Work κ H ConversionError Unit) s = (.ok (), t) ∧
    (play callbacks nesting routine t).1.Stopped ∧
    (play callbacks nesting routine t).2.state.loans = loan context b :: loans

/-- What a routine that is stopped does with its buffer is all that is done with it. -/
theorem emptying_of_stopped {steps : Work κ H ConversionError ρ} (h : (steps s).1.Stopped) :
    emptying steps s = steps s := by
  rcases hsteps : steps s with ⟨e, t⟩
  rw [hsteps] at h
  simp only [emptying, Act.bind_apply, Act.attempt_apply, hsteps]
  cases e with
  | ok | error => exact h.elim
  | panicked | unfinished => rfl

/-- After a routine that was not stopped the buffer is empty. -/
theorem emptying_cases {steps : Work κ H ConversionError ρ} {i : Nat} {b : Buffer}
    {loans : List Loan} (h : (emptying steps s).2.state.loans = loan i b :: loans) :
    b.bytes = [] ∨ (steps s).1.Stopped := by
  rcases hsteps : steps s with ⟨e, t⟩
  -- what is left to do after a routine that was not stopped
  have hcleared (result : Except ConversionError ρ) (hloans : ((do
      World.amend Buffer.clear
      Act.ofExcept result : Work κ H ConversionError ρ) t).2.state.loans = loan i b :: loans) :
      b.bytes = [] := by
    rcases amend_cases (ε := ConversionError) Buffer.clear t with ⟨m, hpanic⟩ |
      ⟨context, b', loans', ht, hamend⟩
    · rw [Act.bind_of_panicked hpanic] at hloans
      rw [amend_of_loans hloans] at hpanic
      cases (Prod.mk.inj hpanic).1
    · rw [Act.bind_of_ok hamend] at hloans
      obtain ⟨hloan, -⟩ : loan context b'.clear = loan i b ∧ loans' = loans := by
        cases result <;> exact List.cons.inj hloans
      obtain ⟨-, hguard⟩ := Loan.mk.inj hloan
      rw [← Option.some.inj (Pool.Guard.mk.inj hguard)]
      rfl
  rw [emptying, Act.bind_apply, Act.attempt_apply, hsteps] at h
  cases e with
  | ok r => exact .inl (hcleared (.ok r) h)
  | error r => exact .inl (hcleared (.error r) h)
  | panicked | unfinished => exact .inr trivial

end World

end Scratch

end ConverterKit
