import ConverterKit.Pool.Plan
import ConverterKit.Proofs.Pool.Stock
import Mathlib.Data.List.Forall2

/-!
# The two kinds of store behave alike

A stack and a queue hand out different instances, and nothing else about them can be told apart:
with factories that do the same whatever instances they get, every request ends in the same way,
after the same number of factory calls and with the same statistics. The one exception is that a
stack reserves room for a growth and a queue does not, so the stack must have room.

Scripts, tasks, pools and desks are *alike* if they differ in instances only. A run of a task on
the one pool is matched by a run of the task alike on the other.

## Main definitions

* `Script.Alike`, `Factory.Alike`, `Request.Alike`: what is alike
* `Pool.Alike`, `Desk.Alike`: pools and desks that cannot be told apart
* `Pool.Roomy`: a pool has room for the growths in a journal
* `log`: what can be seen of a session, up to instances

## Main results

* `Runs.simulate`: a run on a pool with room is matched on a queue
* `Desk.Serves.simulate`: the same for requests
* `kinds_alike`: the two kinds of store leave the same log
-/

namespace ConverterKit

variable {ε α β γ δ : Type}

/-- Two endings that differ in their value only. -/
inductive Ending.Alike : Ending ε α → Ending ε β → Prop where
  /-- Both succeeded. -/
  | ok (a : α) (b : β) : Alike (.ok a) (.ok b)
  /-- Both reported the same error. -/
  | error (reason : ε) : Alike (.error reason) (.error reason)
  /-- Both panicked with the same message. -/
  | panicked (message : String) : Alike (.panicked message) (.panicked message)
  /-- Both nested too deep. -/
  | unfinished : Alike .unfinished .unfinished

theorem Ending.Alike.stop? {e : Ending ε α} {e' : Ending ε β} (h : e.Alike e')
    {g : Ending ε γ} (hg : e.stop? = some g) :
    ∃ g' : Ending ε δ, e'.stop? = some g' ∧ g.Alike g' := by
  cases h with
  | ok a b => cases hg
  | error reason =>
    obtain rfl := Option.some.inj hg
    exact ⟨_, rfl, .error reason⟩
  | panicked message =>
    obtain rfl := Option.some.inj hg
    exact ⟨_, rfl, .panicked message⟩
  | unfinished =>
    obtain rfl := Option.some.inj hg
    exact ⟨_, rfl, .unfinished⟩

theorem Ending.Alike.caught?_none {e : Ending ε α} {e' : Ending ε β} (h : e.Alike e')
    (he : e.caught? = none) : e'.caught? = none := by
  cases h with
  | unfinished => rfl
  | _ => cases he

theorem Ending.Alike.isOk_eq {e : Ending ε α} {e' : Ending ε β} (h : e.Alike e') :
    e.isOk = e'.isOk := by
  cases h <;> rfl

namespace Pool

/-! ## What is alike -/

/-- Two scripts that do the same, whatever instances they get. -/
inductive Script.Alike : Script ε α → Script ε β → Prop where
  /-- Both return an instance. -/
  | make (a : α) (b : β) : Alike (.make a) (.make b)
  /-- Both report the same error. -/
  | fail (reason : ε) : Alike (.fail reason) (.fail reason)
  /-- Both panic with the same message. -/
  | panic (message : String) : Alike (.panic message) (.panic message)
  /-- Both release an instance. -/
  | release {s : Script ε α} {t : Script ε β} (a : α) (b : β) (h : Alike s t) :
      Alike (.release a s) (.release b t)
  /-- Both grow the pool by the same number. -/
  | grow {s : Upshot ε Unit → Script ε α} {t : Upshot ε Unit → Script ε β} (count : UInt64)
      (h : ∀ u, Alike (s u) (t u)) : Alike (.grow count s) (.grow count t)
  /-- Both get an instance, and it does not matter which. -/
  | get {s : Upshot ε α → Script ε α} {t : Upshot ε β → Script ε β}
      (hok : ∀ a b, Alike (s (.ok (.ok a))) (t (.ok (.ok b))))
      (herror : ∀ reason, Alike (s (.ok (.error reason))) (t (.ok (.error reason))))
      (hpanicked : ∀ message, Alike (s (.error message)) (t (.error message))) :
      Alike (.get s) (.get t)

/-- Two factories whose calls of the same number do the same. -/
def Factory.Alike (f : Factory ε α) (g : Factory ε β) : Prop :=
  ∀ number, (f.script number).Alike (g.script number)

/-- Two tasks that differ in instances only. -/
inductive Task.Alike : {γ δ : Type} → Task ε α γ → Task ε β δ → Prop where
  /-- Both call the factory. -/
  | call : Alike (.call : Task ε α α) (.call : Task ε β β)
  /-- Both ask the factory for an instance. -/
  | make : Alike (.make : Task ε α α) (.make : Task ε β β)
  /-- Both get. -/
  | get : Alike (.get : Task ε α α) (.get : Task ε β β)
  /-- Both release. -/
  | release (a : α) (b : β) : Alike (.release a) (.release b)
  /-- Both add the same number of instances. -/
  | add (n : Nat) : Alike (.add n) (.add n)
  /-- Both grow by the same number. -/
  | grow (count : UInt64) : Alike (.grow count) (.grow count)
  /-- Both play scripts that are alike. -/
  | play {s : Script ε α} {t : Script ε β} (h : s.Alike t) : Alike (.play s) (.play t)

/-- Two pools that cannot be told apart, the second one with a queue. -/
structure Alike (p : Pool α) (q : Pool β) : Prop where
  /-- The same has been counted. -/
  counters : p.counters = q.counters
  /-- The same number of calls has begun. -/
  calls : p.calls = q.calls
  /-- The same number of instances is idle. -/
  length : p.idle.toList.length = q.idle.toList.length
  /-- The first one says how many instances are idle. -/
  tallied : p.idle.Tallied
  /-- And so does the second one. -/
  tallied' : q.idle.Tallied
  /-- The second one is a queue. -/
  kind : q.kind = .queue

namespace Alike

variable {p : Pool α} {q : Pool β}

/-- Pools that are alike have the same statistics. -/
theorem stats (h : p.Alike q) : p.stats = q.stats := by
  have havailable : p.available = q.available :=
    (Idle.available_eq h.tallied).trans (h.length.trans (Idle.available_eq h.tallied').symm)
  simp only [Pool.stats, h.counters, havailable]

/-- A queue has room for any growth. -/
theorem hasRoom (h : p.Alike q) (instanceSize : Nat) (count : UInt64) :
    q.HasRoom instanceSize count := by
  have hkind : q.idle.kind = .queue := h.kind
  unfold HasRoom
  rcases hidle : q.idle with items | ⟨line, tally⟩
  · rw [hidle] at hkind
    cases hkind
  · trivial

theorem after (h : p.Alike q) {J : List (Deed ε α)} {K : List (Deed ε β)}
    (hcounters : (p.after J).counters = (q.after K).counters)
    (hcalls : (p.after J).calls = (q.after K).calls)
    (hlength : (p.after J).idle.toList.length = (q.after K).idle.toList.length) :
    (p.after J).Alike (q.after K) where
  counters := hcounters
  calls := hcalls
  length := hlength
  tallied := tallied_after h.tallied J
  tallied' := tallied_after h.tallied' K
  kind := (kind_after q K).trans h.kind

theorem failureDeeds {e : Ending ε α} {e' : Ending ε β} (h : p.Alike q) (he : e.Alike e')
    (k k' : Kind) :
    (p.after (failureDeeds k e)).Alike (q.after (Pool.failureDeeds k' e')) := by
  cases he with
  | error reason => exact h.after (congrArg (·.count .failure) h.counters) h.calls h.length
  | _ => exact h

theorem missDeeds {e : Ending ε α} {e' : Ending ε β} (h : p.Alike q) (he : e.Alike e')
    (k k' : Kind) :
    (p.after (missDeeds k e ++ [.getEnded e])).Alike
      (q.after (Pool.missDeeds k' e' ++ [.getEnded e'])) := by
  cases he with
  | ok a b => exact h.after (congrArg (·.count .miss) h.counters) h.calls h.length
  | _ => exact h

theorem growthDeeds {e e' : Ending ε Unit} (h : p.Alike q) (he : e.Alike e') (p' : Pool α)
    (q' : Pool β) (count : UInt64) :
    (p.after (growthDeeds p' count e ++ [.growEnded count e] : List (Deed ε α))).Alike
      (q.after (Pool.growthDeeds q' count e' ++ [.growEnded count e'] : List (Deed ε β))) := by
  cases he <;> exact h

theorem length_push (h : p.Alike q) (a : α) (b : β) :
    (p.idle.push a).toList.length = (q.idle.push b).toList.length := by
  rw [Idle.toList_push, Idle.toList_push, List.length_append, List.length_append, h.length]
  rfl

theorem additionDeeds (h : p.Alike q) (a : α) (b : β) :
    (p.after (additionDeeds a : List (Deed ε α))).Alike
      (q.after (Pool.additionDeeds b : List (Deed ε β))) :=
  h.after (congrArg (·.count .growth) h.counters) h.calls (h.length_push a b)

theorem releaseDeeds (h : p.Alike q) (a : α) (b : β) :
    (p.after (releaseDeeds a : List (Deed ε α))).Alike
      (q.after (Pool.releaseDeeds b : List (Deed ε β))) :=
  h.after (congrArg (·.count .release) h.counters) h.calls (h.length_push a b)

/-- Where one pool has an idle instance, the other has. -/
theorem pop? (h : p.Alike q) {a : α} {rest : Idle α} (hpop : p.idle.pop? = some (a, rest)) :
    ∃ b rest', q.idle.pop? = some (b, rest') := by
  rcases hq : q.idle.pop? with _ | ⟨b, rest'⟩
  · have hlength := h.length
    rw [Idle.pop?_eq_none_iff.mp hq, (Idle.perm_of_pop? hpop).length_eq] at hlength
    simp at hlength
  · exact ⟨b, rest', rfl⟩

theorem pop?_none (h : p.Alike q) (hpop : p.idle.pop? = none) : q.idle.pop? = none := by
  rw [Idle.pop?_eq_none_iff] at hpop ⊢
  have hlength := h.length
  rw [hpop] at hlength
  exact List.length_eq_zero_iff.mp hlength.symm

end Alike

/-! ## Room -/

/-- If a deed is the beginning of a growth, the pool has room for it. -/
def Fits (instanceSize : Nat) (p : Pool α) : Deed ε α → Prop
  | .growBegan count => p.HasRoom instanceSize count
  | _ => True

/-- A pool has room for the growths in a journal, each at its moment. -/
def Roomy (instanceSize : Nat) : Pool α → List (Deed ε α) → Prop
  | _, [] => True
  | p, d :: J => p.Fits instanceSize d ∧ (p.next d).Roomy instanceSize J

instance (instanceSize : Nat) (count : UInt64) :
    (p : Pool α) → Decidable (p.HasRoom instanceSize count)
  | ⟨.stack items, _, _⟩ =>
    inferInstanceAs (Decidable (items.length + count.toNat < UInt64.size ∧
      (items.length + count.toNat) * instanceSize ≤ reservable))
  | ⟨.queue _ _, _, _⟩ => inferInstanceAs (Decidable True)

instance (instanceSize : Nat) (p : Pool α) :
    (d : Deed ε α) → Decidable (p.Fits instanceSize d)
  | .growBegan count => inferInstanceAs (Decidable (p.HasRoom instanceSize count))
  | .callBegan _ | .callEnded _ | .getEnded _ | .growEnded _ _ | .released _ | .added _
  | .served _ | .counted _ | .reported _ => inferInstanceAs (Decidable True)

instance decidableRoomy (instanceSize : Nat) :
    (p : Pool α) → (J : List (Deed ε α)) → Decidable (p.Roomy instanceSize J)
  | _, [] => inferInstanceAs (Decidable True)
  | p, d :: J =>
    have := decidableRoomy instanceSize (p.next d) J
    inferInstanceAs (Decidable (p.Fits instanceSize d ∧ (p.next d).Roomy instanceSize J))

theorem roomy_append {instanceSize : Nat} {p : Pool α} {J K : List (Deed ε α)} :
    p.Roomy instanceSize (J ++ K) ↔
      p.Roomy instanceSize J ∧ (p.after J).Roomy instanceSize K := by
  induction J generalizing p with
  | nil => simp [Roomy]
  | cons d J ih => simp [Roomy, ih, and_assoc]

/-! ## Runs match -/

section

variable {f : Factory ε α} {g : Factory ε β}

/-- **A run on a pool with room is matched on a queue**, by a run that ends alike and leaves a pool
alike. -/
theorem Runs.simulate (hfg : f.Alike g) {depth : Nat} {task : Task ε α γ} {p : Pool α}
    {J : List (Deed ε α)} {e : Ending ε γ} (h : Runs f depth task p J e) {task' : Task ε β δ}
    (htask : task.Alike task') {q : Pool β} (hpq : p.Alike q)
    (hroomy : p.Roomy f.instanceSize J) :
    ∃ K e', Runs g depth task' q K e' ∧ e.Alike e' ∧ (p.after J).Alike (q.after K) := by
  induction h generalizing δ q with
  | tooDeep =>
    cases htask
    exact ⟨_, _, .tooDeep, .unfinished, hpq⟩
  | @called n p J e h ih =>
    cases htask
    have hbegan : Alike { p with calls := p.calls + 1 } { q with calls := q.calls + 1 } :=
      { hpq with calls := congrArg (· + 1) hpq.calls }
    have hscript : (f.script p.calls).Alike (g.script q.calls) := hpq.calls ▸ hfg p.calls
    obtain ⟨K, e', hrun, he, hafter⟩ :=
      ih (.play hscript) hbegan (roomy_append.mp hroomy.2).1
    refine ⟨_, e', .called hrun, he, ?_⟩
    rw [after_cons p, after_append _ J, after_cons q, after_append _ K]
    exact hafter
  | @made n p J e h ih =>
    cases htask
    obtain ⟨K, e', hrun, he, hafter⟩ := ih .call hpq (roomy_append.mp hroomy).1
    refine ⟨_, e', .made hrun, he, ?_⟩
    rw [after_append, after_append]
    exact hafter.failureDeeds he _ _
  | @hit n p a rest hidle =>
    cases htask
    obtain ⟨b, rest', hidle'⟩ := hpq.pop? hidle
    refine ⟨_, _, .hit hidle', .ok a b, hpq.after ?_ ?_ ?_⟩
    · simp only [after_cons, after_nil, next, hidle, hidle', hpq.counters]
    · simp only [after_cons, after_nil, next, hidle, hidle', hpq.calls]
    · have hlength := hpq.length
      rw [(Idle.perm_of_pop? hidle).length_eq, (Idle.perm_of_pop? hidle').length_eq] at hlength
      simp only [after_cons, after_nil, next, hidle, hidle']
      exact Nat.succ.inj hlength
  | @missed n p J e hidle h ih =>
    cases htask
    obtain ⟨K, e', hrun, he, hafter⟩ := ih .make hpq (roomy_append.mp hroomy).1
    refine ⟨_, e', .missed (hpq.pop?_none hidle) hrun, he, ?_⟩
    rw [after_append p J, after_append q K]
    exact hafter.missDeeds he _ _
  | released =>
    cases htask with
    | release _ b => exact ⟨_, _, .released, .ok () (), hpq.releaseDeeds _ b⟩
  | addedAll =>
    cases htask
    exact ⟨_, _, .addedAll, .ok () (), hpq⟩
  | @added n m p a J K e hmake h ihmake ih =>
    cases htask
    obtain ⟨hroomy₁, hroomy₂⟩ := roomy_append.mp hroomy
    obtain ⟨J', g', hrun, hg, hafter⟩ := ihmake .make hpq hroomy₁
    cases hg with
    | ok _ b =>
      obtain ⟨K', e', hrun', he, hafter'⟩ :=
        ih (.add m) (hafter.additionDeeds a b) (roomy_append.mp hroomy₂).2
      refine ⟨_, e', .added hrun hrun', he, ?_⟩
      rw [after_append, after_append, after_append, after_append]
      exact hafter'
  | addStopped hmake hstop ih =>
    cases htask
    obtain ⟨K, e', hrun, he, hafter⟩ := ih .make hpq hroomy
    obtain ⟨e'', hstop', he'⟩ := he.stop? hstop
    exact ⟨_, e'', .addStopped hrun hstop', he', hafter⟩
  | grewByNone =>
    cases htask
    exact ⟨_, _, .grewByNone, .ok () (), hpq⟩
  | @growRefused n p count hcount hroom => exact absurd hroomy.1 hroom
  | @grew n p count J e hcount hroom h ih =>
    cases htask
    obtain ⟨K, e', hrun, he, hafter⟩ := ih (.add _) hpq (roomy_append.mp hroomy.2).1
    refine ⟨_, e', .grew hcount (hpq.hasRoom _ _) hrun, he, ?_⟩
    rw [after_cons p, after_append _ J, after_cons q, after_append _ K]
    exact hafter.growthDeeds he _ _ _
  | makes =>
    cases htask with
    | play hscript =>
      cases hscript with
      | make _ b => exact ⟨_, _, .makes, .ok _ b, hpq⟩
  | fails =>
    cases htask with
    | play hscript =>
      cases hscript
      exact ⟨_, _, .fails, .error _, hpq⟩
  | panics =>
    cases htask with
    | play hscript =>
      cases hscript
      exact ⟨_, _, .panics, .panicked _, hpq⟩
  | @releases n p a script J e h ih =>
    cases htask with
    | play hscript =>
      cases hscript with
      | release _ b hnext =>
        obtain ⟨K, e', hrun, he, hafter⟩ :=
          ih (.play hnext) (hpq.releaseDeeds a b) (roomy_append.mp hroomy).2
        refine ⟨_, e', .releases hrun, he, ?_⟩
        rw [after_append, after_append]
        exact hafter
  | @grows n p count script J K g u e hgrow hu h ihgrow ih =>
    cases htask with
    | play hscript =>
      cases hscript with
      | grow _ hnext =>
        obtain ⟨hroomy₁, hroomy₂⟩ := roomy_append.mp hroomy
        obtain ⟨J', g', hrun, hg, hafter⟩ := ihgrow (.grow count) hpq hroomy₁
        obtain ⟨K', e', hrun', he, hafter'⟩ := ih (.play (hnext u)) hafter hroomy₂
        have hcaught : g'.caught? = some u := by
          cases hg <;> exact hu
        refine ⟨_, e', .grows hrun hcaught hrun', he, ?_⟩
        rw [after_append, after_append]
        exact hafter'
  | @growStopped n p count script J g e hgrow hu hstop ih =>
    cases htask with
    | play hscript =>
      cases hscript with
      | grow _ hnext =>
        obtain ⟨K, g', hrun, hg, hafter⟩ := ih (.grow count) hpq hroomy
        obtain ⟨e', hstop', he⟩ := hg.stop? hstop
        exact ⟨_, e', .growStopped hrun (hg.caught?_none hu) hstop', he, hafter⟩
  | @gets n p script J K g u e hget hu h ihget ih =>
    cases htask with
    | play hscript =>
      cases hscript with
      | @get _ t hok herror hpanicked =>
        obtain ⟨hroomy₁, hroomy₂⟩ := roomy_append.mp hroomy
        obtain ⟨J', g', hrun, hg, hafter⟩ := ihget .get hpq hroomy₁
        have hnext : ∃ u', g'.caught? = some u' ∧ (script u).Alike (t u') := by
          cases hg with
          | ok a b =>
            obtain rfl := Option.some.inj hu
            exact ⟨_, rfl, hok a b⟩
          | error reason =>
            obtain rfl := Option.some.inj hu
            exact ⟨_, rfl, herror reason⟩
          | panicked message =>
            obtain rfl := Option.some.inj hu
            exact ⟨_, rfl, hpanicked message⟩
          | unfinished => cases hu
        obtain ⟨u', hu', halike⟩ := hnext
        obtain ⟨K', e', hrun', he, hafter'⟩ := ih (.play halike) hafter hroomy₂
        refine ⟨_, e', .gets hrun hu' hrun', he, ?_⟩
        rw [after_append, after_append]
        exact hafter'
  | getStopped hget hu hstop ih =>
    cases htask with
    | play hscript =>
      cases hscript with
      | get _ _ _ =>
        obtain ⟨K, g', hrun, hg, hafter⟩ := ih .get hpq hroomy
        obtain ⟨e', hstop', he⟩ := hg.stop? hstop
        exact ⟨_, e', .getStopped hrun (hg.caught?_none hu) hstop', he, hafter⟩

end

/-! ## Desks -/

/-- Two slots that hold the same kind of thing. -/
inductive Holder.Alike : Holder α → Holder β → Prop where
  /-- Both hold a bare instance. -/
  | bare (a : α) (b : β) : Alike (.bare a) (.bare b)
  /-- Both hold an instance under a guard. -/
  | guarded (a : α) (b : β) : Alike (.guarded ⟨some a⟩) (.guarded ⟨some b⟩)
  /-- Both hold nothing. -/
  | vacant : Alike .vacant .vacant

/-- Two requests that differ in instances only. -/
inductive Request.Alike : Request α → Request β → Prop where
  /-- Both get. -/
  | get : Alike .get .get
  /-- Both check out. -/
  | checkout : Alike .checkout .checkout
  /-- Both grow by the same number. -/
  | grow (count : UInt64) : Alike (.grow count) (.grow count)
  /-- Both bring an instance. -/
  | bring (a : α) (b : β) : Alike (.bring a) (.bring b)
  /-- Both release the instance in the same slot. -/
  | release (slot : Nat) : Alike (.release slot) (.release slot)
  /-- Both release a copy of the instance in the same slot. -/
  | releaseCopy (slot : Nat) : Alike (.releaseCopy slot) (.releaseCopy slot)
  /-- Both drop what is in the same slot. -/
  | drop (slot : Nat) : Alike (.drop slot) (.drop slot)
  /-- Both detach the instance in the same slot. -/
  | detach (slot : Nat) : Alike (.detach slot) (.detach slot)
  /-- Both change the instance in the same slot. -/
  | amend (slot : Nat) (change : α → α) (change' : β → β) :
      Alike (.amend slot change) (.amend slot change')
  /-- Both look at the instance in the same slot. -/
  | look (slot : Nat) : Alike (.look slot) (.look slot)

/-- A reply without its instance. -/
def Reply.shape : Reply α → Reply Unit
  | .done => .done
  | .handedOut slot _ => .handedOut slot ()
  | .item _ => .item ()
  | .noSlot => .noSlot
  | .wrongHolder => .wrongHolder

/-- How a request ended, without instances. -/
def shape : Ending ε (Reply α) → Ending ε (Reply Unit)
  | .ok r => .ok r.shape
  | .error reason => .error reason
  | .panicked message => .panicked message
  | .unfinished => .unfinished

theorem shape_of_stop {g : Ending ε γ} {g' : Ending ε δ} (h : g.Alike g')
    {e : Ending ε (Reply α)} {e' : Ending ε (Reply β)} (he : g.stop? = some e)
    (he' : g'.stop? = some e') : shape e = shape e' := by
  cases h with
  | ok a b => cases he
  | _ =>
    obtain rfl := Option.some.inj he
    obtain rfl := Option.some.inj he'
    rfl

namespace Desk

/-- Two desks that cannot be told apart. -/
structure Alike (d : Desk α) (d' : Desk β) : Prop where
  /-- The pools are alike. -/
  pool : d.pool.Alike d'.pool
  /-- So are the slots. -/
  slots : List.Forall₂ Holder.Alike d.slots.toList d'.slots.toList

variable {d : Desk α} {d' : Desk β}

theorem Alike.holder (h : d.Alike d') (slot : Nat) :
    (d.holder slot).Alike (d'.holder slot) := by
  have hslots := h.slots
  rw [Desk.holder, Desk.holder, Array.getD_eq_getD_getElem?, Array.getD_eq_getD_getElem?,
    ← Array.getElem?_toList, ← Array.getElem?_toList]
  generalize d.slots.toList = xs, d'.slots.toList = ys at hslots
  induction hslots generalizing slot with
  | nil => exact .vacant
  | cons hhead _ ih =>
    cases slot with
    | zero => exact hhead
    | succ slot => exact ih slot

theorem Alike.set (h : d.Alike d') (slot : Nat) {x : Holder α} {y : Holder β} (hxy : x.Alike y) :
    List.Forall₂ Holder.Alike (d.slots.setIfInBounds slot x).toList
      (d'.slots.setIfInBounds slot y).toList := by
  have hslots := h.slots
  rw [Array.toList_setIfInBounds, Array.toList_setIfInBounds]
  generalize d.slots.toList = xs, d'.slots.toList = ys at hslots
  induction hslots generalizing slot with
  | nil => exact .nil
  | cons hhead hrest ih =>
    cases slot with
    | zero => exact .cons hxy hrest
    | succ slot => exact .cons hhead (ih slot)

/-- Two errands that differ in instances only. -/
inductive Errand.Alike : Errand ε α → Errand ε β → Prop where
  /-- Both ask for an instance. -/
  | ask {hold : α → Holder α} {hold' : β → Holder β} (h : ∀ a b, (hold a).Alike (hold' b)) :
      Alike (.ask hold) (.ask hold')
  /-- Both grow by the same number. -/
  | grow (count : UInt64) : Alike (.grow count) (.grow count)
  /-- Both give an instance. -/
  | give (a : α) (b : β) {slots : Array (Holder α)} {slots' : Array (Holder β)}
      (h : List.Forall₂ Holder.Alike slots.toList slots'.toList) :
      Alike (.give a slots) (.give b slots')
  /-- Both leave the pool alone and end in the same way. -/
  | settle {e : Ending ε (Reply α)} {e' : Ending ε (Reply β)} {slots : Array (Holder α)}
      {slots' : Array (Holder β)} (he : shape e = shape e')
      (h : List.Forall₂ Holder.Alike slots.toList slots'.toList) :
      Alike (.settle e slots) (.settle e' slots')

/-- Requests that are alike are errands alike at desks alike. -/
theorem Alike.errand (h : d.Alike d') {r : Request α} {r' : Request β} (hr : r.Alike r') :
    (d.errand r : Errand ε α).Alike (d'.errand r') := by
  cases hr with
  | get => exact .ask fun a b => .bare a b
  | checkout => exact .ask fun a b => .guarded a b
  | grow count => exact .grow count
  | bring a b => exact .give a b h.slots
  | release slot =>
    have hholder := h.holder slot
    simp only [Desk.errand]
    generalize d.holder slot = x, d'.holder slot = y at hholder
    cases hholder with
    | bare a b => exact .give a b (h.set slot .vacant)
    | _ => exact .settle rfl h.slots
  | releaseCopy slot =>
    have hholder := h.holder slot
    simp only [Desk.errand]
    generalize d.holder slot = x, d'.holder slot = y at hholder
    cases hholder with
    | bare a b => exact .give a b h.slots
    | _ => exact .settle rfl h.slots
  | drop slot =>
    have hholder := h.holder slot
    simp only [Desk.errand]
    generalize d.holder slot = x, d'.holder slot = y at hholder
    cases hholder with
    | bare a b => exact .settle rfl (h.set slot .vacant)
    | guarded a b => exact .give a b (h.set slot .vacant)
    | vacant => exact .settle rfl h.slots
  | detach slot =>
    have hholder := h.holder slot
    simp only [Desk.errand]
    generalize d.holder slot = x, d'.holder slot = y at hholder
    cases hholder with
    | guarded a b => exact .settle rfl (h.set slot (.bare a b))
    | _ => exact .settle rfl h.slots
  | amend slot change change' =>
    have hholder := h.holder slot
    simp only [Desk.errand]
    generalize d.holder slot = x, d'.holder slot = y at hholder
    cases hholder with
    | bare a b => exact .settle rfl (h.set slot (.bare _ _))
    | guarded a b => exact .settle rfl (h.set slot (.guarded _ _))
    | vacant => exact .settle rfl h.slots
  | look slot =>
    have hholder := h.holder slot
    simp only [Desk.errand]
    generalize d.holder slot = x, d'.holder slot = y at hholder
    cases hholder <;> exact .settle rfl h.slots

/-- **A request at a desk with room is matched at the desk of a queue.** -/
theorem Serves.simulate {f : Factory ε α} {g : Factory ε β} (hfg : f.Alike g) {depth : Nat}
    {r : Request α} {J : List (Deed ε α)} {e : Ending ε (Reply α)} {d₁ : Desk α}
    (h : Serves f depth d r J e d₁) {r' : Request β} (hr : r.Alike r') (hd : d.Alike d')
    (hroomy : d.pool.Roomy f.instanceSize J) :
    ∃ K e' d₁', Serves g depth d' r' K e' d₁' ∧ shape e = shape e' ∧ d₁.Alike d₁' := by
  have herrand : (d.errand r : Errand ε α).Alike (d'.errand r') := hd.errand hr
  generalize herrand' : (d'.errand r' : Errand ε β) = errand' at herrand
  have hsize : d.slots.size = d'.slots.size := by
    simpa using hd.slots.length_eq
  cases h with
  | @handedOut hold a _ hask h =>
    rw [hask] at herrand
    cases herrand with
    | ask hhold =>
      obtain ⟨K, g', hrun, hg, hafter⟩ := h.simulate hfg .get hd.pool hroomy
      cases hg with
      | ok _ b =>
        refine ⟨_, _, _, .handedOut herrand' hrun, ?_, hafter, ?_⟩
        · simp only [shape, Reply.shape, hsize]
        · simpa using List.rel_append hd.slots (.cons (hhold a b) .nil)
  | notHandedOut hask h hstop =>
    rw [hask] at herrand
    cases herrand with
    | ask hhold =>
      obtain ⟨K, g', hrun, hg, hafter⟩ := h.simulate hfg .get hd.pool hroomy
      obtain ⟨e', hstop', -⟩ := hg.stop? hstop
      exact ⟨_, e', _, .notHandedOut herrand' hrun hstop', shape_of_stop hg hstop hstop', hafter,
        hd.slots⟩
  | grown hgrow h =>
    rw [hgrow] at herrand
    cases herrand
    obtain ⟨K, g', hrun, hg, hafter⟩ := h.simulate hfg (.grow _) hd.pool hroomy
    cases hg
    exact ⟨_, _, _, .grown herrand' hrun, rfl, hafter, hd.slots⟩
  | notGrown hgrow h hstop =>
    rw [hgrow] at herrand
    cases herrand
    obtain ⟨K, g', hrun, hg, hafter⟩ := h.simulate hfg (.grow _) hd.pool hroomy
    obtain ⟨e', hstop', -⟩ := hg.stop? hstop
    exact ⟨_, e', _, .notGrown herrand' hrun hstop', shape_of_stop hg hstop hstop', hafter,
      hd.slots⟩
  | given hgive =>
    rw [hgive] at herrand
    cases herrand with
    | give _ b hslots =>
      exact ⟨_, _, _, .given herrand', rfl, hd.pool.releaseDeeds _ b, hslots⟩
  | settled hsettle =>
    rw [hsettle] at herrand
    cases herrand with
    | settle he hslots => exact ⟨_, _, _, .settled herrand', he, hd.pool, hslots⟩

end Desk

/-! ## Sessions -/

/-- What can be seen of a step of a session, up to instances. -/
structure Entry (ε : Type) where
  /-- How the step ended. -/
  ending : Ending ε (Reply Unit)
  /-- How many factory calls have been made so far. -/
  calls : Nat
  /-- The statistics after the step. -/
  stats : Stats

/-- What can be seen of a list of requests. -/
def Desk.log (f : Factory ε α) (depth : Nat) :
    List (Request α) → Scene (Desk α) (Deed ε α) → List (Entry ε)
  | [], _ => []
  | r :: requests, s =>
    let served := serve f depth r s
    ⟨shape served.1, served.2.state.pool.calls, served.2.state.pool.stats⟩ ::
      log f depth requests served.2

/-- How the building of a pool ended. -/
def builtShape : Ending ε Unit → Ending ε (Reply Unit)
  | .ok () => .ok .done
  | .error reason => .error reason
  | .panicked message => .panicked message
  | .unfinished => .unfinished

theorem builtShape_of_alike {e e' : Ending ε Unit} (h : e.Alike e') :
    builtShape e = builtShape e' := by
  cases h <;> rfl

/-- What can be seen of a session: how the building of the pool went, and, if there is a pool then,
how the requests did. -/
def log (f : Factory ε α) (kind : Kind) (depth : Nat) (initial : UInt64)
    (requests : List (Request α)) : List (Entry ε) :=
  let built := f.build kind depth initial
  ⟨builtShape built.1, built.2.state.calls, built.2.state.stats⟩ ::
    if built.1.isOk then Desk.log f depth requests (Desk.opened f kind depth initial) else []

/-- The scene at the end of what a log tells. -/
def logged (f : Factory ε α) (kind : Kind) (depth : Nat) (initial : UInt64)
    (requests : List (Request α)) : Scene (Desk α) (Deed ε α) :=
  if (f.build kind depth initial).1.isOk then session f kind depth initial requests
  else Desk.opened f kind depth initial

section

variable {f : Factory ε α} {g : Factory ε β} {depth : Nat}

/-- Lists of requests that are alike leave the same log. -/
theorem Desk.Visits.log_eq (hfg : f.Alike g) {d d₁ : Desk α} {requests : List (Request α)}
    {J : List (Deed ε α)} {es : List (Ending ε (Reply α))}
    (h : Visits f depth d requests J es d₁) {requests' : List (Request β)}
    (hrequests : List.Forall₂ Request.Alike requests requests') {d' : Desk β} (hd : d.Alike d')
    (hroomy : d.pool.Roomy f.instanceSize J) (journal : Array (Deed ε α))
    (journal' : Array (Deed ε β)) :
    Desk.log f depth requests ⟨d, journal⟩ = Desk.log g depth requests' ⟨d', journal'⟩ := by
  induction h generalizing requests' d' journal journal' with
  | nil =>
    cases hrequests
    rfl
  | @cons d d₁ d₂ r requests J K e es h hs ih =>
    cases hrequests with
    | cons hr hrest =>
      obtain ⟨hroomy₁, hroomy₂⟩ := roomy_append.mp hroomy
      obtain ⟨J', e', d₁', h', hshape, hd₁⟩ := h.simulate hfg hr hd hroomy₁
      rw [← h.pool_eq] at hroomy₂
      simp only [Desk.log, h.serve_eq journal, h'.serve_eq journal', hshape, hd₁.pool.calls,
        hd₁.pool.stats]
      exact congrArg _ (ih hrest hd₁ hroomy₂ _ _)

/-- Pools without instances are alike. -/
theorem alike_empty (kind : Kind) : (empty kind : Pool α).Alike (empty .queue : Pool β) where
  counters := rfl
  calls := rfl
  length := by simp [empty]
  tallied := Idle.tallied_empty kind
  tallied' := Idle.tallied_empty .queue
  kind := rfl

/-- **The two kinds of store leave the same log**, with factories that do the same and with
requests that are alike, if the stack has room for the growths. -/
theorem kinds_alike (hfg : f.Alike g) (kind : Kind) (depth : Nat) (initial : UInt64)
    {requests : List (Request α)} {requests' : List (Request β)}
    (hrequests : List.Forall₂ Request.Alike requests requests')
    (hroomy : (empty kind).Roomy f.instanceSize
      (logged f kind depth initial requests).journal.toList) :
    log f kind depth initial requests = log g .queue depth initial requests' := by
  obtain ⟨J, K, d, h, hopened, hvisits, hsession⟩ := exists_session f kind depth initial requests
  obtain ⟨J', -, -, h', hopened', -, -⟩ := exists_session g .queue depth initial requests'
  have hready : ∀ {ε α : Type} (p : Pool α) (k : Kind) (e : Ending ε Unit),
      p.after (readyDeeds k initial e : List (Deed ε α)) = p := by
    rintro ε α p k (_ | _ | _ | _) <;> rfl
  -- the growth that builds the pool is noted first, whatever comes of it
  have hroomy₁ : (empty kind).Roomy f.instanceSize J := by
    rw [logged] at hroomy
    split at hroomy
    · rw [hsession] at hroomy
      exact (roomy_append.mp (roomy_append.mp hroomy).1).1
    · rw [hopened] at hroomy
      exact (roomy_append.mp hroomy).1
  obtain ⟨K', e', hrun, hending, hpool⟩ := h.simulate hfg (.grow initial) (alike_empty kind) hroomy₁
  obtain ⟨rfl, rfl⟩ := hrun.unique h'
  have hdesk : (Desk.opened f kind depth initial).state.Alike
      (Desk.opened g .queue depth initial).state := by
    rw [hopened, hopened', after_append, after_append, hready, hready]
    exact ⟨hpool, .nil⟩
  have hshape := builtShape_of_alike hending
  have hisOk := hending.isOk_eq
  have hcalls : (f.build kind depth initial).2.state.calls =
      (g.build .queue depth initial).2.state.calls := hdesk.pool.calls
  have hstats : (f.build kind depth initial).2.state.stats =
      (g.build .queue depth initial).2.state.stats := hdesk.pool.stats
  simp only [log, hshape, hcalls, hstats, hisOk]
  by_cases hok : (g.build .queue depth initial).1.isOk = true
  · have hroomy₂ : (Desk.opened f kind depth initial).state.pool.Roomy f.instanceSize K := by
      rw [logged, if_pos (hisOk.trans hok), hsession] at hroomy
      rw [hopened]
      exact (roomy_append.mp hroomy).2
    rw [if_pos hok, if_pos hok]
    exact congrArg _ (hvisits.log_eq hfg hrequests hdesk hroomy₂ _ _)
  · rw [if_neg hok, if_neg hok]

end

/-- What a planned factory does never depends on the instances it gets. -/
theorem Plan.alike (plan : Plan) : plan.factory.Alike plan.factory := by
  intro number
  refine Action.script_induction (motive := fun s => s.Alike s) (fun a => .make a a) .fail .panic
    (fun a _ h => .release a a h) ?_ ?_ number (plan.action number)
  · intro count next h
    exact .grow count fun
      | .ok (.ok ()) => h
      | .ok (.error reason) => .fail reason
      | .error message => .panic message
  · exact .get (fun a b => .make a b) .fail .panic

/-- A factory whose calls use the pool, fail and panic in turn. -/
def moody : Plan where
  first := [.make, .make, .use none (some 2) true, .fail "out of stock",
    .use (some { tag := 90 }) none true, .panic "out of order", .use none (some 1) false]
  later := .make
  fallible := true
  opening := 2

/-- Requests that meet all moods of the factory. -/
def moodyRequests : List (Request Tagged) :=
  [.get, .checkout, .get, .get, .drop 1, .release 0, .get, .grow 3, .detach 1, .grow 2, .get]

/-- The two kinds of store leave the same log with a moody factory. -/
theorem kinds_alike_moody :
    List.Forall₂ Request.Alike moodyRequests moodyRequests ∧
      (empty .stack).Roomy moody.factory.instanceSize
        (logged moody.factory .stack 11 2 moodyRequests).journal.toList ∧
      log moody.factory .stack 11 2 moodyRequests =
        log moody.factory .queue 11 2 moodyRequests := by
  have hrequests : List.Forall₂ Request.Alike moodyRequests moodyRequests :=
    .cons .get (.cons .checkout (.cons .get (.cons .get (.cons (.drop 1) (.cons (.release 0)
      (.cons .get (.cons (.grow 3) (.cons (.detach 1) (.cons (.grow 2) (.cons .get .nil))))))))))
  refine ⟨hrequests, ?_, kinds_alike moody.alike .stack 11 2 hrequests ?_⟩ <;> decide +kernel

end Pool

end ConverterKit
