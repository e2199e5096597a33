import ConverterKit.Proofs.Pool.Conservation
import Mathlib.Algebra.BigOperators.Group.Multiset.Basic

/-!
# Where instances come from and where they go

A ledger is kept along the journal of a pool. For each factory call under way it has a line with
the instance the call has got from the pool, if any. A call that returns what it got has made
nothing; a call that returns anything else has made a *fresh* instance. What a call got and does not
return is *lost*. Outside of factory calls it is the user who gets and releases instances.

Weighing instances in any way, what a session left idle, handed out or lost is worth what was fresh
or came from outside.

## Main definitions

* `Ledger`, `Ledger.next`, `Ledger.after`: the ledger, and how deeds are entered
* `Script.Honest`, `Factory.Honest`: a factory whose calls return what they get

## Main results

* `Chronicle.ledger_balance`: the ledger of a session balances
* `Runs.enters`: factory calls leave the lines of others and of the user alone
* `Runs.keeps`: an honest factory loses nothing
-/

namespace ConverterKit

namespace Pool

variable {ε α β : Type}

/-! ## The ledger -/

/-- An account of the instances in a journal. -/
structure Ledger (α : Type) where
  /-- What the factory calls under way have got, the innermost call first. -/
  calls : List (Option α) := []
  /-- The instances that calls have made. -/
  fresh : Multiset α := 0
  /-- The instances that calls have got and not returned. -/
  lost : Multiset α := 0
  /-- The instances that calls have released. -/
  strangers : Multiset α := 0
  /-- The instances that were handed out to the user. -/
  handedOut : Multiset α := 0
  /-- The instances that the user has released. -/
  returned : Multiset α := 0

namespace Ledger

/-- Somebody gets an instance: the innermost call, or the user. -/
def receive (L : Ledger α) (a : α) : Ledger α :=
  match L.calls with
  | [] => { L with handedOut := a ::ₘ L.handedOut }
  | none :: rest => { L with calls := some a :: rest }
  | some b :: rest => { L with calls := some a :: rest, lost := b ::ₘ L.lost }

/-- Somebody releases an instance. -/
def surrender (L : Ledger α) (a : α) : Ledger α :=
  match L.calls with
  | [] => { L with returned := a ::ₘ L.returned }
  | _ :: _ => { L with strangers := a ::ₘ L.strangers }

section

variable [DecidableEq α]

/-- A call that has got this instance, if any, ends. -/
def close (L : Ledger α) (got? : Option α) : Ending ε α → Ledger α
  | .ok a =>
    match got? with
    | some b =>
      if a = b then L
      else { L with fresh := a ::ₘ L.fresh, lost := b ::ₘ L.lost }
    | none => { L with fresh := a ::ₘ L.fresh }
  | _ =>
    match got? with
    | some b => { L with lost := b ::ₘ L.lost }
    | none => L

/-- The ledger after a deed. -/
def next (L : Ledger α) : Deed ε α → Ledger α
  | .callBegan _ => { L with calls := none :: L.calls }
  | .callEnded e => ({ L with calls := L.calls.tail } : Ledger α).close L.calls.head?.join e
  | .getEnded (.ok a) => L.receive a
  | .released a => L.surrender a
  | _ => L

/-- The ledger after some deeds. -/
def after (L : Ledger α) (J : List (Deed ε α)) : Ledger α := J.foldl next L

@[simp] theorem after_nil (L : Ledger α) : L.after ([] : List (Deed ε α)) = L := rfl

@[simp] theorem after_cons (L : Ledger α) (d : Deed ε α) (J : List (Deed ε α)) :
    L.after (d :: J) = (L.next d).after J := rfl

@[simp] theorem after_append (L : Ledger α) (J K : List (Deed ε α)) :
    L.after (J ++ K) = (L.after J).after K :=
  List.foldl_append

end

/-! ## The balance -/

/-- What instances are worth together. -/
def sum (value : α → ℤ) (m : Multiset α) : ℤ := (m.map value).sum

/-- What the calls under way hold is worth together. -/
def inHand (value : α → ℤ) (calls : List (Option α)) : ℤ :=
  (calls.map fun got? => (got?.map value).getD 0).sum

/-- By how much what is out of the pool is worth more than what came from elsewhere. -/
def excess (value : α → ℤ) (L : Ledger α) : ℤ :=
  inHand value L.calls + sum value L.lost + sum value L.handedOut -
    (sum value L.fresh + sum value L.strangers + sum value L.returned)

theorem excess_of_calls {L : Ledger α} (h : L.calls = []) (value : α → ℤ) :
    L.excess value = sum value L.lost + sum value L.handedOut -
      (sum value L.fresh + sum value L.strangers + sum value L.returned) := by
  rw [excess, h, show inHand value [] = 0 from rfl, zero_add]

@[simp] theorem sum_cons (value : α → ℤ) (a : α) (m : Multiset α) :
    sum value (a ::ₘ m) = value a + sum value m := by
  simp [sum]

end Ledger

/-- What a deed moves between the idle instances, factory calls and the user. -/
def flow (value : α → ℤ) : Deed ε α → ℤ
  | .callEnded (.ok a) => - value a
  | .getEnded (.ok a) => value a
  | .released a => - value a
  | .added a => value a
  | .served a => - value a
  | _ => 0

/-- What is moved arrives somewhere. -/
theorem conserved_flow (value : α → ℤ) : Conserved (flow (ε := ε) value) where
  call idle kind e := by cases e <;> simp [flow, made, failureDeeds, additionDeeds]
  miss kind e := by cases e <;> simp [flow, made, missDeeds, additionDeeds]
  hit a := by simp [flow]
  release a := by simp [flow, releaseDeeds]
  growth p count e := by cases e <;> simp [flow, growthDeeds]
  ready kind initial := rfl

namespace Ledger

variable [DecidableEq α]

theorem excess_close (value : α → ℤ) (L : Ledger α) (got? : Option α) (e : Ending ε α) :
    (L.close got? e).excess value =
      L.excess value + (got?.map value).getD 0 + flow value (.callEnded e : Deed ε α) := by
  cases e with
  | ok a =>
    rcases got? with _ | b
    · simp [close, excess, flow]
      omega
    · by_cases hab : a = b
      · subst hab
        simp [close, flow]
      · simp [close, hab, excess, flow]
        omega
  | _ =>
    rcases got? with _ | b
    · simp [close, flow]
    · simp [close, excess, flow]
      omega

theorem excess_next (value : α → ℤ) (L : Ledger α) (d : Deed ε α) :
    (L.next d).excess value + gain value d = L.excess value + flow value d := by
  cases d with
  | callBegan idle => simp [next, gain, flow, excess, inHand]
  | callEnded e =>
    rw [next, excess_close]
    obtain ⟨calls, fresh, lost, strangers, handedOut, returned⟩ := L
    rcases calls with _ | ⟨got?, rest⟩
    · simp [excess, inHand, gain]
    · simp [excess, inHand, gain]
      omega
  | getEnded e =>
    cases e with
    | ok a =>
      obtain ⟨calls, fresh, lost, strangers, handedOut, returned⟩ := L
      rcases calls with _ | ⟨_ | b, rest⟩ <;> simp [next, receive, excess, inHand, gain, flow] <;>
        omega
    | _ => simp [next, gain, flow]
  | released a =>
    obtain ⟨calls, fresh, lost, strangers, handedOut, returned⟩ := L
    rcases calls with _ | ⟨got?, rest⟩ <;> simp [next, surrender, excess, gain, flow] <;> omega
  | _ => simp [next, gain, flow]

theorem excess_after (value : α → ℤ) (L : Ledger α) (J : List (Deed ε α)) :
    (L.after J).excess value + (J.map (gain value)).sum =
      L.excess value + total (flow value) J := by
  induction J generalizing L with
  | nil => simp
  | cons d J ih =>
    have hnext := excess_next value L d
    have hrest := ih (L.next d)
    rw [after_cons, List.map_cons, List.sum_cons, total_cons]
    omega

end Ledger

/-- **The ledger of a session balances**: what is idle, in the hands of calls, lost or handed out
is worth what was fresh, or released by calls or by the user. -/
theorem Chronicle.ledger_balance [DecidableEq α] {kind : Kind} {J : List (Deed ε α)} {p : Pool α}
    (h : Chronicle kind J p) (value : α → ℤ) :
    p.worth value + (({} : Ledger α).after J).excess value = 0 := by
  have hworth := h.supplies.worth_after value
  have hexcess := Ledger.excess_after value {} J
  have hflow := h.total_eq_zero _ (conserved_flow value)
  have hempty : (empty kind : Pool α).worth value = 0 := by simp [worth, empty]
  have hnew : ({} : Ledger α).excess value = 0 := rfl
  rw [← h.pool_eq] at hworth
  omega

/-! ## Who writes which line -/

namespace Ledger

variable {L L' : Ledger α}

/-- Only what factory calls have made, released and lost may differ. -/
structure Same (L L' : Ledger α) : Prop where
  /-- The same calls are under way and have got the same. -/
  calls : L'.calls = L.calls
  /-- The user was handed nothing. -/
  handedOut : L'.handedOut = L.handedOut
  /-- The user has released nothing. -/
  returned : L'.returned = L.returned

theorem Same.refl (L : Ledger α) : Same L L := ⟨rfl, rfl, rfl⟩

theorem Same.trans {L₁ L₂ L₃ : Ledger α} (h : Same L₁ L₂) (h' : Same L₂ L₃) : Same L₁ L₃ :=
  ⟨h'.calls.trans h.calls, h'.handedOut.trans h.handedOut, h'.returned.trans h.returned⟩

/-- Inside of a factory call, the line of that call may differ as well. -/
def Within (L L' : Ledger α) : Prop :=
  ∀ got? rest, L.calls = got? :: rest → ∃ got?', Same { L with calls := got?' :: rest } L'

theorem Same.within (h : Same L L') : Within L L' := fun got? _ hcalls =>
  ⟨got?, h.calls.trans hcalls, h.handedOut, h.returned⟩

theorem Within.trans {L₁ L₂ L₃ : Ledger α} (h : Within L₁ L₂) (h' : Within L₂ L₃) :
    Within L₁ L₃ := by
  intro got? rest hcalls
  obtain ⟨got?', h₂⟩ := h got? rest hcalls
  obtain ⟨got?'', h₃⟩ := h' got?' rest h₂.calls
  exact ⟨got?'', h₃.calls, h₃.handedOut.trans h₂.handedOut, h₃.returned.trans h₂.returned⟩

theorem within_receive (L : Ledger α) (a : α) : Within L (L.receive a) := by
  intro got? rest hcalls
  refine ⟨some a, ?_⟩
  rcases got? with _ | b <;> simp only [receive, hcalls] <;> exact ⟨rfl, rfl, rfl⟩

theorem within_surrender (L : Ledger α) (a : α) : Within L (L.surrender a) := by
  intro got? rest hcalls
  refine ⟨got?, ?_⟩
  simp only [surrender, hcalls]
  exact ⟨rfl, rfl, rfl⟩

@[simp] theorem calls_surrender (L : Ledger α) (a : α) : (L.surrender a).calls = L.calls := by
  obtain ⟨calls, fresh, lost, strangers, handedOut, returned⟩ := L
  cases calls <;> rfl

@[simp] theorem lost_surrender (L : Ledger α) (a : α) : (L.surrender a).lost = L.lost := by
  obtain ⟨calls, fresh, lost, strangers, handedOut, returned⟩ := L
  cases calls <;> rfl

variable [DecidableEq α]

theorem same_close (L : Ledger α) (got? : Option α) (e : Ending ε α) :
    Same L (L.close got? e) := by
  cases e with
  | ok a =>
    rcases got? with _ | b
    · exact ⟨rfl, rfl, rfl⟩
    · by_cases hab : a = b <;> simp only [close, hab, if_true, if_false] <;> exact ⟨rfl, rfl, rfl⟩
  | _ => rcases got? with _ | b <;> exact ⟨rfl, rfl, rfl⟩

theorem within_getEnded (L : Ledger α) (e : Ending ε α) :
    Within L (L.next (.getEnded e : Deed ε α)) := by
  cases e with
  | ok a => exact L.within_receive a
  | _ => exact (Same.refl L).within

@[simp] theorem after_failureDeeds (L : Ledger α) (kind : Kind) (e : Ending ε α) :
    L.after (failureDeeds kind e) = L := by
  cases e <;> rfl

@[simp] theorem after_missDeeds (L : Ledger α) (kind : Kind) (e : Ending ε α) :
    L.after (missDeeds kind e) = L := by
  cases e <;> rfl

@[simp] theorem after_growthDeeds (L : Ledger α) (p : Pool α) (count : UInt64)
    (e : Ending ε Unit) : L.after (growthDeeds p count e : List (Deed ε α)) = L := by
  cases e <;> rfl

@[simp] theorem after_additionDeeds (L : Ledger α) (a : α) :
    L.after (additionDeeds a : List (Deed ε α)) = L := rfl

@[simp] theorem after_releaseDeeds (L : Ledger α) (a : α) :
    L.after (releaseDeeds a : List (Deed ε α)) = L.surrender a := rfl

end Ledger

section

variable [DecidableEq α] {f : Factory ε α} {depth : Nat} {p : Pool α} {J : List (Deed ε α)}

/-- How a task may change the ledger: it enters what it gets or releases itself, and otherwise
leaves all lines but those of its own calls alone. -/
def Task.Enters : {β : Type} → Task ε α β → Ending ε β → Ledger α → Ledger α → Prop
  | _, .get, e, L, L' => ∃ L₀, L.Same L₀ ∧ L' = L₀.next (.getEnded e : Deed ε α)
  | _, .release a, _, L, L' => L' = L.surrender a
  | _, .play _, _, L, L' => L.Within L'
  | _, _, _, L, L' => L.Same L'

/-- **A run leaves the lines of others alone.** -/
theorem Runs.enters {task : Task ε α β} {e : Ending ε β} (h : Runs f depth task p J e)
    (L : Ledger α) : task.Enters e L (L.after J) := by
  induction h generalizing L with
  | tooDeep | addedAll | grewByNone => exact .refl L
  | makes | fails | panics => exact (Ledger.Same.refl L).within
  | @called n p J e h ih =>
    -- the script has changed only the line of its own call, which is closed with the call
    rw [Ledger.after_cons, Ledger.after_append]
    obtain ⟨got?, hplay⟩ := ih (L.next (.callBegan p.idle)) none L.calls rfl
    generalize (L.next (.callBegan p.idle)).after J = M at hplay ⊢
    have htail : L.Same { M with calls := M.calls.tail } :=
      ⟨congrArg List.tail hplay.calls, hplay.handedOut, hplay.returned⟩
    exact htail.trans (Ledger.same_close _ _ _)
  | made h ih =>
    rw [Ledger.after_append, Ledger.after_failureDeeds]
    exact ih L
  | hit hidle => exact ⟨L, .refl L, rfl⟩
  | missed hidle h ih =>
    refine ⟨_, ih L, ?_⟩
    rw [Ledger.after_append, Ledger.after_append, Ledger.after_missDeeds]
    rfl
  | released => rfl
  | added hmake h ihmake ih =>
    rw [Ledger.after_append, Ledger.after_append, Ledger.after_additionDeeds]
    exact (ihmake L).trans (ih _)
  | addStopped hmake he ih => exact ih L
  | growRefused hcount hroom => exact .refl L
  | grew hcount hroom h ih =>
    rw [Ledger.after_cons, Ledger.after_append, Ledger.after_append, Ledger.after_growthDeeds]
    exact ih L
  | releases h ih =>
    rw [Ledger.after_append, Ledger.after_releaseDeeds]
    exact (L.within_surrender _).trans (ih _)
  | grows hgrow hu h ihgrow ih =>
    rw [Ledger.after_append]
    exact (ihgrow L).within.trans (ih _)
  | growStopped hgrow hu he ih => exact (ih L).within
  | gets hget hu h ihget ih =>
    rw [Ledger.after_append]
    obtain ⟨L₀, hsame, heq⟩ := ihget L
    have hget : L.Within (L.after _) := heq ▸ hsame.within.trans (L₀.within_getEnded _)
    exact hget.trans (ih _)
  | getStopped hget hu he ih =>
    obtain ⟨L₀, hsame, heq⟩ := ih L
    exact heq ▸ hsame.within.trans (L₀.within_getEnded _)

/-! ## Honest factories -/

end

namespace Script

/-- A script that returns the given instance, and may release others before. -/
def Returns (a : α) : Script ε α → Prop
  | .make b => b = a
  | .release _ next => next.Returns a
  | _ => False

/-- A script that returns the instance it gets, if it gets one. Before that it may release and
grow, catch whatever comes of a growth or a get that fails, and end in any way. -/
def Honest : Script ε α → Prop
  | .make _ => True
  | .fail _ => True
  | .panic _ => True
  | .release _ next => next.Honest
  | .grow _ next => ∀ u, (next u).Honest
  | .get next => (∀ a, (next (.ok (.ok a))).Returns a) ∧
    (∀ reason, (next (.ok (.error reason))).Honest) ∧ ∀ message, (next (.error message)).Honest

end Script

/-- A factory whose calls return what they get. -/
def Factory.Honest (f : Factory ε α) : Prop := ∀ number, (f.script number).Honest

section

variable [DecidableEq α] {f : Factory ε α} {depth : Nat} {p : Pool α} {J : List (Deed ε α)}

namespace Ledger

theorem lost_close_none (L : Ledger α) (e : Ending ε α) : (L.close none e).lost = L.lost := by
  cases e <;> rfl

theorem lost_close_some (L : Ledger α) (a : α) :
    (L.close (some a) (.ok a : Ending ε α)).lost = L.lost := by
  simp [close]

theorem lost_getEnded {L : Ledger α} (h : L.calls.head?.join = none) (e : Ending ε α) :
    (L.next (.getEnded e : Deed ε α)).lost = L.lost := by
  cases e with
  | ok a =>
    obtain ⟨calls, fresh, lost, strangers, handedOut, returned⟩ := L
    rcases calls with _ | ⟨_ | b, rest⟩
    · rfl
    · rfl
    · exact absurd h (Option.some_ne_none b)
  | _ => rfl

end Ledger

/-- A get inside of a call that has got nothing yet enters what it gets. -/
theorem Runs.calls_of_get {g : Ending ε α} (h : Runs f depth .get p J g) {L : Ledger α}
    {rest : List (Option α)} (hcalls : L.calls = none :: rest) :
    (L.after J).calls = (match g with | .ok a => some a | _ => none) :: rest := by
  obtain ⟨L₀, hsame, heq⟩ := h.enters L
  have hcalls₀ : L₀.calls = none :: rest := hsame.calls.trans hcalls
  rw [heq]
  cases g with
  | ok a => simp only [Ledger.next, Ledger.receive, hcalls₀]
  | _ => exact hcalls₀

/-- A script that returns an instance does so, and gets none. -/
theorem Runs.of_returns {script : Script ε α} {e : Ending ε α} {a : α}
    (h : Runs f depth (.play script) p J e) (hscript : script.Returns a) (L : Ledger α) :
    e = .ok a ∧ (L.after J).calls = L.calls ∧ (L.after J).lost = L.lost := by
  induction script generalizing p J L with
  | make b =>
    cases h
    exact ⟨congrArg Ending.ok hscript, rfl, rfl⟩
  | release b script ih =>
    cases h with
    | releases h =>
      obtain ⟨he, hcalls, hlost⟩ := ih h hscript (L.surrender b)
      rw [Ledger.after_append, Ledger.after_releaseDeeds]
      exact ⟨he, hcalls.trans (L.calls_surrender b), hlost.trans (L.lost_surrender b)⟩
  | _ => exact hscript.elim

/-- What a task of an honest factory does to the instances that were lost: nothing, if whoever gets
holds nothing else. -/
def Task.Keeps : {β : Type} → Task ε α β → Ending ε β → Ledger α → Ledger α → Prop
  | _, .get, _, L, L' => L.calls.head?.join = none → L'.lost = L.lost
  | _, .play script, e, L, L' => script.Honest → ∀ rest, L.calls = none :: rest →
    L'.lost = L.lost ∧
      (L'.calls = none :: rest ∨ ∃ a, e = .ok a ∧ L'.calls = some a :: rest)
  | _, _, _, L, L' => L'.lost = L.lost

/-- **An honest factory loses nothing.** -/
theorem Runs.keeps {task : Task ε α β} {e : Ending ε β} (hf : f.Honest)
    (h : Runs f depth task p J e) (L : Ledger α) : task.Keeps e L (L.after J) := by
  induction h generalizing L with
  | tooDeep | addedAll | grewByNone | growRefused => rfl
  | makes | fails | panics => exact fun _ rest hcalls => ⟨rfl, .inl hcalls⟩
  | @called n p J e h ih =>
    rw [Ledger.after_cons, Ledger.after_append]
    obtain ⟨hlost, hline⟩ := ih (L.next (.callBegan p.idle)) (hf p.calls) L.calls rfl
    generalize (L.next (.callBegan p.idle)).after J = M at hlost hline ⊢
    show (({ M with calls := M.calls.tail } : Ledger α).close M.calls.head?.join e).lost = L.lost
    obtain hline | ⟨a, rfl, hline⟩ := hline
    · rw [hline]
      exact (Ledger.lost_close_none _ e).trans hlost
    · rw [hline]
      exact (Ledger.lost_close_some _ a).trans hlost
  | made h ih =>
    rw [Ledger.after_append, Ledger.after_failureDeeds]
    exact ih L
  | @hit n p a rest hidle => exact fun hfree => Ledger.lost_getEnded (ε := ε) hfree (.ok a)
  | missed hidle h ih =>
    intro hfree
    rw [Ledger.after_append, Ledger.after_append, Ledger.after_missDeeds]
    have hcalls : (L.after _).calls = L.calls := (h.enters L).calls
    exact (Ledger.lost_getEnded (hcalls ▸ hfree) _).trans (ih L)
  | released => exact L.lost_surrender _
  | added hmake h ihmake ih =>
    rw [Ledger.after_append, Ledger.after_append, Ledger.after_additionDeeds]
    exact (ih _).trans (ihmake L)
  | addStopped hmake he ih => exact ih L
  | grew hcount hroom h ih =>
    rw [Ledger.after_cons, Ledger.after_append, Ledger.after_append, Ledger.after_growthDeeds]
    exact ih L
  | @releases n p a script J e h ih =>
    intro hscript rest hcalls
    rw [Ledger.after_append, Ledger.after_releaseDeeds]
    obtain ⟨hlost, hline⟩ := ih (L.surrender a) hscript rest ((L.calls_surrender a).trans hcalls)
    exact ⟨hlost.trans (L.lost_surrender a), hline⟩
  | @grows n p count script J K g u e hgrow hu h ihgrow ih =>
    intro hscript rest hcalls
    rw [Ledger.after_append]
    have hsame : L.Same (L.after J) := hgrow.enters L
    obtain ⟨hlost, hline⟩ := ih (L.after J) (hscript u) rest (hsame.calls.trans hcalls)
    exact ⟨hlost.trans (ihgrow L), hline⟩
  | growStopped hgrow hu he ih =>
    intro _ rest hcalls
    have hsame : L.Same (L.after _) := hgrow.enters L
    exact ⟨ih L, .inl (hsame.calls.trans hcalls)⟩
  | @gets n p script J K g u e hget hu h ihget ih =>
    intro hscript rest hcalls
    rw [Ledger.after_append]
    have hgot := hget.calls_of_get hcalls
    have hlost : (L.after J).lost = L.lost := ihget L (by rw [hcalls]; rfl)
    cases g with
    | ok a =>
      obtain rfl := Option.some.inj hu
      obtain ⟨he, hcalls', hlost'⟩ := h.of_returns (hscript.1 a) (L.after J)
      exact ⟨hlost'.trans hlost, .inr ⟨a, he, hcalls'.trans hgot⟩⟩
    | error reason =>
      obtain rfl := Option.some.inj hu
      obtain ⟨hlost', hline⟩ := ih (L.after J) (hscript.2.1 reason) rest hgot
      exact ⟨hlost'.trans hlost, hline⟩
    | panicked message =>
      obtain rfl := Option.some.inj hu
      obtain ⟨hlost', hline⟩ := ih (L.after J) (hscript.2.2 message) rest hgot
      exact ⟨hlost'.trans hlost, hline⟩
    | unfinished => exact absurd hu (Option.some_ne_none u).symm
  | @getStopped n p script J g e hget hu he ih =>
    intro _ rest hcalls
    have hgot := hget.calls_of_get hcalls
    refine ⟨ih L (by rw [hcalls]; rfl), .inl ?_⟩
    cases g with
    | ok a => exact absurd hu (Option.some_ne_none _)
    | _ => exact hgot

end

end Pool

end ConverterKit
