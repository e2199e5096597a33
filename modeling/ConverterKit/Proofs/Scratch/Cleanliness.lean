import ConverterKit.Proofs.Pool.Setback
import ConverterKit.Proofs.Scratch.AtRest
import ConverterKit.Proofs.Scratch.Stops
import Mathlib.Data.List.Induction

/-!
# What is left in idle buffers

A routine that ends well or reports an error leaves nothing in its buffer: the buffer is emptied
before it is given back. A routine that is stopped, by a panic that it does not catch, skips that,
so its buffer becomes idle with whatever was in it. There it stays until it is borrowed again, and
borrowing empties it first.

A panic may be caught by a routine further out, which then ends well itself. So how a routine ends
does not tell what the routines inside of it have left behind: one has to look at each of them.
Whatever is idle and not empty was left by one that was stopped with just that buffer in its hands;
and nobody who borrows the buffer ever sees what is in it.

## Main definitions

* `World.Leaves`: what an act leaves in idle buffers
* `World.LeftBy`: what the routines leave that were stopped among these
* `World.Clean`: a world in which nothing is left
* `World.LeftBehind`: a buffer that a routine of a run was stopped with, and left alone since

## Main results

* `World.leaves_withScratch`, `World.leaves_play`: what a routine leaves in idle buffers
* `World.StoppedWith.idle`: what a routine is stopped with becomes idle as it is
* `World.exists_of_borrow`: the buffer that is borrowed is empty
* `World.idle_iff_leftBehind`: just what was left behind is idle and not empty
* `World.stopped_leaves_rubbish`: a buffer that is left behind
-/

namespace ConverterKit

namespace Scratch

/-! ## Idle buffers -/

/-- New buffers of this kind are empty. -/
def Supply.Blank (s : Supply) : Prop :=
  ∀ number b, s.factory.outcome number = .ok b → b.bytes = []

theorem Supply.blank_withRoom (capacity : UInt64) : (Supply.withRoom capacity).Blank := by
  intro number b h
  have hending : ((Supply.withRoom capacity).script number).ending = .ok b := h
  rw [script] at hending
  split at hending
  · cases hending
  · obtain rfl := Ending.ok.inj hending
    rfl

namespace World

variable {κ H β ρ ε α : Type} {context : Nat} {left : Nat → Buffer → Prop}
  {s t u : Scene (World κ H) (Deed κ H)}

/-- The new buffers of every context are empty. -/
def Blank (w : World κ H) : Prop :=
  ∀ (i : Nat) (c : Context), w.contexts[i]? = some c → c.supply.Blank

/-- The idle buffers of a context. -/
def idle (w : World κ H) (i : Nat) : List Buffer :=
  match w.contexts[i]? with
  | some c => c.pool.idle.toList
  | none => []

section

variable {w w' : World κ H} {c : Context} {i : Nat}

theorem idle_of_some (hc : w.contexts[i]? = some c) : w.idle i = c.pool.idle.toList := by
  rw [idle, hc]

theorem idle_congr (h : w'.contexts = w.contexts) (i : Nat) : w'.idle i = w.idle i := by
  rw [idle, idle, h]

theorem Blank.congr (hblank : w.Blank) (h : w'.contexts = w.contexts) : w'.Blank := by
  intro i c hc
  rw [h] at hc
  exact hblank i c hc

end

/-! ## What an act leaves -/

/-- What is idle afterwards is empty or was idle before, unless it is among what may be left. -/
structure Leaves (left : Nat → Buffer → Prop) (s t : Scene (World κ H) (Deed κ H)) : Prop where
  /-- New buffers are still empty. -/
  blank : t.state.Blank
  /-- Where the idle buffers come from. -/
  idle : ∀ i, ∀ b ∈ t.state.idle i, b.bytes = [] ∨ b ∈ s.state.idle i ∨ left i b

namespace Leaves

/-- Nothing happens to the contexts. -/
theorem of_contexts (hblank : s.state.Blank) (hcontexts : t.state.contexts = s.state.contexts) :
    Leaves left s t where
  blank := hblank.congr hcontexts
  idle i _ hb := .inr (.inl (idle_congr hcontexts i ▸ hb))

theorem refl (hblank : s.state.Blank) : Leaves left s s := of_contexts hblank rfl

/-- More may be left, and what is empty need not be mentioned. -/
theorem imp {left' : Nat → Buffer → Prop} (h : Leaves left s t)
    (hleft : ∀ i b, left i b → b.bytes = [] ∨ left' i b) :
    Leaves left' s t where
  blank := h.blank
  idle i b hb := by
    rcases h.idle i b hb with hempty | hbefore | hb
    · exact .inl hempty
    · exact .inr (.inl hbefore)
    · exact (hleft i b hb).imp_right .inr

theorem trans (h : Leaves left s t) (h' : Leaves left t u) : Leaves left s u where
  blank := h'.blank
  idle i b hb := by
    rcases h'.idle i b hb with hempty | hb | hb
    · exact .inl hempty
    · exact h.idle i b hb
    · exact .inr (.inr hb)

/-- Acts that follow one another. -/
theorem bind {α β : Type} {a : Work κ H ε α} {f : α → Work κ H ε β} (ha : Leaves left s (a s).2)
    (hf : ∀ x t, a s = (.ok x, t) → t.state.Blank → Leaves left t (f x t).2) :
    Leaves left s ((a >>= f) s).2 := by
  rw [Act.bind_apply]
  rcases hrun : a s with ⟨e, t⟩
  rw [hrun] at ha
  cases e with
  | ok x => exact ha.trans (hf x t hrun ha.blank)
  | error | panicked | unfinished => exact ha

end Leaves

/-! ## What happens to the pool of one context -/

section

variable {c : Context} {K : List (Pool.Deed Empty Buffer)}

theorem Blank.afterDeeds (hblank : s.state.Blank) (hc : s.state.contexts[context]? = some c) :
    (afterDeeds context c K s).state.Blank := by
  intro i c' hc'
  rw [contexts_afterDeeds hc, Array.getElem?_setIfInBounds] at hc'
  split at hc'
  · next heq =>
    subst heq
    rw [if_pos (Array.getElem?_eq_some_iff.mp hc).1] at hc'
    obtain rfl := Option.some.inj hc'
    exact hblank context c hc
  · exact hblank i c' hc'

/-- The idle buffers of a context after something happened to the pool of one. -/
theorem idle_afterDeeds (hc : s.state.contexts[context]? = some c) (i : Nat) :
    (afterDeeds context c K s).state.idle i =
      if context = i then (c.pool.after K).idle.toList else s.state.idle i := by
  have hlt : context < s.state.contexts.size := (Array.getElem?_eq_some_iff.mp hc).1
  rw [idle, contexts_afterDeeds hc, Array.getElem?_setIfInBounds]
  by_cases heq : context = i
  · rw [if_pos heq, if_pos heq, if_pos (heq ▸ hlt)]
  · rw [if_neg heq, if_neg heq]
    rfl

/-- What the pool does leaves nothing in idle buffers, if the pool itself does not. -/
theorem leaves_onPool (hblank : s.state.Blank)
    {work : Pool.Factory Empty Buffer → Pool.Work Empty Buffer α}
    (hwork : ∀ supply : Supply, supply.Blank → ∀ p : Pool Buffer, ∃ K e,
      work supply.factory (.fresh p) = (e, Pool.record (.fresh p) K) ∧
        ∀ b ∈ (p.after K).idle.toList, b.bytes = [] ∨ b ∈ p.idle.toList) :
    Leaves left s (World.onPool context work s : Ending ε α × _).2 := by
  rcases hc : s.state.contexts[context]? with _ | c
  · rw [onPool_of_none hc]
    exact .refl hblank
  · obtain ⟨K, e, hrun, hidle⟩ := hwork c.supply (hblank context c hc) c.pool
    rw [onPool_eq _ hc hrun]
    refine ⟨hblank.afterDeeds hc, fun i b hb => ?_⟩
    rw [idle_afterDeeds hc] at hb
    split at hb
    · next heq =>
      subst heq
      rw [idle_of_some hc]
      exact (hidle b hb).imp_right .inl
    · exact .inr (.inl hb)

end

/-- Growing a pool adds empty buffers only. -/
theorem leaves_growScratch (hblank : s.state.Blank) (context : Nat) (count : UInt64) :
    Leaves left s (growScratch context count s : Ending ε Unit × _).2 := by
  refine leaves_onPool hblank fun supply hsupply p => ?_
  obtain ⟨K, e, hwork, hruns⟩ := Pool.exists_runs supply.factory depth (.grow count) (.fresh p)
  refine ⟨K, e, hwork, fun b hb => ?_⟩
  rcases (supply.aloof.exact_grow hruns).mem_idle hb with hb | ⟨number, hmade⟩
  · exact .inr hb
  · exact .inl (hsupply number b hmade)

/-- Checking a buffer out and emptying it only takes a buffer away. -/
theorem exists_checkout_clear (supply : Supply) (p : Pool Buffer) :
    ∃ K e, (do
        let g ← supply.factory.checkout depth
        g.amend Buffer.clear : Pool.Work Empty Buffer (Pool.Guard Buffer)) (.fresh p) =
          (e, Pool.record (.fresh p) K) ∧
      (∀ b ∈ (p.after K).idle.toList, b ∈ p.idle.toList) ∧
      ∀ g, e = .ok g → ∃ b : Buffer, g = ⟨some b.clear⟩ := by
  obtain ⟨K, e, hwork, hruns⟩ := Pool.exists_runs supply.factory depth .get (.fresh p)
  have hget : supply.factory.get depth (.fresh p) = (e, Pool.record (.fresh p) K) := hwork
  have hidle : ∀ b ∈ (p.after K).idle.toList, b ∈ p.idle.toList :=
    fun b hb => supply.aloof.mem_idle_get hruns hb
  cases e with
  | ok b =>
    have hcheckout : supply.factory.checkout depth (.fresh p) =
        (.ok ⟨some b⟩, Pool.record (.fresh p) K) := Act.bind_of_ok hget
    exact ⟨K, .ok ⟨some b.clear⟩, Act.bind_of_ok hcheckout, hidle,
      fun g hg => ⟨b, (Ending.ok.inj hg).symm⟩⟩
  | error r => exact r.elim
  | panicked m =>
    exact ⟨K, .panicked m, Act.bind_of_panicked (Act.bind_of_panicked hget), hidle, nofun⟩
  | unfinished =>
    exact ⟨K, .unfinished, Act.bind_of_unfinished (Act.bind_of_unfinished hget), hidle, nofun⟩

/-- Borrowing only takes a buffer away. -/
theorem leaves_borrow (hblank : s.state.Blank) (context : Nat) :
    Leaves left s (borrow context s : Ending ε Unit × _).2 := by
  have hpool : Leaves left s (World.onPool context (fun f => do
      let g ← f.checkout depth
      g.amend Buffer.clear) s : Ending ε (Pool.Guard Buffer) × _).2 := by
    refine leaves_onPool hblank fun supply _ p => ?_
    obtain ⟨K, e, hrun, hidle, -⟩ := exists_checkout_clear supply p
    exact ⟨K, e, hrun, fun b hb => .inr (hidle b hb)⟩
  refine hpool.bind fun g t _ ht => ?_
  rcases g with ⟨_ | b⟩
  · exact .refl ht
  · exact .of_contexts ht rfl

/-- **The buffer that is borrowed is empty**, whatever was left in it. -/
theorem exists_of_borrow (h : (borrow context : Work κ H ε Unit) s = (.ok (), t)) :
    ∃ b loans, t.state.loans = loan context b :: loans ∧ b.bytes = [] := by
  obtain ⟨g, u, hpool, hlent⟩ := Act.exists_of_bind_eq_ok h
  obtain ⟨b, rfl⟩ : ∃ b : Buffer, g = ⟨some b.clear⟩ := by
    rcases hc : s.state.contexts[context]? with _ | c
    · rw [onPool_of_none hc] at hpool
      cases hpool
    · obtain ⟨K, e, hrun, -, hcleared⟩ := exists_checkout_clear c.supply c.pool
      rw [onPool_eq _ hc hrun] at hpool
      refine hcleared g ?_
      cases e with
      | ok g' => rw [Ending.ok.inj (Prod.mk.inj hpool).1]
      | error r => exact r.elim
      | panicked | unfinished => cases hpool
  rw [← (Prod.mk.inj hlent).2]
  exact ⟨b.clear, u.state.loans, rfl, rfl⟩

/-- Dropping a guard makes at most the buffer idle that it has. -/
theorem exists_drop (g : Pool.Guard Buffer) (p : Pool Buffer) :
    ∃ K, (g.drop : Pool.Work Empty Buffer Unit) (.fresh p) =
        (.ok (), Pool.record (.fresh p) K) ∧
      ∀ b ∈ (p.after K).idle.toList, b ∈ p.idle.toList ∨ g = ⟨some b⟩ := by
  rcases g with ⟨_ | b⟩
  · exact ⟨[], rfl, fun b hb => .inl hb⟩
  · refine ⟨_, Pool.release_apply _ b, fun b' hb' => ?_⟩
    have hidle : (p.after (Pool.releaseDeeds b : List (Pool.Deed Empty Buffer))).idle =
        p.idle.push b := rfl
    rw [hidle, Pool.Idle.toList_push] at hb'
    rcases List.mem_append.mp hb' with hb' | hb'
    · exact .inl hb'
    · exact .inr (by rw [List.mem_singleton.mp hb'])

/-- The buffer that is given back is the one lent last, if its context exists. -/
theorem giveBack_cases (s : Scene (World κ H) (Deed κ H)) :
    (∃ m loans, (giveBack : Work κ H ε Unit) s =
      (.panicked m, ⟨{ s.state with loans }, s.journal⟩)) ∨
    ∃ context g loans c K, s.state.loans = ⟨context, g⟩ :: loans ∧
      s.state.contexts[context]? = some c ∧
      (∀ b ∈ (c.pool.after K).idle.toList, b ∈ c.pool.idle.toList ∨ g = ⟨some b⟩) ∧
      (giveBack : Work κ H ε Unit) s =
        let t := afterDeeds context c K ⟨{ s.state with loans }, s.journal⟩
        (.ok (), ⟨t.state, t.journal.push (.returned context g)⟩) := by
  rcases hs : s.state.loans with _ | ⟨⟨context, g⟩, loans⟩
  · refine .inl ⟨"no buffer on loan", [], ?_⟩
    simp only [giveBack, Act.bind_apply, Act.state_apply, hs, Act.panic_apply]
    rw [← hs]
  · rcases hc : s.state.contexts[context]? with _ | c
    · have hpanic := onPool_of_none (ε := ε)
        (s := ⟨⟨s.state.contexts, loans, s.state.session⟩, s.journal⟩) hc fun _ => g.drop
      refine .inl ⟨"no such context", loans, ?_⟩
      simp only [giveBack, Act.bind_apply, Act.state_apply, hs, Act.modify_apply, hpanic]
    · obtain ⟨K, hdrop, hidle⟩ := exists_drop g c.pool
      exact .inr ⟨context, g, loans, c, K, rfl, hc, hidle, giveBack_of_drop hs hc hdrop⟩

/-- Giving a buffer back leaves at most what is in it. -/
theorem leaves_giveBack (hblank : s.state.Blank) :
    Leaves (fun i b => ∃ loans, s.state.loans = loan i b :: loans) s
      (giveBack s : Ending ε Unit × _).2 := by
  rcases giveBack_cases (ε := ε) s with ⟨m, loans, hpanic⟩ |
    ⟨context, g, loans, c, K, hloans, hc, hidle, hgive⟩
  · rw [hpanic]
    exact .of_contexts hblank rfl
  · rw [hgive]
    let t : Scene (World κ H) (Deed κ H) := ⟨{ s.state with loans }, s.journal⟩
    refine ⟨Blank.afterDeeds (s := t) hblank hc, fun i b hb => ?_⟩
    rw [idle_afterDeeds (s := t) hc] at hb
    split at hb
    · next heq =>
      subst heq
      rw [idle_of_some hc]
      rcases hidle b hb with hb | rfl
      · exact .inr (.inl hb)
      · exact .inr (.inr ⟨loans, hloans⟩)
    · exact .inr (.inl hb)

/-! ## Routines -/

section

variable (callbacks : Resolution.Callbacks κ H) (nesting : Nat)

/-- One of these routines, run with a buffer of the context from these scenes, was stopped with the
buffer in its hands. -/
def LeftBy (calls : Nat → Routine κ H β ρ → Scene (World κ H) (Deed κ H) → Prop) (i : Nat)
    (b : Buffer) : Prop :=
  ∃ routine t, calls i routine t ∧ StoppedWith callbacks nesting i routine t b

end

section

variable {callbacks : Resolution.Callbacks κ H} {nesting : Nat} {routine : Routine κ H β ρ}
  {b : Buffer}

/-- More routines may have left it. -/
theorem Leaves.of_calls {calls calls' : Nat → Routine κ H β ρ → Scene (World κ H) (Deed κ H) → Prop}
    (h : Leaves (LeftBy callbacks nesting calls) s t)
    (hcalls : ∀ {i routine u}, calls i routine u → calls' i routine u) :
    Leaves (LeftBy callbacks nesting calls') s t :=
  h.imp fun _ _ ⟨routine, u, hu, hstopped⟩ => .inr ⟨routine, u, hcalls hu, hstopped⟩

/-- Changing a buffer on loan has nothing to do with the contexts. -/
theorem contexts_amend (f : Buffer → Buffer) (s : Scene (World κ H) (Deed κ H)) :
    (amend f s : Ending ε Unit × _).2.state.contexts = s.state.contexts := by
  rcases amend_cases (ε := ε) f s with ⟨m, hpanic⟩ | ⟨context, b, loans, -, hamend⟩
  · rw [hpanic]
  · rw [hamend]

/-- The resolver has nothing to do with the contexts. -/
theorem contexts_onSession (work : Resolution.Session.Work κ H α)
    (s : Scene (World κ H) (Deed κ H)) :
    (onSession work s : Ending ε α × _).2.state.contexts = s.state.contexts := by
  rcases hwork : work (.fresh s.state.session) with ⟨e, v⟩
  simp only [onSession, Act.within, hwork]

/-- Emptying the buffer leaves no more than what was done with it. -/
theorem Leaves.emptying {steps : Work κ H ConversionError ρ} (h : Leaves left s (steps s).2) :
    Leaves left s (World.emptying steps s).2 := by
  have hattempt : Leaves left s
      (Act.attempt steps s : Ending ConversionError (Except ConversionError ρ) × _).2 := by
    rwa [Act.scene_attempt]
  refine hattempt.bind fun result t _ ht =>
    Leaves.bind (.of_contexts ht (contexts_amend _ t)) fun _ u _ hu => ?_
  cases result <;> exact .refl hu

/-- The buffer that a routine has when it is through is of the context in which it was run. -/
theorem eq_context_of_borrow {i : Nat} {loans : List Loan}
    (hborrow : (borrow context : Work κ H ε Unit) s = (.ok (), t)) (hplaces : SamePlaces t u)
    (hu : u.state.loans = loan i b :: loans) : i = context := by
  obtain ⟨⟨g, hloans⟩, -⟩ := loans_of_borrow hborrow
  have hsame := hplaces.loans
  rw [hu, hloans] at hsame
  exact (List.cons.inj hsame).1

/-- **Running a routine with a buffer** leaves what is left inside of it, and its own buffer if it
is stopped. -/
theorem leaves_withScratch
    (hplay : ∀ s, s.state.Blank → Leaves (LeftBy callbacks nesting
      (Brings callbacks nesting routine s)) s (play callbacks nesting routine s).2)
    (hblank : s.state.Blank) (context : Nat) :
    Leaves (LeftBy callbacks nesting (Comprises callbacks nesting context routine s)) s
      (withScratch callbacks nesting context routine s).2 := by
  rw [withScratch, lend_eq]
  refine (leaves_borrow hblank context).bind fun _ t hborrow ht => ?_
  have hinside := (hplay t ht).emptying
  have hback := leaves_giveBack (ε := ConversionError) hinside.blank
  have hplaces : SamePlaces t (emptying (play callbacks nesting routine) t).2 :=
    (keepsPlaces_play callbacks nesting routine).emptying t
  rcases hrun : emptying (play callbacks nesting routine) t with ⟨e, u⟩
  rw [hrun] at hinside hback hplaces
  -- what is left of the buffer is what the routine was stopped with
  have hown : ∀ i b, (∃ loans, u.state.loans = loan i b :: loans) → b.bytes = [] ∨
      LeftBy callbacks nesting (Comprises callbacks nesting context routine s) i b := by
    rintro i b ⟨loans, hu⟩
    obtain rfl := eq_context_of_borrow hborrow hplaces hu
    rw [← show (emptying (play callbacks nesting routine) t).2 = u by rw [hrun]] at hu
    rcases emptying_cases hu with hempty | hstopped
    · exact .inl hempty
    · rw [emptying_of_stopped hstopped] at hu
      exact .inr ⟨routine, s, .itself, t, loans, hborrow, hstopped, hu⟩
  have hended := Leaves.bind (f := fun _ => Act.conclude e) (hback.imp hown)
    fun _ _ _ hv => .refl hv
  have hsettled : (Act.settle (emptying (play callbacks nesting routine)) :
      Work κ H ConversionError _) t = (.ok e, u) := by rw [Act.settle_apply, hrun]
  rw [Act.bind_of_ok hsettled]
  exact (hinside.of_calls fun h => .inside hborrow h).trans hended

/-- **What a routine leaves in idle buffers** is what those were stopped with that it runs. -/
theorem leaves_play (callbacks : Resolution.Callbacks κ H) (nesting : Nat)
    (routine : Routine κ H β ρ) (s : Scene (World κ H) (Deed κ H)) (hblank : s.state.Blank) :
    Leaves (LeftBy callbacks nesting (Brings callbacks nesting routine s)) s
      (play callbacks nesting routine s).2 := by
  induction routine generalizing s with
  | finish | fail | panic => exact .refl hblank
  | read next ih =>
    refine Leaves.bind (.of_contexts hblank ?_) fun b t hread ht =>
      (ih b t ht).of_calls (.read hread)
    rw [buffer_unchanged]
  | edit change next ih =>
    exact Leaves.bind (.of_contexts hblank (contexts_amend _ s)) fun _ t hedit ht =>
      (ih t ht).of_calls (.edited hedit)
  | serviceId name next ih =>
    refine Leaves.bind (.of_contexts hblank ?_) fun upshot t hresolve ht =>
      (ih upshot t ht).of_calls (.resolved hresolve)
    rw [Act.scene_rescue, contexts_onSession]
  | nest context inner next ihinner ihnext =>
    refine Leaves.bind ?_ fun upshot t hrun ht => (ihnext upshot t ht).of_calls (.ran hrun)
    rw [Act.scene_rescue, Act.scene_attempt]
    exact (leaves_withScratch ihinner hblank context).of_calls .running
  | grow context count next ih =>
    refine Leaves.bind ?_ fun upshot t hgrow ht => (ih upshot t ht).of_calls (.grown hgrow)
    rw [Act.scene_rescue]
    exact leaves_growScratch hblank context count
  | stats context next ih => exact (ih _ s hblank).of_calls .counted
  | consult program next ih =>
    refine Leaves.bind (.of_contexts hblank ?_) fun upshot t hconsult ht =>
      (ih upshot t ht).of_calls (.consulted hconsult)
    rw [Act.scene_rescue, contexts_onSession]

/-- **What a routine is stopped with becomes idle as it is.** -/
theorem StoppedWith.idle (h : StoppedWith callbacks nesting context routine s b) :
    (withScratch callbacks nesting context routine s).1.Stopped ∧
      b ∈ (withScratch callbacks nesting context routine s).2.state.idle context := by
  obtain ⟨t, loans, hborrow, hstopped, hloans⟩ := h
  have hplaces := keepsPlaces_play callbacks nesting routine t
  have hemptying := emptying_of_stopped hstopped
  rcases hrun : play callbacks nesting routine t with ⟨e, u⟩
  rw [hrun] at hstopped hloans hplaces hemptying
  obtain ⟨c, hc⟩ : ∃ c, u.state.contexts[context]? = some c := by
    obtain ⟨-, hsize, hlt⟩ := loans_of_borrow hborrow
    rw [← hsize, ← hplaces.size] at hlt
    exact ⟨_, Array.getElem?_eq_getElem hlt⟩
  have hgive := giveBack_of_drop (ε := ConversionError) hloans hc (Pool.release_apply _ b)
  rw [withScratch, lend_of_giveBack hborrow hemptying hgive]
  refine ⟨hstopped, ?_⟩
  rw [idle_afterDeeds (s := ⟨{ u.state with loans }, u.journal⟩) hc, if_pos rfl]
  have hidle : (c.pool.after (Pool.releaseDeeds b : List (Pool.Deed Empty Buffer))).idle =
      c.pool.idle.push b := rfl
  rw [hidle, Pool.Idle.toList_push]
  exact List.mem_append_right _ (List.mem_singleton_self b)

end

/-- After a use of a context new buffers are still empty. -/
theorem Blank.use (hblank : s.state.Blank) (callbacks : Resolution.Callbacks κ H) (nesting : Nat)
    (u : Use κ H β ρ) : (World.use callbacks nesting u s).2.state.Blank := by
  cases u with
  | scratch context routine =>
    exact (leaves_withScratch (leaves_play callbacks nesting routine) hblank context).blank
  | grow context count =>
    have hleaves : Leaves (fun _ _ => False) s
        (growScratch context count s : Ending Empty Unit × _).2 :=
      leaves_growScratch hblank context count
    exact hleaves.blank

/-- After a run new buffers are still empty. -/
theorem Blank.afterUses (hblank : s.state.Blank) (callbacks : Resolution.Callbacks κ H)
    (nesting : Nat) (uses : List (Use κ H β ρ)) :
    (World.afterUses callbacks nesting uses s).state.Blank := by
  induction uses generalizing s with
  | nil => exact hblank
  | cons u uses ih => exact ih (hblank.use callbacks nesting u)

/-- Wherever one comes to, new buffers are empty. -/
theorem Reached.blank {callbacks : Resolution.Callbacks κ H} {nesting : Nat}
    (h : Reached β ρ callbacks nesting s t) (hblank : s.state.Blank) : t.state.Blank := by
  induction h with
  | start => exact hblank
  | used u _ ih => exact ih.use callbacks nesting u
  | @began context t u _ hborrow ih =>
    have hleaves : Leaves (fun _ _ => False) t
        (borrow context t : Ending ConversionError Unit × _).2 := leaves_borrow ih context
    rw [hborrow] at hleaves
    exact hleaves.blank
  | @played t routine _ ih => exact (leaves_play callbacks nesting routine t ih).blank

/-! ## Opening contexts -/

/-- A world in which nothing is left in idle buffers, and new ones are empty. -/
structure Clean (w : World κ H) : Prop where
  /-- New buffers are empty. -/
  blank : w.Blank
  /-- The idle buffers are empty. -/
  idle : ∀ i, ∀ b ∈ w.idle i, b.bytes = []

/-- A context that is opened is clean. -/
theorem Clean.openContext {kind : Pool.Kind} {capacity initial : UInt64} (h : s.state.Clean)
    (ht : (World.openContext kind (.withRoom capacity) initial : Work κ H ε Unit) s =
      (.ok (), t)) : t.state.Clean := by
  obtain ⟨v, hv⟩ := build_of_openContext ht
  rw [openContext_of_ok hv] at ht
  rw [← (Prod.mk.inj ht).2]
  have hnew : ∀ b ∈ v.state.idle.toList, b.bytes = [] := by
    intro b hb
    have hgrown := (Pool.failures_exact (Supply.withRoom capacity).aloof 0
      (.fresh (.empty kind))).build kind initial
    rw [show (Supply.withRoom capacity).factory.build kind (0 + 1) initial = (.ok (), v) from hv]
      at hgrown
    rcases hgrown.mem_idle hb with hb | ⟨number, hmade⟩
    · rw [show (Pool.empty kind).idle = .empty kind from rfl, Pool.Idle.toList_empty] at hb
      cases hb
    · exact Supply.blank_withRoom capacity number b hmade
  refine ⟨fun i c hc => ?_, fun i b hb => ?_⟩
  · rw [Array.getElem?_push] at hc
    split at hc
    · obtain rfl := Option.some.inj hc
      exact Supply.blank_withRoom capacity
    · exact h.blank i c hc
  · rw [World.idle, Array.getElem?_push] at hb
    split at hb
    · next c hc =>
      split at hc
      · obtain rfl := Option.some.inj hc
        exact hnew b hb
      · exact h.idle i b (by rwa [idle_of_some hc])
    · cases hb

/-- **Contexts that are opened are clean.** -/
theorem Clean.openContexts {setups : List Setup} (h : s.state.Clean)
    (ht : (World.openContexts setups : Work κ H ε Unit) s = (.ok (), t)) : t.state.Clean := by
  induction setups generalizing s with
  | nil =>
    obtain ⟨-, rfl⟩ := Prod.mk.inj ht
    exact h
  | cons setup setups ih =>
    obtain ⟨⟨⟩, u, hu, ht⟩ := Act.exists_of_bind_eq_ok ht
    exact ih (h.openContext hu) ht

theorem clean_fresh (session : Resolution.Session κ H) : Clean ({ session } : World κ H) :=
  ⟨fun i c hc => absurd hc (by simp), fun i b hb => absurd hb (by simp [World.idle])⟩

/-! ## Runs -/

section

variable {callbacks : Resolution.Callbacks κ H} {nesting : Nat}
  {start : Scene (World κ H) (Deed κ H)} {uses : List (Use κ H β ρ)}

/-- A buffer that was left behind in this run: in the course of this use a routine was stopped with
it, and it has been idle ever since. -/
structure LeftBehind (callbacks : Resolution.Callbacks κ H) (nesting : Nat)
    (start : Scene (World κ H) (Deed κ H)) (uses : List (Use κ H β ρ)) (i : Nat) (b : Buffer)
    (before : List (Use κ H β ρ)) (context : Nat) (routine : Routine κ H β ρ)
    (later : List (Use κ H β ρ)) : Prop where
  /-- The use is part of the run. -/
  uses_eq : uses = before ++ .scratch context routine :: later
  /-- In the course of it a routine was stopped with the buffer. -/
  left : LeftBy callbacks nesting
    (Comprises callbacks nesting context routine (afterUses callbacks nesting before start)) i b
  /-- It has been idle ever since. -/
  since : ∀ more, more <+: later →
    b ∈ (afterUses callbacks nesting
      (before ++ .scratch context routine :: more) start).state.idle i

theorem afterUses_concat (u : Use κ H β ρ) :
    afterUses callbacks nesting (uses ++ [u]) start =
      (use callbacks nesting u (afterUses callbacks nesting uses start)).2 := by
  simp only [afterUses, List.foldl_append, List.foldl_cons, List.foldl_nil]

namespace LeftBehind

variable {i : Nat} {b : Buffer} {before later : List (Use κ H β ρ)} {routine : Routine κ H β ρ}

/-- What was left behind is idle. -/
theorem idle (h : LeftBehind callbacks nesting start uses i b before context routine later) :
    b ∈ (afterUses callbacks nesting uses start).state.idle i := by
  rw [h.uses_eq]
  exact h.since later (List.prefix_refl later)

/-- What was left behind and is still idle is left behind. -/
theorem concat (u : Use κ H β ρ)
    (h : LeftBehind callbacks nesting start uses i b before context routine later)
    (hidle : b ∈ (afterUses callbacks nesting (uses ++ [u]) start).state.idle i) :
    LeftBehind callbacks nesting start (uses ++ [u]) i b before context routine (later ++ [u]) where
  uses_eq := by rw [h.uses_eq, List.append_assoc, List.cons_append]
  left := h.left
  since more hmore := by
    rcases List.prefix_concat_iff.mp hmore with rfl | hmore
    · rwa [h.uses_eq, List.append_assoc, List.cons_append] at hidle
    · exact h.since more hmore

end LeftBehind

/-- **A run** from a clean world: an idle buffer is empty or was left behind. -/
theorem Clean.afterUses (h : start.state.Clean) (uses : List (Use κ H β ρ)) {i : Nat} {b : Buffer}
    (hb : b ∈ (World.afterUses callbacks nesting uses start).state.idle i) : b.bytes = [] ∨
      ∃ before context routine later,
        LeftBehind callbacks nesting start uses i b before context routine later := by
  induction uses using List.reverseRecOn with
  | nil => exact .inl (h.idle i b hb)
  | append_singleton uses u ih =>
    have hblank := h.blank.afterUses callbacks nesting uses
    -- what was idle before is settled by the run so far
    have hkept : b ∈ (World.afterUses callbacks nesting uses start).state.idle i →
        b.bytes = [] ∨ ∃ before context routine later,
          LeftBehind callbacks nesting start (uses ++ [u]) i b before context routine later := by
      intro hbefore
      rcases ih hbefore with hempty | ⟨before, context, routine, later, hleft⟩
      · exact .inl hempty
      · exact .inr ⟨before, context, routine, later ++ [u], hleft.concat u hb⟩
    have hnow := hb
    rw [afterUses_concat] at hnow
    cases u with
    | scratch context routine =>
      have hleaves := leaves_withScratch (leaves_play callbacks nesting routine) hblank context
      rcases hleaves.idle i b hnow with hempty | hbefore | hleft
      · exact .inl hempty
      · exact hkept hbefore
      · refine .inr ⟨uses, context, routine, [], rfl, hleft, fun more hmore => ?_⟩
        rwa [List.prefix_nil.mp hmore]
    | grow context count =>
      have hleaves : Leaves (fun _ _ => False) (World.afterUses callbacks nesting uses start)
          (growScratch context count _ : Ending Empty Unit × _).2 :=
        leaves_growScratch hblank context count
      rcases hleaves.idle i b hnow with hempty | hbefore | hfalse
      · exact .inl hempty
      · exact hkept hbefore
      · exact hfalse.elim

end

/-- **What is left in idle buffers.** Open contexts and do with them what you like. What is idle
then and not empty is just what was left behind by routines that were stopped, wherever their
panics were caught, and has not been touched since. At any time, inside of routines too, running a
routine leaves nothing but what routines were stopped with in the course of it; a routine that is
stopped does leave what is in its buffer; growing a pool leaves nothing; and a buffer that is
borrowed is empty. -/
theorem idle_iff_leftBehind (callbacks : Resolution.Callbacks κ H) (nesting : Nat)
    (session : Resolution.Session κ H) (setups : List Setup)
    {start : Scene (World κ H) (Deed κ H)}
    (hopened : (openContexts setups : Work κ H Empty Unit) (.fresh { session }) = (.ok (), start)) :
    (∀ (uses : List (Use κ H β ρ)) (i : Nat) (b : Buffer), b.bytes ≠ [] →
      (b ∈ (afterUses callbacks nesting uses start).state.idle i ↔
        ∃ before context routine later,
          LeftBehind callbacks nesting start uses i b before context routine later)) ∧
      ∀ s, Reached β ρ callbacks nesting start s →
        (∀ (context : Nat) (routine : Routine κ H β ρ),
          Leaves (LeftBy callbacks nesting (Comprises callbacks nesting context routine s)) s
            (withScratch callbacks nesting context routine s).2) ∧
        (∀ (context : Nat) (routine : Routine κ H β ρ) (b : Buffer),
          StoppedWith callbacks nesting context routine s b →
            (withScratch callbacks nesting context routine s).1.Stopped ∧
              b ∈ (withScratch callbacks nesting context routine s).2.state.idle context) ∧
        (∀ (context : Nat) (count : UInt64),
          Leaves (fun _ _ => False) s
            (growScratch context count s : Ending Empty Unit × _).2) ∧
        ∀ (context : Nat) t, (borrow context s : Ending ConversionError Unit × _) = (.ok (), t) →
          ∃ b loans, t.state.loans = loan context b :: loans ∧ b.bytes = [] := by
  have hclean : start.state.Clean := (clean_fresh session).openContexts hopened
  refine ⟨fun uses i b hdirty => ⟨fun hb => ?_, ?_⟩, fun s hs => ?_⟩
  · exact (hclean.afterUses uses hb).resolve_left hdirty
  · rintro ⟨before, context, routine, later, hleft⟩
    exact hleft.idle
  · have hblank : s.state.Blank := hs.blank hclean.blank
    exact ⟨fun context routine =>
        leaves_withScratch (leaves_play callbacks nesting routine) hblank context,
      fun _ _ _ h => h.idle, fun context count => leaves_growScratch hblank context count,
      fun _ _ => exists_of_borrow⟩

/-- A routine that panics with something in its buffer. -/
def smear : Routine Unit (Unit → Resolution.Directory) Unit (List UInt8) :=
  .edit (fun _ => [9]) (.panic "smeared")

/-- A routine that runs that one and does not care. -/
def shrug : Routine Unit (Unit → Resolution.Directory) Unit (List UInt8) :=
  .nest 0 smear fun _ => .finish []

/-- A context with one buffer and a pool of this kind, just opened. -/
def single (kind : Pool.Kind) : Ending Empty Unit ×
    Scene (World Unit (Unit → Resolution.Directory)) (Deed Unit (Unit → Resolution.Directory)) :=
  openContexts [⟨kind, 16, 1⟩] (.fresh { session := bare })

/-- A routine that catches the panic ends well, and yet a buffer is left behind inside of it. -/
theorem idle_iff_leftBehind_shrug :
    (single .queue).1 = .ok () ∧
      (withScratch (Resolution.directories Unit).toCallbacks 1 0 shrug (single .queue).2).1 =
        .ok [] ∧
      ∃ before context routine later,
        LeftBehind (Resolution.directories Unit).toCallbacks 1 (single .queue).2
          [.scratch 0 shrug] 0 ⟨1, 16, [9]⟩ before context routine later := by
  have hopened : (single .queue).1 = .ok () := by decide +kernel
  have hended : (withScratch (Resolution.directories Unit).toCallbacks 1 0 shrug
      (single .queue).2).1 = .ok [] := by decide +kernel
  have hidle : ⟨1, 16, [9]⟩ ∈ (afterUses (Resolution.directories Unit).toCallbacks 1
      [.scratch 0 shrug] (single .queue).2).state.idle 0 := by decide +kernel
  have hstart : single .queue = (.ok (), (single .queue).2) := by rw [← hopened]
  obtain ⟨hleft, -⟩ := idle_iff_leftBehind (β := Unit) (ρ := List UInt8)
    (Resolution.directories Unit).toCallbacks 1 bare [⟨.queue, 16, 1⟩] hstart
  exact ⟨hopened, hended, (hleft [.scratch 0 shrug] 0 _ (List.cons_ne_nil 9 [])).mp hidle⟩

/-- The routine that panics is run in it. -/
def smeared (kind : Pool.Kind) : Ending ConversionError (List UInt8) ×
    Scene (World Unit (Unit → Resolution.Directory)) (Deed Unit (Unit → Resolution.Directory)) :=
  withScratch (Resolution.directories Unit).toCallbacks 1 0 smear (single kind).2

/-- **A routine that panics leaves its buffer as it is**, in a pool of either kind. -/
theorem stopped_leaves_rubbish :
    (single .stack).1 = .ok () ∧ (smeared .stack).1 = .panicked "smeared" ∧
      (smeared .stack).2.state.idle 0 = [⟨0, 16, [9]⟩] ∧
      (single .queue).1 = .ok () ∧ (smeared .queue).1 = .panicked "smeared" ∧
      (smeared .queue).2.state.idle 0 = [⟨0, 16, [9]⟩] := by
  decide +kernel

end World

end Scratch

end ConverterKit
