import ConverterKit.Proofs.Scratch.Brackets
import ConverterKit.Proofs.Scratch.Lending

/-!
# The discipline of scratch buffers

Routines are run inside one another, write what they like, fail and panic, and pools are grown in
between. Through all of this buffers are got and given back in brackets, none is lost, and those on
loan at the same time are different ones.

What an act does to a world is said without regard to how the act ends: an act *keeps* a world if
the same instances are on loan afterwards and what was noted meanwhile is disciplined. Such acts can
be put together freely, so every routine keeps the world, and so does every run.

## Main definitions

* `World.Standing`: no buffer of a context is lost
* `World.Passed`: a world has gone on, with the same instances on loan
* `World.Keeps`: acts after which a world has gone on like this

## Main results

* `World.Standing.lend`: running a routine with a buffer is one bracket
* `World.Keeps.lend`: it keeps the world if the routine does
* `World.keeps_play`: whatever a routine does keeps the world
-/

namespace ConverterKit

namespace Scratch

open Pool (Kept occurrences)

/-- The factory of buffers never uses the pool. -/
theorem Supply.aloof (s : Supply) : s.factory.Aloof := by
  intro number
  cases s with
  | holding bytes => trivial
  | withRoom capacity =>
    show (Supply.script (.withRoom capacity) number).Aloof
    rw [Supply.script]
    split <;> trivial

/-- The factory of buffers that can be made numbers them. -/
theorem Supply.Roomy.numbers {s : Supply} (h : s.Roomy) : s.factory.Numbers Buffer.number := by
  intro number
  obtain ⟨b, hb⟩ := h number
  refine ⟨b, hb, ?_⟩
  cases s with
  | holding bytes => exact (congrArg Buffer.number (Pool.Script.make.inj hb)).symm
  | withRoom capacity =>
    simp only [script] at hb
    split at hb
    · exact absurd hb nofun
    · exact (congrArg Buffer.number (Pool.Script.make.inj hb)).symm

namespace World

variable {κ H β ρ ε α : Type} {context : Nat} {held held' : List (Nat × Nat)}
  {s t u : Scene (World κ H) (Deed κ H)}

/-! ## Nothing is lost -/

/-- The buffers of every context are those that are idle and those among the instances held, and
the journal tells its pool. -/
structure Standing (held : List (Nat × Nat)) (s : Scene (World κ H) (Deed κ H)) : Prop where
  /-- The pool of every context is kept. -/
  kept : ∀ i c, s.state.contexts[i]? = some c → c.supply.Roomy ∧
    Kept Buffer.number (outOf i held) (poolDeeds i s.journal.toList) c.pool
  /-- Nothing has happened to the pools of contexts that do not exist. -/
  unused : ∀ i, s.state.contexts[i]? = none → poolDeeds i s.journal.toList = []
  /-- What is held belongs to contexts that exist. -/
  known : ∀ k ∈ held, k.1 < s.state.contexts.size
  /-- No instance is held twice. -/
  distinct : held.Nodup

/-- What matters are the contexts and what the journal tells of their pools. -/
theorem Standing.congr (h : Standing held s) (hcontexts : t.state.contexts = s.state.contexts)
    (hdeeds : ∀ i, poolDeeds i t.journal.toList = poolDeeds i s.journal.toList) :
    Standing held t where
  kept i c hc := by
    rw [hcontexts] at hc
    rw [hdeeds]
    exact h.kept i c hc
  unused i hi := by
    rw [hcontexts] at hi
    rw [hdeeds]
    exact h.unused i hi
  known k hk := by
    rw [hcontexts]
    exact h.known k hk
  distinct := h.distinct

/-! ## Deeds of one pool -/

@[simp] theorem loans_setPool (i : Nat) (p : Pool Buffer) (w : World κ H) :
    (setPool i p w).loans = w.loans := by
  rw [setPool]
  split <;> rfl

@[simp] theorem size_setPool (i : Nat) (p : Pool Buffer) (w : World κ H) :
    (setPool i p w).contexts.size = w.contexts.size := by
  rw [setPool]
  split
  · exact Array.size_setIfInBounds
  · rfl

/-- The scene after some deeds of the pool of a context. -/
def afterDeeds (i : Nat) (c : Context) (K : List (Pool.Deed Empty Buffer))
    (s : Scene (World κ H) (Deed κ H)) : Scene (World κ H) (Deed κ H) :=
  ⟨setPool i (c.pool.after K) s.state, s.journal ++ (K.map (.pool i)).toArray⟩

section

variable {c : Context} {K : List (Pool.Deed Empty Buffer)}

theorem contexts_afterDeeds (hc : s.state.contexts[context]? = some c) :
    (afterDeeds context c K s).state.contexts =
      s.state.contexts.setIfInBounds context ⟨c.supply, c.pool.after K⟩ := by
  simp only [afterDeeds, setPool, hc]

theorem size_afterDeeds :
    (afterDeeds context c K s).state.contexts.size = s.state.contexts.size :=
  size_setPool ..

theorem loans_afterDeeds : (afterDeeds context c K s).state.loans = s.state.loans :=
  loans_setPool ..

theorem journal_afterDeeds : (afterDeeds context c K s).journal.toList =
    s.journal.toList ++ K.map (.pool context) := by
  rw [afterDeeds, Array.toList_append]

/-- The pool of a context does something with its factory. -/
theorem onPool_eq (work : Pool.Factory Empty Buffer → Pool.Work Empty Buffer α)
    (hc : s.state.contexts[context]? = some c) {e : Ending Empty α}
    (hwork : work c.supply.factory (.fresh c.pool) = (e, Pool.record (.fresh c.pool) K)) :
    (onPool context work : Work κ H ε α) s =
      (e.mapError Empty.elim, afterDeeds context c K s) := by
  simp only [onPool, Act.bind_apply, Act.state_apply, hc, Act.within, hwork, Pool.state_record,
    Pool.journal_record, afterDeeds]
  simp [Scene.fresh]

theorem onPool_of_none (hc : s.state.contexts[context]? = none)
    (work : Pool.Factory Empty Buffer → Pool.Work Empty Buffer α) :
    (onPool context work : Work κ H ε α) s = (.panicked "no such context", s) := by
  simp only [onPool, Act.bind_apply, Act.state_apply, hc, Act.panic_apply]

/-- Giving a buffer back drops its guard and notes that. -/
theorem giveBack_of_drop {g : Pool.Guard Buffer} {loans : List Loan}
    (hs : s.state.loans = ⟨context, g⟩ :: loans) (hc : s.state.contexts[context]? = some c)
    (hdrop : (g.drop : Pool.Work Empty Buffer Unit) (.fresh c.pool) =
      (.ok (), Pool.record (.fresh c.pool) K)) :
    (World.giveBack : Work κ H ε Unit) s =
      let t := World.afterDeeds context c K ⟨{ s.state with loans }, s.journal⟩
      (.ok (), ⟨t.state, t.journal.push (.returned context g)⟩) := by
  have hpool := onPool_eq (ε := ε) (s := ⟨⟨s.state.contexts, loans, s.state.session⟩, s.journal⟩)
    (fun _ => g.drop) hc hdrop
  simp only [World.giveBack, Act.bind_apply, Act.state_apply, hs, Act.modify_apply, hpool,
    Ending.mapError, Act.note_apply]

/-- Something happens to the pool of one context, and other instances of it may then be held. -/
theorem Standing.afterDeeds (h : Standing held s) (hc : s.state.contexts[context]? = some c)
    (hkept : Kept Buffer.number (outOf context held') (poolDeeds context s.journal.toList ++ K)
      (c.pool.after K))
    (hothers : ∀ i, i ≠ context → outOf i held' = outOf i held)
    (hknown : ∀ k ∈ held', k.1 < s.state.contexts.size) (hdistinct : held'.Nodup) :
    Standing held' (afterDeeds context c K s) where
  kept i c' hc' := by
    rw [contexts_afterDeeds hc, Array.getElem?_setIfInBounds] at hc'
    rw [journal_afterDeeds, poolDeeds_append]
    split at hc'
    · next heq =>
      subst heq
      rw [if_pos (Array.getElem?_eq_some_iff.mp hc).1] at hc'
      obtain rfl := Option.some.inj hc'
      rw [poolDeeds_map_self]
      exact ⟨(h.kept context c hc).1, hkept⟩
    · next hne =>
      rw [poolDeeds_map_of_ne (Ne.symm hne), List.append_nil, hothers i (Ne.symm hne)]
      exact h.kept i c' hc'
  unused i hi := by
    rw [Array.getElem?_eq_none_iff, size_afterDeeds] at hi
    have hne : i ≠ context := by
      have hlt : context < s.state.contexts.size := (Array.getElem?_eq_some_iff.mp hc).1
      omega
    rw [journal_afterDeeds, poolDeeds_append, poolDeeds_map_of_ne hne, List.append_nil]
    exact h.unused i (Array.getElem?_eq_none_iff.mpr hi)
  known k hk := by
    rw [size_afterDeeds]
    exact hknown k hk
  distinct := hdistinct

end

/-! ## Acts that keep a world -/

/-- A world has gone on, with the same instances on loan, and what was noted is disciplined. -/
structure Passed (held : List (Nat × Nat)) (s t : Scene (World κ H) (Deed κ H)) : Prop where
  /-- No buffer is lost. -/
  standing : Standing held t
  /-- The same instances are on loan. -/
  onLoan : OnLoan held t.state.loans
  /-- There are as many contexts. -/
  size : t.state.contexts.size = s.state.contexts.size
  /-- What was noted is disciplined. -/
  journal : ∃ K, t.journal.toList = s.journal.toList ++ K ∧ Disciplined K

theorem Passed.refl (h : Standing held s) (hloans : OnLoan held s.state.loans) :
    Passed held s s :=
  ⟨h, hloans, rfl, [], (List.append_nil _).symm, .nil⟩

theorem Passed.trans (h : Passed held s t) (h' : Passed held t u) : Passed held s u := by
  obtain ⟨K, hK, hdisciplined⟩ := h.journal
  obtain ⟨K', hK', hdisciplined'⟩ := h'.journal
  refine ⟨h'.standing, h'.onLoan, h'.size.trans h.size, K ++ K', ?_,
    hdisciplined.append hdisciplined'⟩
  rw [hK', hK, List.append_assoc]

/-- However the act ends, the same instances are on loan afterwards and what was noted meanwhile is
disciplined. -/
def Keeps (work : Work κ H ε α) : Prop :=
  ∀ held s, Standing held s → OnLoan held s.state.loans → Passed held s (work s).2

namespace Keeps

/-- An act that leaves the scene as it was keeps the world. -/
theorem of_unchanged {work : Work κ H ε α} (h : ∀ s, (work s).2 = s) : Keeps work := by
  intro held s hstanding hloans
  rw [h]
  exact .refl hstanding hloans

/-- **Acts that keep the world can be put together**, whichever way the first one ends. -/
theorem bind {a : Work κ H ε α} {f : α → Work κ H ε β} (ha : Keeps a) (hf : ∀ x, Keeps (f x)) :
    Keeps (a >>= f) := by
  intro held s hstanding hloans
  have hfirst := ha held s hstanding hloans
  rw [Act.bind_apply]
  rcases hrun : a s with ⟨e, t⟩
  rw [hrun] at hfirst
  cases e with
  | ok x => exact hfirst.trans (hf x held t hfirst.standing hfirst.onLoan)
  | error | panicked | unfinished => exact hfirst

theorem pure (x : α) : Keeps (Pure.pure x : Work κ H ε α) := of_unchanged fun _ => rfl

theorem attempt {ε' : Type} {a : Work κ H ε α} (ha : Keeps a) :
    Keeps (Act.attempt a : Work κ H ε' (Except ε α)) := by
  intro held s hstanding hloans
  rw [Act.scene_attempt]
  exact ha held s hstanding hloans

theorem rescue {a : Work κ H ε α} (ha : Keeps a) : Keeps (Act.rescue a) := by
  intro held s hstanding hloans
  rw [Act.scene_rescue]
  exact ha held s hstanding hloans

theorem settle {ε' : Type} {a : Work κ H ε α} (ha : Keeps a) :
    Keeps (Act.settle a : Work κ H ε' (Ending ε α)) := ha

theorem ofExcept (r : Except ε α) : Keeps (Act.ofExcept r : Work κ H ε α) :=
  of_unchanged fun _ => by cases r <;> rfl

theorem buffer : Keeps (World.buffer : Work κ H ε Buffer) := of_unchanged buffer_unchanged

/-- Changing what is in the buffer leaves it the instance that it is. -/
theorem amend {f : Buffer → Buffer} (hf : ∀ b, (f b).number = b.number) :
    Keeps (World.amend f : Work κ H ε Unit) := by
  intro held s hstanding hloans
  rcases amend_cases (ε := ε) f s with ⟨m, hpanic⟩ | ⟨context, b, rest, hs, hamend⟩
  · rw [hpanic]
    exact .refl hstanding hloans
  · rw [hamend]
    refine ⟨hstanding.congr rfl fun _ => rfl, ?_, rfl, [], (List.append_nil _).symm, .nil⟩
    rw [OnLoan, hs] at hloans
    rw [OnLoan, ← hloans]
    simp [Loan.instance?, hf]

/-- Emptying the buffer after a routine keeps the world if the routine does. -/
theorem emptying {steps : Work κ H ConversionError ρ} (hsteps : Keeps steps) :
    Keeps (World.emptying steps) :=
  hsteps.attempt.bind fun result => (Keeps.amend Buffer.number_clear).bind fun _ =>
    Keeps.ofExcept result

/-- The resolver has nothing to do with buffers. -/
theorem onSession (work : Resolution.Session.Work κ H α) :
    Keeps (World.onSession work : Work κ H ε α) := by
  intro held s hstanding hloans
  rcases hwork : work (.fresh s.state.session) with ⟨e, v⟩
  have hrun : ((World.onSession work : Work κ H ε α) s).2 =
      ⟨{ s.state with session := v.state }, s.journal ++ v.journal.map .resolution⟩ := by
    simp only [World.onSession, Act.within, hwork]
  rw [hrun]
  refine ⟨hstanding.congr rfl fun i => ?_, hloans, rfl, v.journal.toList.map .resolution, ?_, ?_⟩
  · simp only [Array.toList_append, Array.toList_map, poolDeeds_append, poolDeeds_map_resolution,
      List.append_nil]
  · simp only [Array.toList_append, Array.toList_map]
  · exact .of_quiet (by simp [Deed.Quiet])

/-- **Growing a pool** gets and releases nothing. -/
theorem growScratch (context : Nat) (count : UInt64) :
    Keeps (World.growScratch context count : Work κ H ε Unit) := by
  intro held s hstanding hloans
  rcases hc : s.state.contexts[context]? with _ | c
  · rw [World.growScratch, onPool_of_none hc]
    exact .refl hstanding hloans
  · obtain ⟨hroomy, hkept⟩ := hstanding.kept context c hc
    obtain ⟨K, e, hwork, hruns⟩ :=
      Pool.exists_runs c.supply.factory depth (.grow count) (.fresh c.pool)
    obtain ⟨-, hquiet, hgrown⟩ := hkept.grow hroomy.numbers hruns
    rw [World.growScratch, onPool_eq _ hc hwork]
    refine ⟨hstanding.afterDeeds hc hgrown (fun _ _ => rfl) hstanding.known hstanding.distinct, ?_,
      size_afterDeeds, K.map (.pool context), journal_afterDeeds,
      .of_quiet (quiet_map_pool hquiet)⟩
    rw [loans_afterDeeds]
    exact hloans

end Keeps

/-! ## One bracket -/

/-- A buffer is checked out and emptied. -/
theorem exists_checkout {supply : Supply} {p : Pool Buffer} {out : List Nat}
    {J : List (Pool.Deed Empty Buffer)} (hroomy : supply.Roomy)
    (h : Kept Buffer.number out J p) :
    ∃ (b : Buffer) (G : List (Pool.Deed Empty Buffer)), (∀ d ∈ G, d.Quiet) ∧
      Kept Buffer.number (b.number :: out) (J ++ (G ++ [.getEnded (.ok b)]))
        (p.after (G ++ [.getEnded (.ok b)])) ∧
      (do
        let g ← supply.factory.checkout depth
        g.amend Buffer.clear : Pool.Work Empty Buffer (Pool.Guard Buffer)) (.fresh p) =
          (.ok ⟨some b.clear⟩, Pool.record (.fresh p) (G ++ [.getEnded (.ok b)])) := by
  obtain ⟨K, e, hget, hruns⟩ := Pool.exists_runs supply.factory depth .get (.fresh p)
  obtain ⟨b, G, rfl, rfl, hquiet, hkept⟩ := h.get hroomy.numbers hruns
  have hcheckout : supply.factory.checkout depth (.fresh p) =
      (.ok ⟨some b⟩, Pool.record (.fresh p) (G ++ [.getEnded (.ok b)])) := Act.bind_of_ok hget
  exact ⟨b, G, hquiet, hkept, Act.bind_of_ok hcheckout⟩

/-- **Borrowing** gets a buffer that is not on loan and lends it, empty. -/
theorem Standing.borrow {c : Context} (h : Standing held s) (hloans : OnLoan held s.state.loans)
    (hc : s.state.contexts[context]? = some c) :
    ∃ (b : Buffer) (G : List (Pool.Deed Empty Buffer)) (t : Scene (World κ H) (Deed κ H)),
      (World.borrow context : Work κ H ε Unit) s = (.ok (), t) ∧ (∀ d ∈ G, d.Quiet) ∧
      Distinct context b s.state.loans ∧
      t.journal.toList = s.journal.toList ++ (G.map (.pool context) ++
        [.pool context (.getEnded (.ok b)), .lent context b.clear s.state.loans]) ∧
      Standing ((context, b.number) :: held) t ∧
      OnLoan ((context, b.number) :: held) t.state.loans ∧
      t.state.contexts.size = s.state.contexts.size := by
  obtain ⟨hroomy, hkept⟩ := h.kept context c hc
  obtain ⟨b, G, hquiet, hgot, hcheckout⟩ := exists_checkout hroomy hkept
  have hdistinct : ((context, b.number) :: held).Nodup := by
    refine List.nodup_cons.mpr ⟨fun hmem => ?_, h.distinct⟩
    exact (List.nodup_cons.mp hgot.numbered.nodup).1 (mem_outOf.mpr hmem)
  have hknown : ∀ k ∈ (context, b.number) :: held, k.1 < s.state.contexts.size := by
    intro k hk
    rcases List.mem_cons.mp hk with rfl | hk
    · exact (Array.getElem?_eq_some_iff.mp hc).1
    · exact h.known k hk
  have hstanding := h.afterDeeds hc (by rwa [outOf_cons_self])
    (fun i hi => outOf_cons_of_ne hi b.number held) hknown hdistinct
  have hget := onPool_eq (ε := ε) (fun f => do
    let g ← f.checkout depth
    g.amend Buffer.clear) hc hcheckout
  set u := World.afterDeeds context c (G ++ [.getEnded (.ok b)]) s with hu
  have hunlent : u.state.loans = s.state.loans := loans_afterDeeds
  refine ⟨b, G, ⟨{ u.state with loans := ⟨context, ⟨some b.clear⟩⟩ :: u.state.loans },
    u.journal.push (.lent context b.clear u.state.loans)⟩, Act.bind_of_ok hget, hquiet,
    ⟨held, hloans, hdistinct⟩, ?_, hstanding.congr rfl fun i => ?_, ?_, size_afterDeeds⟩
  · rw [hunlent, hu, Array.toList_push, journal_afterDeeds]
    simp
  · simp [poolDeeds, Deed.pool?]
  · rw [hunlent]
    exact congrArg (some (context, b.number) :: ·) hloans

/-- **Giving back** releases the buffer lent last. -/
theorem Standing.giveBack {number : Nat} (h : Standing ((context, number) :: held) s)
    (hloans : OnLoan ((context, number) :: held) s.state.loans) :
    ∃ (b : Buffer) (t : Scene (World κ H) (Deed κ H)),
      (World.giveBack : Work κ H ε Unit) s = (.ok (), t) ∧ b.number = number ∧
      t.journal.toList = s.journal.toList ++ ((Pool.releaseDeeds b).map (.pool context) ++
        [.returned context ⟨some b⟩]) ∧
      Standing held t ∧ OnLoan held t.state.loans ∧
      t.state.contexts.size = s.state.contexts.size := by
  obtain ⟨b, rest, hs, rfl, hrest⟩ := hloans.cons
  obtain ⟨c, hc⟩ : ∃ c, s.state.contexts[context]? = some c :=
    ⟨_, Array.getElem?_eq_getElem (h.known _ List.mem_cons_self)⟩
  obtain ⟨-, hkept⟩ := h.kept context c hc
  rw [outOf_cons_self] at hkept
  let s₀ : Scene (World κ H) (Deed κ H) := ⟨{ s.state with loans := rest }, s.journal⟩
  have hpopped : Standing ((context, b.number) :: held) s₀ := h.congr rfl fun _ => rfl
  have hstanding := hpopped.afterDeeds hc hkept.release
    (fun i hi => (outOf_cons_of_ne hi b.number held).symm)
    (fun k hk => h.known k (List.mem_cons_of_mem _ hk)) (List.nodup_cons.mp h.distinct).2
  have hgive := giveBack_of_drop (ε := ε) (g := ⟨some b⟩) hs hc (Pool.release_apply _ b)
  set u := World.afterDeeds context c (Pool.releaseDeeds b) s₀ with hu
  refine ⟨b, ⟨u.state, u.journal.push (.returned context ⟨some b⟩)⟩, hgive, rfl, ?_,
    hstanding.congr rfl fun i => ?_, ?_, size_afterDeeds⟩
  · rw [hu, Array.toList_push, journal_afterDeeds, List.append_assoc]
  · simp [poolDeeds, Deed.pool?]
  · rw [hu, loans_afterDeeds]
    exact hrest

/-- **Running a routine with a buffer is one bracket**, whatever the routine does if it keeps the
world, and however it ends. -/
theorem Standing.lend {c : Context} {steps : Work κ H ConversionError ρ} (hsteps : Keeps steps)
    (h : Standing held s) (hloans : OnLoan held s.state.loans)
    (hc : s.state.contexts[context]? = some c) :
    Passed held s (World.lend context steps s).2 ∧ ∃ K,
      (World.lend context steps s).2.journal.toList = s.journal.toList ++ K ∧
        Lending context K := by
  obtain ⟨b, G, t, ht, hquiet, hdistinct, hjournal, hstanding, honLoan, hsize⟩ :=
    h.borrow (ε := ConversionError) hloans hc
  have hpassed := hsteps.emptying _ t hstanding honLoan
  rcases hrun : World.emptying steps t with ⟨e, u⟩
  rw [hrun] at hpassed
  obtain ⟨inner, hinner, hdisciplined⟩ := hpassed.journal
  obtain ⟨b', v, hv, hsame, hreturned, hstanding', honLoan', hsize'⟩ :=
    hpassed.standing.giveBack (ε := ConversionError) hpassed.onLoan
  have hlend := lend_of_giveBack ht hrun hv
  have hlending : Lending context (G.map (.pool context) ++ (.pool context (.getEnded (.ok b)) ::
      .lent context b.clear s.state.loans :: (inner ++ ((Pool.releaseDeeds b').map
        (.pool context) ++ [.returned context ⟨some b'⟩])))) :=
    .intro hquiet hdistinct hsame hdisciplined
  have hnoted : v.journal.toList = s.journal.toList ++ (G.map (.pool context) ++
      (.pool context (.getEnded (.ok b)) :: .lent context b.clear s.state.loans ::
        (inner ++ ((Pool.releaseDeeds b').map (.pool context) ++
          [.returned context ⟨some b'⟩])))) := by
    rw [hreturned, hinner, hjournal]
    simp only [List.append_assoc, List.cons_append, List.nil_append]
  rw [hlend]
  exact ⟨⟨hstanding', honLoan', hsize'.trans (hpassed.size.trans hsize), _, hnoted,
    hlending.disciplined⟩, _, hnoted, hlending⟩

/-- **Running a routine with a buffer keeps the world** if the routine does. -/
theorem Keeps.lend {steps : Work κ H ConversionError ρ} (hsteps : Keeps steps) (context : Nat) :
    Keeps (World.lend context steps) := by
  intro held s hstanding hloans
  rcases hc : s.state.contexts[context]? with _ | c
  · have hborrow : (World.borrow context : Work κ H ConversionError Unit) s =
        (.panicked "no such context", s) := Act.bind_of_panicked (onPool_of_none hc _)
    rw [World.lend, Act.bind_of_panicked hborrow]
    exact .refl hstanding hloans
  · exact (hstanding.lend hsteps hloans hc).1

/-! ## Routines -/

/-- **Whatever a routine does keeps the world.** -/
theorem keeps_play (callbacks : Resolution.Callbacks κ H) (nesting : Nat)
    (routine : Routine κ H β ρ) : Keeps (play callbacks nesting routine) := by
  induction routine with
  | finish r => exact .pure r
  | fail e => exact .of_unchanged fun _ => rfl
  | panic m => exact .of_unchanged fun _ => rfl
  | read next ih => exact Keeps.buffer.bind ih
  | edit change next ih => exact (Keeps.amend (Buffer.number_edit change)).bind fun _ => ih
  | serviceId name next ih => exact (Keeps.onSession _).rescue.bind ih
  | nest context inner next ihinner ihnext =>
    exact (ihinner.lend context).attempt.rescue.bind ihnext
  | grow context count next ih => exact (Keeps.growScratch context count).rescue.bind ih
  | stats context next ih =>
    exact (Keeps.of_unchanged fun _ => rfl : Keeps (Act.state : Work κ H _ _)).bind fun w =>
      ih (w.stats context)
  | consult program next ih => exact (Keeps.onSession _).rescue.bind ih

end World

end Scratch

end ConverterKit
