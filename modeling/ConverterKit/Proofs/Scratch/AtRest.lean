import ConverterKit.Proofs.Resolution.Directories
import ConverterKit.Proofs.Scratch.Discipline

/-!
# Contexts at rest

Open any number of contexts whose first buffers can be made, run routines in them and grow their
pools as you like. Between two such uses no routine is under way, and then everything is in order:
nothing is on loan, every buffer ever made is back in its pool, and the counters of each context say
how many routines were run in it, nested ones included. The whole journal is disciplined, so every
one of these routines began with an empty buffer that no other routine under way had.

## Main definitions

* `World.Setup`, `World.openContexts`: contexts and how they are opened
* `Use`, `World.afterUses`: what is done with contexts
* `World.Reached`: what one comes to by using contexts, inside of routines too
* `World.InOrder`: how things stand when no routine is under way

## Main results

* `World.Standing.openContexts`: contexts can be opened
* `World.Standing.afterUses`: whatever is done with them keeps the world
* `World.Standing.of_reached`: no buffer is ever lost
* `World.scratch_disciplined`: contexts can be opened, and are in order after every run
-/

namespace ConverterKit

namespace Scratch

open Pool (AllBack)

variable {κ H β ρ ε : Type}

/-- Something that is done with a context when no routine is under way. -/
inductive Use (κ H β ρ : Type) where
  /-- A routine is run with a buffer. -/
  | scratch (context : Nat) (routine : Routine κ H β ρ)
  /-- The pool of the buffers is grown. -/
  | grow (context : Nat) (count : UInt64)

namespace World

variable {s t : Scene (World κ H) (Deed κ H)}

/-! ## Opening contexts -/

/-- How a context is opened. -/
structure Setup where
  /-- The kind of its pool. -/
  kind : Pool.Kind
  /-- The room in its buffers. -/
  capacity : UInt64
  /-- The number of its first buffers. -/
  initial : UInt64

/-- Its buffers can be made, and a stack can reserve the room for the first of them. -/
def Setup.Possible (setup : Setup) : Prop :=
  setup.capacity.toNat < 2 ^ 63 ∧
    (setup.kind = .stack → setup.initial.toNat * Supply.bufferSize ≤ Pool.reservable)

/-- Open contexts one after the other. -/
def openContexts : List Setup → Work κ H ε Unit
  | [] => return ()
  | setup :: rest => do
    openContext setup.kind (.withRoom setup.capacity) setup.initial
    openContexts rest

/-- The pool of a possible context can be filled. -/
theorem Setup.Possible.exists_fill {setup : Setup} (h : setup.Possible) :
    ∃ K, (Supply.withRoom setup.capacity).factory.fill depth setup.initial
        (.fresh (.empty setup.kind)) = (.ok (), Pool.record (.fresh (.empty setup.kind)) K) ∧
      (∀ d ∈ K, d.Quiet) ∧
      Pool.Kept Buffer.number [] K ((Pool.empty setup.kind).after K) := by
  obtain ⟨J, e, hruns, hbuild⟩ := Pool.exists_opening
    (Supply.withRoom setup.capacity).factory setup.kind depth setup.initial
  obtain ⟨hok, hquiet, hkept⟩ := (Pool.Kept.empty Buffer.number setup.kind).grow
    (Supply.roomy_withRoom h.1).numbers hruns
  obtain rfl := hok (Pool.hasRoom_empty_iff.mpr h.2)
  refine ⟨_, hbuild, ?_, ?_⟩
  · simpa [Pool.readyDeeds, Pool.Deed.Quiet, or_imp, forall_and] using hquiet
  · have hready := hkept.ready setup.kind setup.initial
    rw [Pool.after_append]
    exact hready

/-- **A possible context can be opened**, and nothing is lost. -/
theorem Standing.openContext {setup : Setup} (hsetup : setup.Possible) (h : Standing [] s) :
    ∃ t, (World.openContext setup.kind (.withRoom setup.capacity) setup.initial :
        Work κ H ε Unit) s = (.ok (), t) ∧
      Standing [] t ∧ t.state.loans = s.state.loans ∧
      t.state.contexts.size = s.state.contexts.size + 1 ∧
      ∃ K, t.journal.toList = s.journal.toList ++ K ∧ Disciplined K := by
  obtain ⟨K, hfill, hquiet, hkept⟩ := hsetup.exists_fill
  let pool := (Pool.empty setup.kind).after K
  let size := s.state.contexts.size
  let filled : List (Deed κ H) := K.map (.pool size)
  let ready : Deed κ H := .reported (Report.ready pool.kind pool.available)
  have hopened := openContext_of_ok (ε := ε) hfill s
  simp only [Pool.state_record, Pool.journal_record] at hopened
  have hunused : poolDeeds size s.journal.toList = [] :=
    h.unused size (Array.getElem?_eq_none_iff.mpr le_rfl)
  have hdeeds : ∀ i, poolDeeds i ((s.journal ++ filled.toArray).push ready).toList =
      poolDeeds i s.journal.toList ++ poolDeeds i filled := by
    intro i
    simp [poolDeeds, Deed.pool?, ready]
  refine ⟨⟨{ s.state with contexts := s.state.contexts.push ⟨.withRoom setup.capacity, pool⟩ },
    (s.journal ++ filled.toArray).push ready⟩, ?_, ?_, rfl, Array.size_push _,
    filled ++ [ready], by simp, ?_⟩
  · rw [hopened]
    simp [Scene.fresh, pool, size, filled, ready]
  · refine ⟨fun i c hc => ?_, fun i hi => ?_, fun k hk => absurd hk List.not_mem_nil,
      List.nodup_nil⟩
    · rw [hdeeds]
      rw [Array.getElem?_push] at hc
      split at hc
      · next heq =>
        obtain rfl := Option.some.inj hc
        rw [show i = size from heq, hunused, poolDeeds_map_self]
        exact ⟨Supply.roomy_withRoom hsetup.1, hkept⟩
      · next hne =>
        rw [poolDeeds_map_of_ne hne, List.append_nil]
        exact h.kept i c hc
    · rw [Array.getElem?_eq_none_iff, Array.size_push] at hi
      have hne : i ≠ size := by
        show i ≠ s.state.contexts.size
        omega
      rw [hdeeds, poolDeeds_map_of_ne hne, List.append_nil]
      exact h.unused i (Array.getElem?_eq_none_iff.mpr (by omega))
  · exact (Disciplined.of_quiet (quiet_map_pool hquiet)).append (.quiet trivial .nil)

/-- **Possible contexts can be opened**, and nothing is lost. -/
theorem Standing.openContexts {setups : List Setup} (hsetups : ∀ setup ∈ setups, setup.Possible)
    (h : Standing [] s) :
    ∃ t, (World.openContexts setups : Work κ H ε Unit) s = (.ok (), t) ∧
      Standing [] t ∧ t.state.loans = s.state.loans ∧
      t.state.contexts.size = s.state.contexts.size + setups.length ∧
      ∃ K, t.journal.toList = s.journal.toList ++ K ∧ Disciplined K := by
  induction setups generalizing s with
  | nil => exact ⟨s, rfl, h, rfl, rfl, [], (List.append_nil _).symm, .nil⟩
  | cons setup setups ih =>
    obtain ⟨t, ht, hstanding, hloans, hsize, K, hK, hdisciplined⟩ :=
      h.openContext (ε := ε) (hsetups setup List.mem_cons_self)
    obtain ⟨u, hu, hstanding', hloans', hsize', K', hK', hdisciplined'⟩ :=
      ih (fun setup' hmem => hsetups setup' (List.mem_cons_of_mem _ hmem)) hstanding
    refine ⟨u, (Act.bind_of_ok ht).trans hu, hstanding', hloans'.trans hloans, ?_, K ++ K', ?_,
      hdisciplined.append hdisciplined'⟩
    · rw [hsize', hsize, List.length_cons]
      omega
    · rw [hK', hK, List.append_assoc]

/-! ## Using contexts -/

section

variable (callbacks : Resolution.Callbacks κ H) (nesting : Nat)

/-- Do something with a context. How it ends is no concern of the run. -/
def use : Use κ H β ρ → Work κ H Empty Unit
  | .scratch context routine => do
    let _ ← Act.settle (withScratch callbacks nesting context routine)
  | .grow context count => do
    let _ ← Act.settle (growScratch context count : Work κ H Empty Unit)

/-- The scene after some uses. -/
def afterUses (uses : List (Use κ H β ρ)) (s : Scene (World κ H) (Deed κ H)) :
    Scene (World κ H) (Deed κ H) :=
  uses.foldl (fun s u => (use callbacks nesting u s).2) s

/-- **A use** keeps the world. -/
theorem keeps_use (u : Use κ H β ρ) : Keeps (use callbacks nesting u) := by
  cases u with
  | scratch context routine =>
    exact ((keeps_play callbacks nesting routine).lend context).settle.bind fun _ => .pure ()
  | grow context count => exact (Keeps.growScratch context count).settle.bind fun _ => .pure ()

/-- **A run** keeps the world. -/
theorem Standing.afterUses (uses : List (Use κ H β ρ)) (h : Standing [] s)
    (hloans : OnLoan [] s.state.loans) :
    Passed [] s (World.afterUses callbacks nesting uses s) := by
  induction uses generalizing s with
  | nil => exact .refl h hloans
  | cons u uses ih =>
    have hstep := keeps_use callbacks nesting u [] s h hloans
    exact hstep.trans (ih hstep.standing hstep.onLoan)

end

/-! ## Routines under way -/

/-- The scenes that one comes to from a scene by using contexts, by beginning a routine and by
taking steps inside of one. A routine that another one runs is begun in such a scene too. -/
inductive Reached (β ρ : Type) (callbacks : Resolution.Callbacks κ H) (nesting : Nat)
    (start : Scene (World κ H) (Deed κ H)) : Scene (World κ H) (Deed κ H) → Prop where
  /-- One is there to begin with. -/
  | start : Reached β ρ callbacks nesting start start
  /-- A context is used. -/
  | used {s : Scene (World κ H) (Deed κ H)} (u : Use κ H β ρ)
      (h : Reached β ρ callbacks nesting start s) :
      Reached β ρ callbacks nesting start (use callbacks nesting u s).2
  /-- A routine is begun. -/
  | began {context : Nat} {s t : Scene (World κ H) (Deed κ H)}
      (h : Reached β ρ callbacks nesting start s)
      (hborrow : (borrow context : Work κ H ConversionError Unit) s = (.ok (), t)) :
      Reached β ρ callbacks nesting start t
  /-- The routine under way takes some steps. -/
  | played {s : Scene (World κ H) (Deed κ H)} (routine : Routine κ H β ρ)
      (h : Reached β ρ callbacks nesting start s) :
      Reached β ρ callbacks nesting start (play callbacks nesting routine s).2

/-- Wherever one comes to, no buffer is lost. -/
theorem Standing.of_reached {s t : Scene (World κ H) (Deed κ H)}
    {callbacks : Resolution.Callbacks κ H} {nesting : Nat} (h : Standing [] s)
    (hloans : OnLoan [] s.state.loans) (ht : Reached β ρ callbacks nesting s t) :
    ∃ held, Standing held t ∧ OnLoan held t.state.loans ∧
      t.state.contexts.size = s.state.contexts.size := by
  induction ht with
  | start => exact ⟨[], h, hloans, rfl⟩
  | @used t u _ ih =>
    obtain ⟨held, hstanding, honLoan, hsize⟩ := ih
    have hpassed := keeps_use callbacks nesting u held t hstanding honLoan
    exact ⟨held, hpassed.standing, hpassed.onLoan, hpassed.size.trans hsize⟩
  | @began context t u _ hborrow ih =>
    obtain ⟨held, hstanding, honLoan, hsize⟩ := ih
    rcases hc : t.state.contexts[context]? with _ | c
    · have hpanic : (World.borrow context : Work κ H ConversionError Unit) t =
          (.panicked "no such context", t) := Act.bind_of_panicked (onPool_of_none hc _)
      cases hpanic.symm.trans hborrow
    · obtain ⟨b, G, u', hu', -, -, -, hstanding', honLoan', hsize'⟩ :=
        hstanding.borrow (ε := ConversionError) honLoan hc
      obtain rfl := (Prod.mk.inj (hu'.symm.trans hborrow)).2
      exact ⟨_, hstanding', honLoan', hsize'.trans hsize⟩
  | @played t routine _ ih =>
    obtain ⟨held, hstanding, honLoan, hsize⟩ := ih
    have hpassed := keeps_play callbacks nesting routine held t hstanding honLoan
    exact ⟨held, hpassed.standing, hpassed.onLoan, hpassed.size.trans hsize⟩

/-! ## In order -/

/-- How things stand when no routine is under way, in a world with so many contexts. -/
structure InOrder (count : Nat) (s : Scene (World κ H) (Deed κ H)) : Prop where
  /-- Nothing is on loan. -/
  loans : s.state.loans = []
  /-- There are so many contexts. -/
  size : s.state.contexts.size = count
  /-- Every routine had one get before it and one release after it. -/
  disciplined : Disciplined s.journal.toList
  /-- Every routine began with an empty buffer. -/
  empty : ∀ context b others, .lent context b others ∈ s.journal.toList → b.bytes = []
  /-- Every routine had a buffer that no routine under way had. -/
  distinct : ∀ context b others, .lent context b others ∈ s.journal.toList →
    Distinct context b others
  /-- The counters of a context say how many routines were run in it, and all of its buffers are
  back. -/
  back : ∀ i c, s.state.contexts[i]? = some c →
    AllBack Buffer.number (lendings i s.journal.toList) c.pool

theorem Standing.inOrder (h : Standing [] s) (hloans : s.state.loans = [])
    (hjournal : Disciplined s.journal.toList) : InOrder s.state.contexts.size s where
  loans := hloans
  size := rfl
  disciplined := hjournal
  empty context b others hmem := (hjournal.of_lent_mem hmem).1
  distinct context b others hmem := (hjournal.of_lent_mem hmem).2
  back i c hc := by
    obtain ⟨hgot, hreleased⟩ := hjournal.occurrences_eq i
    rw [← hgot]
    exact (h.kept i c hc).2.allBack (hreleased.trans hgot.symm)

/-- A world without contexts stands. -/
theorem standing_fresh (session : Resolution.Session κ H) :
    Standing [] (.fresh { session } : Scene (World κ H) (Deed κ H)) :=
  ⟨fun i c hc => absurd hc (by simp [Scene.fresh]), fun _ _ => rfl, nofun, List.nodup_nil⟩

/-- **The discipline of scratch buffers.** Contexts whose first buffers can be made can be opened.
After any run of routines and growths everything is in order; and a further routine, whatever it
does and however it ends, is got one buffer before it starts, which is released after it. -/
theorem scratch_disciplined (callbacks : Resolution.Callbacks κ H) (nesting : Nat)
    (session : Resolution.Session κ H) (setups : List Setup)
    (hsetups : ∀ setup ∈ setups, setup.Possible) :
    ∃ s, (openContexts setups : Work κ H Empty Unit) (.fresh { session }) = (.ok (), s) ∧
      ∀ uses : List (Use κ H β ρ),
        let now := afterUses callbacks nesting uses s
        InOrder setups.length now ∧
        ∀ context < setups.length, ∀ routine : Routine κ H β ρ, ∃ K,
          (withScratch callbacks nesting context routine now).2.journal.toList =
            now.journal.toList ++ K ∧ Lending context K := by
  obtain ⟨s, hs, hstanding, hloans, hsize, K, hK, hdisciplined⟩ :=
    (standing_fresh session).openContexts (ε := Empty) hsetups
  have hcount : s.state.contexts.size = setups.length := hsize.trans (Nat.zero_add _)
  refine ⟨s, hs, fun uses => ?_⟩
  intro now
  have honLoan : OnLoan [] s.state.loans := by
    rw [hloans]
    rfl
  have hpassed := hstanding.afterUses callbacks nesting uses honLoan
  obtain ⟨K', hK', hdisciplined'⟩ := hpassed.journal
  have hnow : now.state.contexts.size = setups.length := hpassed.size.trans hcount
  have hjournal : Disciplined now.journal.toList := by
    rw [hK', hK]
    exact (Disciplined.nil.append hdisciplined).append hdisciplined'
  refine ⟨?_, fun context hcontext routine => ?_⟩
  · rw [← hnow]
    exact hpassed.standing.inOrder (List.map_eq_nil_iff.mp hpassed.onLoan) hjournal
  · have hc : now.state.contexts[context]? = some now.state.contexts[context] :=
      Array.getElem?_eq_getElem (by omega)
    exact (hpassed.standing.lend (keeps_play callbacks nesting routine) hpassed.onLoan hc).2

/-- No services, and a cache. -/
def bare : Resolution.Session Unit (Unit → Resolution.Directory) where
  resolver := .new true
  host := fun _ => .ofList []

/-- A stack with one buffer to begin with, and a queue without any. -/
def mixed : List Setup := [⟨.stack, 16, 1⟩, ⟨.queue, 8, 0⟩]

/-- A routine that ends with what is in its buffer. -/
def look : Routine Unit (Unit → Resolution.Directory) Unit (List UInt8) :=
  .read fun b => .finish b.bytes

/-- A routine inside which others end well, report an error, and panic. -/
def spoil : Routine Unit (Unit → Resolution.Directory) Unit (List UInt8) :=
  .edit (fun _ => [7, 7]) <| .nest 1 look fun _ =>
    .nest 0 (.edit (· ++ [8]) (.fail (.invalidConfig "message" "too long"))) fun _ =>
      .nest 0 (.edit (· ++ [9]) (.panic "spoiled")) (.orPanic fun _ => .finish [])

/-- Routines that leave rubbish in the buffers of both contexts, and one that looks at it. -/
def untidy : List (Use Unit (Unit → Resolution.Directory) Unit (List UInt8)) :=
  [.scratch 0 spoil, .grow 1 2, .scratch 0 look, .scratch 1 spoil]

/-- The two contexts, just opened, with a cache and no services. -/
def mixedContexts : Ending Empty Unit ×
    Scene (World Unit (Unit → Resolution.Directory)) (Deed Unit (Unit → Resolution.Directory)) :=
  openContexts mixed
    (.fresh { session := { resolver := .new true, host := fun _ => .ofList [] } })

/-- The two contexts after all that. -/
def untidied :
    Scene (World Unit (Unit → Resolution.Directory)) (Deed Unit (Unit → Resolution.Directory)) :=
  afterUses (Resolution.directories Unit).toCallbacks 1 untidy mixedContexts.2

/-- Everything is in order then, though three buffers are dirty, and a routine that looks into one
of them finds it empty. -/
theorem scratch_disciplined_spoiled :
    (∀ setup ∈ mixed, setup.Possible) ∧ mixedContexts.1 = .ok () ∧ InOrder 2 untidied ∧
      untidied.state.contexts.toList.map (fun c => c.pool.idle.toList.map Buffer.bytes) =
        [[[9], [9]], [[], [], [7, 7]]] ∧
      (untidied.state.stats 0).toList = [2, 2, 5, 1, 6, 1, 0] ∧
      lendings 0 untidied.journal.toList = 6 ∧
      (withScratch (Resolution.directories Unit).toCallbacks 1 0 look untidied).1 = .ok [] := by
  have hpossible : ∀ setup ∈ mixed, setup.Possible := by
    intro setup hmem
    simp only [mixed, List.mem_cons, List.not_mem_nil, or_false] at hmem
    rcases hmem with rfl | rfl
    · exact ⟨by decide, fun _ => by decide⟩
    · exact ⟨by decide, nofun⟩
  obtain ⟨s, hs, hrun⟩ := scratch_disciplined (Resolution.directories Unit).toCallbacks 1
    { resolver := .new true, host := fun _ => .ofList [] } mixed hpossible
  have hopened : mixedContexts = (.ok (), s) := hs
  have huntidied : untidied = afterUses (Resolution.directories Unit).toCallbacks 1 untidy s := by
    rw [untidied, hopened]
  have horder : InOrder 2 untidied := by
    rw [huntidied]
    exact (hrun untidy).1
  refine ⟨hpossible, by rw [hopened], horder, ?_, ?_, ?_, ?_⟩
  · decide +kernel
  · decide +kernel
  · decide +kernel
  · decide +kernel

end World

end Scratch

end ConverterKit
