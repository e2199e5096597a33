import ConverterKit.Proofs.Config.Layers
import ConverterKit.Proofs.Pool.Setback
import ConverterKit.Proofs.Scratch.AtRest

/-!
# Configurations a converter can run with

A configuration is accepted unless its buffers have no room. Two of its sizes end up in
reservations: the room in a buffer, and on a stack the room for the first buffers. Neither may be
more than the greatest number of bytes that can be reserved at once, which is what
`World.Setup.Possible` says, and an accepted configuration may say more. A context made from a
possible one never runs out of capacity, whatever is done with it. Any other one panics: when it is
opened, or else, if it has no first buffer, when a routine is first run in it.

## Main definitions

* `Config.Accepted`: a configuration that was accepted, from wherever it came
* `World.Setup.ofConfig`: the context that a configuration describes
* `World.NeverOverflows`: a context that never runs out of capacity

## Main results

* `Config.Accepted.validate_eq`: what is accepted is valid
* `World.Setup.Possible.neverOverflows`: a possible context never runs out of capacity
* `World.Setup.overflows_of_not_possible`: any other one does
* `World.accepted_runs_iff`: which accepted configurations a converter can run with
* `World.accepted_overflows`: some with which it cannot
-/

namespace ConverterKit

/-! ## Accepted configurations -/

namespace Config

/-- A configuration that was accepted: it is valid, or it was given for a text, a file or an
environment. -/
inductive Accepted (c : Config) : Prop where
  /-- It was validated. -/
  | validated (h : c.validate = .ok c)
  /-- It is that of a text. -/
  | parsed {text : String} (h : parse text = .ok c)
  /-- It is that of a file, overridden from the environment. -/
  | loaded {contents : String → Except ReadFailure ByteArray} {lookup : String → Option String}
      {path : String} {s : Scene Config Deed} (h : (load contents lookup path s).1 = .ok c)
  /-- It is that of the environment alone. -/
  | ofEnvironment {lookup : String → Option String} {s : Scene Config Deed}
      (h : (ofEnvironment lookup s).1 = .ok c)

theorem validate_eq_of_verdict {c d : Config} (h : d.verdict = .ok c) : c.validate = .ok c := by
  rw [verdict] at h
  split at h
  · cases h
  · next hroom =>
    obtain rfl := Ending.ok.inj h
    exact validate_eq_ok_iff.mpr ⟨hroom, rfl⟩

/-- **What is accepted is valid.** -/
theorem Accepted.validate_eq {c : Config} (h : c.Accepted) : c.validate = .ok c := by
  cases h with
  | validated h => exact h
  | @parsed text h =>
    have hparse := ofExcept_parse text
    rw [h] at hparse
    cases htext : ofText? text with
    | none =>
      rw [htext] at hparse
      cases hparse
    | some d =>
      rw [htext] at hparse
      exact validate_eq_of_verdict hparse.symm
  | @loaded contents lookup path s h =>
    rcases hread : (contents path).bind decodeText with failure | text
    · rw [load_of_error hread] at h
      cases h
    · rcases htext : ofText? text with _ | d
      · rw [load_of_malformed hread htext] at h
        cases h
      · obtain ⟨t, ht, -⟩ := load_of_ofText? lookup hread htext s
        rw [ht] at h
        exact validate_eq_of_verdict h
  | @ofEnvironment lookup s h =>
    obtain ⟨t, ht, -⟩ := finish_apply lookup (⟨{}, s.journal⟩ : Scene Config Deed)
    rw [Config.ofEnvironment, Act.bind_of_ok (Act.put_apply _ _), ht] at h
    exact validate_eq_of_verdict h

end Config

namespace Scratch

/-! ## Buffers that cannot be made -/

namespace Supply

/-- No buffer can have more room than can be reserved at once. -/
theorem stop_withRoom {α : Type} {capacity : UInt64} (h : Pool.reservable < capacity.toNat)
    (number : Nat) :
    ((Supply.withRoom capacity).factory.outcome number).stop? =
      some (.panicked "capacity overflow" : Ending Empty α) := by
  show (Supply.script (.withRoom capacity) number).ending.stop? = _
  rw [script, if_pos h]
  rfl

end Supply

namespace World

open Pool (HasRoom)

variable {κ H β ρ ε : Type}

/-! ## Contexts that never run out of capacity -/

/-- The context that a configuration describes, with a pool of the given kind. -/
def Setup.ofConfig (kind : Pool.Kind) (c : Config) : Setup where
  kind := kind
  capacity := c.pool.scratchCapacity
  initial := c.pool.initialSize

/-- The only context of a world, just opened like this. -/
def openedAlone (setup : Setup) (session : Resolution.Session κ H) :
    Ending Empty Unit × Scene (World κ H) (Deed κ H) :=
  openContexts [setup] (.fresh { session })

/-- A context that is opened like this never runs out of capacity. -/
structure NeverOverflows (β ρ : Type) (callbacks : Resolution.Callbacks κ H) (nesting : Nat)
    (session : Resolution.Session κ H) (setup : Setup) : Prop where
  /-- It can be opened. -/
  opens : (openedAlone setup session).1 = .ok ()
  /-- At any time its pool can be grown by as many buffers as it has room for. -/
  grows : ∀ s, Reached β ρ callbacks nesting (openedAlone setup session).2 s →
    ∀ c, s.state.contexts[0]? = some c →
      ∀ count, c.pool.HasRoom Supply.bufferSize count →
        (growScratch 0 count s : Ending Empty Unit × _).1 = .ok ()
  /-- At any time a routine can be lent a buffer, and running it ends as the routine itself does. -/
  lends : ∀ s, Reached β ρ callbacks nesting (openedAlone setup session).2 s →
    ∀ routine : Routine κ H β ρ, ∃ t,
      (borrow 0 s : Ending ConversionError Unit × _) = (.ok (), t) ∧
      (withScratch callbacks nesting 0 routine s).1 = (play callbacks nesting routine t).1

section

variable {s : Scene (World κ H) (Deed κ H)} {held : List (Nat × Nat)} {context : Nat}

/-- Emptying the buffer after a routine makes no difference to how the routine ended. -/
theorem ending_emptying {steps : Work κ H ConversionError ρ} (hsteps : Keeps steps) {number : Nat}
    (h : Standing ((context, number) :: held) s)
    (hloans : OnLoan ((context, number) :: held) s.state.loans) :
    (emptying steps s).1 = (steps s).1 := by
  have hpassed := hsteps _ s h hloans
  rcases hrun : steps s with ⟨e, t⟩
  rw [hrun] at hpassed
  have honLoan : OnLoan ((context, number) :: held) t.state.loans := hpassed.onLoan
  obtain ⟨b, rest, ht, -, -⟩ := honLoan.cons
  have hamend := amend_of_loans (ε := ConversionError) ht Buffer.clear
  simp only [emptying, Act.bind_apply, Act.attempt_apply, hrun]
  cases e with
  | ok r | error r =>
    simp only [hamend]
    rfl
  | panicked | unfinished => rfl

/-- **Running a routine ends as the routine itself does**, with a buffer it was lent. -/
theorem Standing.ending_lend {c : Context} {steps : Work κ H ConversionError ρ}
    (hsteps : Keeps steps) (h : Standing held s) (hloans : OnLoan held s.state.loans)
    (hc : s.state.contexts[context]? = some c) :
    ∃ t, (World.borrow context : Work κ H ConversionError Unit) s = (.ok (), t) ∧
      (World.lend context steps s).1 = (steps t).1 := by
  obtain ⟨b, G, t, ht, -, -, -, hstanding, honLoan, -⟩ :=
    h.borrow (ε := ConversionError) hloans hc
  refine ⟨t, ht, ?_⟩
  have hpassed := hsteps.emptying _ t hstanding honLoan
  obtain ⟨b', v, hv, -⟩ := hpassed.standing.giveBack (ε := ConversionError) hpassed.onLoan
  rw [lend_of_giveBack ht rfl hv]
  exact ending_emptying hsteps hstanding honLoan

end

/-- **A possible context never runs out of capacity.** -/
theorem Setup.Possible.neverOverflows {setup : Setup} (h : setup.Possible)
    (callbacks : Resolution.Callbacks κ H) (nesting : Nat) (session : Resolution.Session κ H) :
    NeverOverflows β ρ callbacks nesting session setup := by
  have hpossible : ∀ setup' ∈ [setup], setup'.Possible := fun _ hmem =>
    List.mem_singleton.mp hmem ▸ h
  obtain ⟨start, hstart, hstanding, hloans, hsize, -⟩ :=
    (standing_fresh session).openContexts (ε := Empty) hpossible
  have hopened : openedAlone setup session = (.ok (), start) := hstart
  have honLoan : OnLoan [] start.state.loans := by
    rw [hloans]
    rfl
  refine ⟨by rw [hopened], fun s hs c hc count hroom => ?_, fun s hs routine => ?_⟩
  · rw [hopened] at hs
    obtain ⟨held, hstands, -, -⟩ := hstanding.of_reached honLoan hs
    obtain ⟨hroomy, hkept⟩ := hstands.kept 0 c hc
    obtain ⟨K, e, hwork, hruns⟩ :=
      Pool.exists_runs c.supply.factory depth (.grow count) (.fresh c.pool)
    obtain ⟨hok, -, -⟩ := hkept.grow hroomy.numbers hruns
    obtain rfl := hok hroom
    rw [growScratch, onPool_eq _ hc hwork]
    rfl
  · rw [hopened] at hs
    obtain ⟨held, hstands, hlent, hsame⟩ := hstanding.of_reached honLoan hs
    have hlt : 0 < s.state.contexts.size := by
      rw [hsame, hsize]
      exact Nat.succ_pos _
    exact hstands.ending_lend (keeps_play callbacks nesting routine) hlent
      (Array.getElem?_eq_getElem hlt)

/-! ## Contexts that run out of capacity -/

/-- A context that is not possible has no room for its first buffers or cannot make any. -/
theorem Setup.not_possible_iff {setup : Setup} :
    ¬setup.Possible ↔
      ¬(Pool.empty setup.kind : Pool Buffer).HasRoom Supply.bufferSize setup.initial ∨
        Pool.reservable < setup.capacity.toNat := by
  have hreservable : Pool.reservable = 2 ^ 63 - 1 := by decide
  rw [Setup.Possible, Pool.hasRoom_empty_iff, not_and_or, or_comm, hreservable]
  refine or_congr Iff.rfl ?_
  omega

section

variable {setup : Setup}

/-- The pool of a context that is not possible cannot be filled. -/
theorem Setup.build_overflows (h : ¬setup.Possible) (hinitial : setup.initial ≠ 0) :
    ((Supply.withRoom setup.capacity).factory.build setup.kind depth setup.initial).1 =
      .panicked "capacity overflow" := by
  have hgrown := (Pool.failures_exact (Supply.withRoom setup.capacity).aloof 0
    (.fresh (.empty setup.kind))).build setup.kind setup.initial
  by_cases hroom : (Pool.empty setup.kind : Pool Buffer).HasRoom Supply.bufferSize setup.initial
  · have hover := (Setup.not_possible_iff.mp h).resolve_left (not_not_intro hroom)
    have hstop := Supply.stop_withRoom (α := Unit) hover (Pool.empty setup.kind : Pool Buffer).calls
    have hcount : setup.initial.toNat ≠ 0 := fun hzero => hinitial (UInt64.toNat_inj.mp hzero)
    obtain ⟨n, hn⟩ := Nat.exists_eq_add_one_of_ne_zero hcount
    have hexact := hgrown.room (.inr hroom)
    rw [hn] at hexact
    have hproducts := Pool.Factory.products_of_stop (n := n) hstop
    have hended := hexact.stop (by rw [hproducts]; exact Nat.succ_pos n)
    rw [hproducts] at hended
    exact Option.some.inj (hended.symm.trans hstop)
  · exact (hgrown.refused hinitial hroom).1

/-- A pool without first buffers is filled in any case, and stays empty. -/
theorem build_zero (supply : Supply) (kind : Pool.Kind) :
    ∃ u, supply.factory.build kind depth 0 = (.ok (), u) ∧ u.state.idle.toList = [] :=
  ⟨_, rfl, by cases kind <;> rfl⟩

/-- A routine is never run in a context without idle buffers that cannot make any. -/
theorem withScratch_overflows {s : Scene (World κ H) (Deed κ H)} {context : Nat}
    {capacity : UInt64} {pool : Pool Buffer} (h : Pool.reservable < capacity.toNat)
    (hc : s.state.contexts[context]? = some ⟨.withRoom capacity, pool⟩)
    (hidle : pool.idle.toList = []) (callbacks : Resolution.Callbacks κ H) (nesting : Nat)
    (routine : Routine κ H β ρ) :
    (withScratch callbacks nesting context routine s).1 = .panicked "capacity overflow" := by
  obtain ⟨K, e, hruns, -⟩ :=
    Pool.exists_runs (Supply.withRoom capacity).factory depth .get (.fresh pool)
  have hget : (Supply.withRoom capacity).factory.get depth (.fresh pool) =
      (e, Pool.record (.fresh pool) K) := hruns
  have hended := ((Pool.failures_exact (Supply.withRoom capacity).aloof 0 (.fresh pool)).get _
    hidle (Supply.stop_withRoom h pool.calls)).1
  obtain rfl : e = .panicked "capacity overflow" := (congrArg Prod.fst hget).symm.trans hended
  have hborrow : (borrow context : Work κ H ConversionError Unit) s =
      (.panicked "capacity overflow", afterDeeds context ⟨.withRoom capacity, pool⟩ K s) :=
    Act.bind_of_panicked (onPool_eq (e := .panicked "capacity overflow") _ hc
      (Act.bind_of_panicked (Act.bind_of_panicked hget)))
  rw [withScratch, lend, Act.bind_of_panicked hborrow]

/-- **A context that is not possible runs out of capacity**: when it is opened, or else whenever a
routine is to be run in it. -/
theorem Setup.overflows_of_not_possible (h : ¬setup.Possible)
    (callbacks : Resolution.Callbacks κ H) (nesting : Nat) (session : Resolution.Session κ H) :
    (openedAlone setup session).1 = .panicked "capacity overflow" ∨
      ((openedAlone setup session).1 = .ok () ∧ ∀ routine : Routine κ H β ρ,
        (withScratch callbacks nesting 0 routine (openedAlone setup session).2).1 =
          .panicked "capacity overflow") := by
  by_cases hinitial : setup.initial = 0
  · have hover : Pool.reservable < setup.capacity.toNat := by
      refine (Setup.not_possible_iff.mp h).resolve_left (not_not_intro ?_)
      rw [hinitial, Pool.hasRoom_empty_iff]
      exact fun _ => Nat.zero_le _
    obtain ⟨u, hu, hidle⟩ := build_zero (.withRoom setup.capacity) setup.kind
    rw [← hinitial] at hu
    have hopened : openedAlone setup session = _ :=
      Act.bind_of_ok (openContext_of_ok (ε := Empty) hu (.fresh { session }))
    rw [hopened]
    exact .inr ⟨rfl, withScratch_overflows hover rfl hidle callbacks nesting⟩
  · have hbuild := Setup.build_overflows h hinitial
    have hopened : openedAlone setup session = _ :=
      Act.bind_of_panicked (openContext_of_panicked (ε := Empty) (Prod.ext hbuild rfl)
        (.fresh { session }))
    rw [hopened]
    exact .inl rfl

end

/-- A context that never runs out of capacity is possible. -/
theorem NeverOverflows.possible {setup : Setup} {callbacks : Resolution.Callbacks κ H}
    {nesting : Nat} {session : Resolution.Session κ H}
    (h : NeverOverflows β ρ callbacks nesting session setup) : setup.Possible := by
  by_contra hnot
  rcases Setup.overflows_of_not_possible (β := β) (ρ := ρ) hnot callbacks nesting session with
    hpanic | ⟨-, hpanic⟩
  · rw [h.opens] at hpanic
    cases hpanic
  · -- a routine that reports an error would have to panic
    let failing : Routine κ H β ρ := .fail (.invalidConfig "" "")
    obtain ⟨t, -, hended⟩ := h.lends _ .start failing
    rw [hpanic failing] at hended
    cases hended

/-! ## Configurations that were accepted -/

/-- **Which accepted configurations a converter can run with.** What is accepted is valid, from
wherever it came. A context made from it never runs out of capacity if and only if its buffers have
room for less than `2 ^ 63` bytes and, on a stack, the room for its first buffers can be reserved at
once. Otherwise it panics when it is opened, or else whenever a routine is to be run in it. -/
theorem accepted_runs_iff {c : Config} (h : c.Accepted) (kind : Pool.Kind)
    (callbacks : Resolution.Callbacks κ H) (nesting : Nat) (session : Resolution.Session κ H) :
    c.validate = .ok c ∧
      (NeverOverflows β ρ callbacks nesting session (.ofConfig kind c) ↔
        c.pool.scratchCapacity.toNat < 2 ^ 63 ∧
          (kind = .stack → c.pool.initialSize.toNat * Supply.bufferSize ≤ Pool.reservable)) ∧
      (¬NeverOverflows β ρ callbacks nesting session (.ofConfig kind c) →
        (openedAlone (.ofConfig kind c) session).1 = .panicked "capacity overflow" ∨
          ((openedAlone (.ofConfig kind c) session).1 = .ok () ∧
            ∀ routine : Routine κ H β ρ, (withScratch callbacks nesting 0 routine
              (openedAlone (.ofConfig kind c) session).2).1 = .panicked "capacity overflow")) := by
  have hiff : NeverOverflows β ρ callbacks nesting session (.ofConfig kind c) ↔
      (Setup.ofConfig kind c).Possible :=
    ⟨NeverOverflows.possible, fun hpossible => hpossible.neverOverflows callbacks nesting session⟩
  refine ⟨h.validate_eq, hiff, fun hnot => ?_⟩
  exact Setup.overflows_of_not_possible (mt hiff.mpr hnot) callbacks nesting session

/-- An environment that asks for one first buffer, with this much room. -/
def spacious (room name : String) : Option String :=
  if name = Config.initialSizeVariable then some "1"
  else if name = Config.scratchCapacityVariable then some room
  else none

/-- The environment may ask for as much room as can be reserved at once. -/
theorem accepted_runs_iff_largest :
    let largest : Config :=
      { pool := { initialSize := 1, scratchCapacity := 9223372036854775807 } }
    (Config.ofEnvironment (spacious "9223372036854775807") (.fresh {})).1 = .ok largest ∧
      ∀ kind, NeverOverflows Unit Unit (Resolution.directories Unit).toCallbacks 1 bare
        (.ofConfig kind largest) := by
  intro largest
  have hlargest : (Config.ofEnvironment (spacious "9223372036854775807") (.fresh {})).1 =
      .ok largest := by decide +kernel
  refine ⟨hlargest, fun kind => ?_⟩
  obtain ⟨-, hiff, -⟩ := accepted_runs_iff (β := Unit) (ρ := Unit) (.ofEnvironment hlargest) kind
    (Resolution.directories Unit).toCallbacks 1 bare
  exact hiff.mpr ⟨by decide +kernel, fun _ => by decide +kernel⟩

/-- **One byte more is accepted as well, and cannot be run**; no more can a stack of `2 ^ 62` first
buffers, whose addresses, lengths and capacities have no room. -/
theorem accepted_overflows :
    let vast : Config := { pool := { initialSize := 1, scratchCapacity := 9223372036854775808 } }
    let crowded : Config :=
      { pool := { initialSize := 4611686018427387904, scratchCapacity := 1024 } }
    (Config.ofEnvironment (spacious "9223372036854775808") (.fresh {})).1 = .ok vast ∧
      vast.validate = .ok vast ∧
      (openedAlone (.ofConfig .stack vast) bare).1 = .panicked "capacity overflow" ∧
      (openedAlone (.ofConfig .queue vast) bare).1 = .panicked "capacity overflow" ∧
      crowded.validate = .ok crowded ∧
      (openedAlone (.ofConfig .stack crowded) bare).1 = .panicked "capacity overflow" := by
  decide +kernel

end World

end Scratch

end ConverterKit
