import ConverterKit.Pool.Plan
import ConverterKit.Proofs.Pool.Runs

/-!
# Sessions at a desk

Seen from the pool, a request is one of four *errands*: an instance is asked for, the pool is to be
grown, an instance is given, or the pool is left alone. `Serves` says what a request does to a desk
in these terms, and `Visits` what a list of requests does; both name the deeds that were added to
the journal. A session starts with the building of the pool.

## Main definitions

* `Desk.errand`: what a request wants of the pool
* `Desk.Serves`, `Desk.Visits`: what a request and a list of requests do
* `Desk.opened`: the desk of a pool that was just built, with the journal of its building
* `Desk.visit`, `Desk.endings`: the scene a list of requests leaves, and how each of them ended
* `session`: the scene a session leaves

## Main results

* `Desk.exists_serves`, `Desk.Serves.serve_eq`: `Desk.serve` does what `Serves` says
* `Desk.exists_visits`: the same for lists of requests
* `exists_opening`: a pool is built by a growth
* `Action.script_induction`: what the scripts of planned factories look like
* `exists_session`: a session is the building of a pool and a list of requests
-/

namespace ConverterKit

namespace Pool

variable {ε α β : Type}

/-- There is only one way for a task to turn out. -/
theorem Runs.unique {f : Factory ε α} {depth : Nat} {task : Task ε α β} {p : Pool α}
    {J J' : List (Deed ε α)} {e e' : Ending ε β} (h : Runs f depth task p J e)
    (h' : Runs f depth task p J' e') : J = J' ∧ e = e' := by
  have heq : (e, record (.fresh p) J) = (e', record (.fresh p) J') :=
    (h.work_eq (.fresh p) rfl).symm.trans (h'.work_eq (.fresh p) rfl)
  obtain ⟨he, hscene⟩ := Prod.mk.inj heq
  have hjournal := congrArg Scene.journal hscene
  rw [journal_record, journal_record] at hjournal
  exact ⟨by simpa [Scene.fresh] using hjournal, he⟩

namespace Desk

/-! ## Errands -/

/-- What a request wants of the pool. -/
inductive Errand (ε α : Type) where
  /-- Get an instance and put it into the next slot. -/
  | ask (hold : α → Holder α)
  /-- Grow the pool. -/
  | grow (count : UInt64)
  /-- Release an instance; the slots are these by then. -/
  | give (a : α) (slots : Array (Holder α))
  /-- Leave the pool alone and end in this way with these slots. -/
  | settle (ending : Ending ε (Reply α)) (slots : Array (Holder α))

/-- What a request wants of the pool behind a desk. -/
def errand (d : Desk α) : Request α → Errand ε α
  | .get => .ask .bare
  | .checkout => .ask fun a => .guarded ⟨some a⟩
  | .grow count => .grow count
  | .bring a => .give a d.slots
  | .release slot =>
    match d.holder slot with
    | .bare a => .give a (d.slots.setIfInBounds slot .vacant)
    | .guarded _ => .settle (.ok .wrongHolder) d.slots
    | .vacant => .settle (.ok .noSlot) d.slots
  | .releaseCopy slot =>
    match d.holder slot with
    | .bare a => .give a d.slots
    | .guarded _ => .settle (.ok .wrongHolder) d.slots
    | .vacant => .settle (.ok .noSlot) d.slots
  | .drop slot =>
    match d.holder slot with
    | .bare _ => .settle (.ok .done) (d.slots.setIfInBounds slot .vacant)
    | .guarded ⟨some a⟩ => .give a (d.slots.setIfInBounds slot .vacant)
    | .guarded ⟨none⟩ => .settle (.ok .done) (d.slots.setIfInBounds slot .vacant)
    | .vacant => .settle (.ok .noSlot) d.slots
  | .detach slot =>
    match d.holder slot with
    | .bare _ => .settle (.ok .wrongHolder) d.slots
    | .guarded ⟨some a⟩ => .settle (.ok (.item a)) (d.slots.setIfInBounds slot (.bare a))
    | .guarded ⟨none⟩ => .settle (.panicked "pooled instance present until drop") d.slots
    | .vacant => .settle (.ok .noSlot) d.slots
  | .amend slot change =>
    match d.holder slot with
    | .bare a => .settle (.ok (.item (change a))) (d.slots.setIfInBounds slot (.bare (change a)))
    | .guarded ⟨some a⟩ =>
      .settle (.ok (.item (change a))) (d.slots.setIfInBounds slot (.guarded ⟨some (change a)⟩))
    | .guarded ⟨none⟩ => .settle (.panicked "pooled instance present until drop") d.slots
    | .vacant => .settle (.ok .noSlot) d.slots
  | .look slot =>
    match d.holder slot with
    | .bare a => .settle (.ok (.item a)) d.slots
    | .guarded ⟨some a⟩ => .settle (.ok (.item a)) d.slots
    | .guarded ⟨none⟩ => .settle (.panicked "pooled instance present until drop") d.slots
    | .vacant => .settle (.ok .noSlot) d.slots

/-- Run an errand. -/
def Errand.run (f : Factory ε α) (depth : Nat) : Errand ε α → Work ε α (Reply α)
  | .ask hold => do
    let a ← onPool (f.get depth)
    handOut (hold a) a
  | .grow count => do
    onPool (f.grow depth count)
    return .done
  | .give a slots => do
    Act.modify fun d => { d with slots }
    onPool (Pool.release a)
    return .done
  | .settle ending slots => do
    Act.modify fun d => { d with slots }
    Act.conclude ending

/-- **Answering a request is running its errand.** -/
theorem serve_apply (f : Factory ε α) (depth : Nat) (r : Request α)
    (s : Scene (Desk α) (Deed ε α)) :
    serve f depth r s = (s.state.errand r).run f depth s := by
  obtain ⟨⟨pool, slots⟩, journal⟩ := s
  cases r with
  | checkout =>
    -- the guard is made inside the pool's act, where an instance asked for is bare
    rcases h : f.get depth (.fresh pool) with ⟨_ | _ | _ | _, t⟩ <;>
      simp only [serve, errand, Errand.run, Act.bind_apply, onPool, Act.within,
        Factory.checkout, Pool.checkout, show Pool.get (f.call depth) = f.get depth from rfl, h,
        Ending.mapError]
    rfl
  | get | grow | bring => rfl
  | release slot | releaseCopy slot =>
    rcases h : holder ⟨pool, slots⟩ slot with a | g | _ <;>
      simp only [serve, errand, h, Act.bind_apply, Act.state_apply] <;> rfl
  | drop slot =>
    rcases h : holder ⟨pool, slots⟩ slot with a | ⟨_ | a⟩ | _
    · simp only [serve, errand, h, Act.bind_apply, Act.state_apply]
      rfl
    · simp only [serve, errand, h, Act.bind_apply, Act.state_apply, fill, Act.modify_apply, onPool,
        Act.within, Guard.drop, Act.pure_apply, Ending.mapError, Errand.run, Act.conclude_apply,
        Scene.fresh, Array.map_empty, Array.append_empty]
    · simp only [serve, errand, h, Act.bind_apply, Act.state_apply]
      rfl
    · simp only [serve, errand, h, Act.bind_apply, Act.state_apply]
      rfl
  | detach slot =>
    rcases h : holder ⟨pool, slots⟩ slot with a | ⟨_ | a⟩ | _
    · simp only [serve, errand, h, Act.bind_apply, Act.state_apply]
      rfl
    · simp only [serve, errand, h, Act.bind_apply, Act.state_apply, onPool, Act.within,
        Guard.detach_none, Act.panic_apply, Ending.mapError, Errand.run, Act.modify_apply,
        Act.conclude_apply, Scene.fresh, Array.map_empty, Array.append_empty]
    · simp only [serve, errand, h, Act.bind_apply, Act.state_apply, onPool, Act.within,
        Guard.detach_some, Act.pure_apply, Ending.mapError, fill, Errand.run, Act.modify_apply,
        Act.conclude_apply, Scene.fresh, Array.map_empty, Array.append_empty]
    · simp only [serve, errand, h, Act.bind_apply, Act.state_apply]
      rfl
  | amend slot change | look slot =>
    rcases h : holder ⟨pool, slots⟩ slot with a | ⟨_ | a⟩ | _ <;>
      simp only [serve, errand, h, Act.bind_apply, Act.state_apply] <;> rfl

/-! ## One request -/

/-- What a request does: the deeds it adds, how it ends, and the desk it leaves. -/
inductive Serves (f : Factory ε α) (depth : Nat) (d : Desk α) (r : Request α) :
    List (Deed ε α) → Ending ε (Reply α) → Desk α → Prop where
  /-- An instance is handed out. -/
  | handedOut {hold : α → Holder α} {a : α} {J : List (Deed ε α)}
      (hr : d.errand (ε := ε) r = .ask hold) (h : Runs f depth .get d.pool J (.ok a)) :
      Serves f depth d r J (.ok (.handedOut d.slots.size a))
        ⟨d.pool.after J, d.slots.push (hold a)⟩
  /-- There is no instance to be had. -/
  | notHandedOut {hold : α → Holder α} {J : List (Deed ε α)} {g : Ending ε α}
      {e : Ending ε (Reply α)} (hr : d.errand (ε := ε) r = .ask hold)
      (h : Runs f depth .get d.pool J g) (he : g.stop? = some e) :
      Serves f depth d r J e ⟨d.pool.after J, d.slots⟩
  /-- The pool has grown. -/
  | grown {count : UInt64} {J : List (Deed ε α)} (hr : d.errand (ε := ε) r = .grow count)
      (h : Runs f depth (.grow count) d.pool J (.ok ())) :
      Serves f depth d r J (.ok .done) ⟨d.pool.after J, d.slots⟩
  /-- The pool has not grown as it should. -/
  | notGrown {count : UInt64} {J : List (Deed ε α)} {g : Ending ε Unit} {e : Ending ε (Reply α)}
      (hr : d.errand (ε := ε) r = .grow count) (h : Runs f depth (.grow count) d.pool J g)
      (he : g.stop? = some e) : Serves f depth d r J e ⟨d.pool.after J, d.slots⟩
  /-- An instance is given to the pool. -/
  | given {a : α} {slots : Array (Holder α)} (hr : d.errand (ε := ε) r = .give a slots) :
      Serves f depth d r (releaseDeeds a) (.ok .done)
        ⟨d.pool.after (releaseDeeds a : List (Deed ε α)), slots⟩
  /-- The pool is left alone. -/
  | settled {e : Ending ε (Reply α)} {slots : Array (Holder α)}
      (hr : d.errand r = .settle e slots) : Serves f depth d r [] e ⟨d.pool, slots⟩

section

variable {f : Factory ε α} {depth : Nat}

/-- A task of the pool at a desk adds its deeds to the journal and leaves the slots alone. -/
theorem onPool_apply {task : Task ε α β} {p : Pool α} {J : List (Deed ε α)} {e : Ending ε β}
    (h : Runs f depth task p J e) (slots : Array (Holder α)) (journal : Array (Deed ε α)) :
    onPool (task.work f depth) ⟨⟨p, slots⟩, journal⟩ =
      (e, ⟨⟨p.after J, slots⟩, journal ++ J.toArray⟩) := by
  have hwork := h.work_eq (.fresh p) rfl
  simp only [onPool, Act.within, hwork, Ending.mapError_id, state_record, journal_record,
    Array.map_id]
  simp only [Scene.fresh, Array.empty_append]

/-- What a request does is what serving it does, whatever the journal so far. -/
theorem Serves.serve_eq {d d' : Desk α} {r : Request α} {J : List (Deed ε α)}
    {e : Ending ε (Reply α)} (h : Serves f depth d r J e d') (journal : Array (Deed ε α)) :
    serve f depth r ⟨d, journal⟩ = (e, ⟨d', journal ++ J.toArray⟩) := by
  rw [serve_apply]
  cases h with
  | handedOut hr h =>
    have hpool : onPool (f.get depth) ⟨d, journal⟩ = _ := onPool_apply h d.slots journal
    simp only [hr, Errand.run]
    rw [Act.bind_of_ok hpool]
    rfl
  | @notHandedOut hold _ g _ hr h he =>
    have hpool : onPool (f.get depth) ⟨d, journal⟩ = _ := onPool_apply h d.slots journal
    simp only [hr, Errand.run, Act.bind_apply, hpool]
    cases g <;> simp_all [Ending.stop?]
  | grown hr h =>
    have hpool : onPool (f.grow depth _) ⟨d, journal⟩ = _ := onPool_apply h d.slots journal
    simp only [hr, Errand.run]
    rw [Act.bind_of_ok hpool]
    rfl
  | @notGrown _ _ g _ hr h he =>
    have hpool : onPool (f.grow depth _) ⟨d, journal⟩ = _ := onPool_apply h d.slots journal
    simp only [hr, Errand.run, Act.bind_apply, hpool]
    cases g <;> simp_all [Ending.stop?]
  | @given a slots hr =>
    have hrun : Runs f depth (.release a) d.pool (releaseDeeds a) (.ok ()) := .released
    have hpool : onPool (Pool.release a) ⟨⟨d.pool, slots⟩, journal⟩ = _ :=
      onPool_apply hrun slots journal
    simp only [hr, Errand.run, Act.bind_apply, Act.modify_apply, hpool]
    rfl
  | settled hr =>
    simp only [hr, Errand.run, Act.bind_apply, Act.modify_apply, Act.conclude_apply,
      Array.append_empty]

/-- **A request does what serving it does.** -/
theorem exists_serves (f : Factory ε α) (depth : Nat) (d : Desk α) (r : Request α) :
    ∃ J e d', Serves f depth d r J e d' := by
  cases hr : (d.errand r : Errand ε α) with
  | ask hold =>
    obtain ⟨J, g, -, h⟩ := exists_runs f depth .get (.fresh d.pool)
    cases g with
    | ok a => exact ⟨_, _, _, .handedOut hr h⟩
    | _ => exact ⟨_, _, _, .notHandedOut hr h rfl⟩
  | grow count =>
    obtain ⟨J, g, -, h⟩ := exists_runs f depth (.grow count) (.fresh d.pool)
    cases g with
    | ok => exact ⟨_, _, _, .grown hr h⟩
    | _ => exact ⟨_, _, _, .notGrown hr h rfl⟩
  | give a slots => exact ⟨_, _, _, .given hr⟩
  | settle e slots => exact ⟨_, _, _, .settled hr⟩

/-- Serving a request keeps to the errand: a desk's pool is replayed from the journal. -/
theorem Serves.pool_eq {d d' : Desk α} {r : Request α} {J : List (Deed ε α)}
    {e : Ending ε (Reply α)} (h : Serves f depth d r J e d') : d'.pool = d.pool.after J := by
  cases h <;> rfl

end

/-! ## Lists of requests -/

/-- The scene that a list of requests leaves, each of them served whatever became of those
before. -/
def visit (f : Factory ε α) (depth : Nat) (requests : List (Request α))
    (s : Scene (Desk α) (Deed ε α)) : Scene (Desk α) (Deed ε α) :=
  requests.foldl (fun t r => (serve f depth r t).2) s

/-- How the requests of a list end. -/
def endings (f : Factory ε α) (depth : Nat) :
    List (Request α) → Scene (Desk α) (Deed ε α) → List (Ending ε (Reply α))
  | [], _ => []
  | r :: requests, s =>
    (serve f depth r s).1 :: endings f depth requests (serve f depth r s).2

/-- What a list of requests does. -/
inductive Visits (f : Factory ε α) (depth : Nat) :
    Desk α → List (Request α) → List (Deed ε α) → List (Ending ε (Reply α)) → Desk α → Prop where
  /-- Nothing is requested. -/
  | nil {d : Desk α} : Visits f depth d [] [] [] d
  /-- One request is served, then the others. -/
  | cons {d d₁ d₂ : Desk α} {r : Request α} {requests : List (Request α)} {J K : List (Deed ε α)}
      {e : Ending ε (Reply α)} {es : List (Ending ε (Reply α))} (h : Serves f depth d r J e d₁)
      (hs : Visits f depth d₁ requests K es d₂) :
      Visits f depth d (r :: requests) (J ++ K) (e :: es) d₂

/-- **A list of requests does what visiting the desk with it does.** -/
theorem exists_visits (f : Factory ε α) (depth : Nat) (requests : List (Request α))
    (s : Scene (Desk α) (Deed ε α)) :
    ∃ J d', Visits f depth s.state requests J (endings f depth requests s) d' ∧
      visit f depth requests s = ⟨d', s.journal ++ J.toArray⟩ := by
  induction requests generalizing s with
  | nil => exact ⟨[], s.state, .nil, by simp [visit]⟩
  | cons r requests ih =>
    obtain ⟨J, e, d, h⟩ := exists_serves f depth s.state r
    have hserve : serve f depth r s = (e, ⟨d, s.journal ++ J.toArray⟩) := h.serve_eq s.journal
    obtain ⟨K, d', hs, heq⟩ := ih (serve f depth r s).2
    rw [hserve] at hs heq
    refine ⟨J ++ K, d', ?_, ?_⟩
    · simp only [endings, hserve]
      exact .cons h hs
    · have hvisit : visit f depth (r :: requests) s =
          visit f depth requests (serve f depth r s).2 := rfl
      rw [hvisit, hserve, heq]
      simp

end Desk

/-! ## The beginning -/

/-- What is noted when a new pool has grown to its initial size. -/
def readyDeeds (kind : Kind) (initial : UInt64) : Ending ε Unit → List (Deed ε α)
  | .ok () => [.reported (Report.ready kind initial)]
  | _ => []

/-- **A pool is built by a growth.** -/
theorem exists_opening (f : Factory ε α) (kind : Kind) (depth : Nat) (initial : UInt64) :
    ∃ J e, Runs f depth (.grow initial) (.empty kind) J e ∧
      f.build kind depth initial =
        (e, record (.fresh (.empty kind)) (J ++ readyDeeds kind initial e)) := by
  obtain ⟨J, e, heq, h⟩ := exists_runs f depth (.grow initial) (.fresh (.empty kind))
  refine ⟨J, e, h, ?_⟩
  have hgrow : f.grow depth initial (.fresh (.empty kind)) = _ := heq
  have hkind : ((empty kind : Pool α).after J).kind = kind := by
    rw [kind_after]
    exact Idle.kind_empty kind
  rw [record_append]
  simp only [Factory.build, Factory.fill, Act.bind_apply, hgrow]
  cases e with
  | ok => simp only [Act.state_apply, state_record, Scene.fresh, hkind]; rfl
  | _ => rfl

/-- The desk of a pool that was just built, with the journal of its building. -/
def Desk.opened (f : Factory ε α) (kind : Kind) (depth : Nat) (initial : UInt64) :
    Scene (Desk α) (Deed ε α) :=
  let built := (f.build kind depth initial).2
  ⟨{ pool := built.state }, built.journal⟩

/-- The scene that a session leaves: a pool is built, then requests are served. -/
def session (f : Factory ε α) (kind : Kind) (depth : Nat) (initial : UInt64)
    (requests : List (Request α)) : Scene (Desk α) (Deed ε α) :=
  Desk.visit f depth requests (Desk.opened f kind depth initial)

/-- **A session is the building of a pool and a list of requests.** -/
theorem exists_session (f : Factory ε α) (kind : Kind) (depth : Nat) (initial : UInt64)
    (requests : List (Request α)) :
    ∃ J K d, Runs f depth (.grow initial) (.empty kind) J (f.build kind depth initial).1 ∧
      Desk.opened f kind depth initial =
        ⟨⟨(empty kind).after (J ++ readyDeeds kind initial (f.build kind depth initial).1), #[]⟩,
          (J ++ readyDeeds kind initial (f.build kind depth initial).1).toArray⟩ ∧
      Desk.Visits f depth (Desk.opened f kind depth initial).state requests K
        (Desk.endings f depth requests (Desk.opened f kind depth initial)) d ∧
      session f kind depth initial requests =
        ⟨d, (J ++ readyDeeds kind initial (f.build kind depth initial).1 ++ K).toArray⟩ := by
  obtain ⟨J, e, h, hbuild⟩ := exists_opening f kind depth initial
  obtain ⟨K, d, hvisits, hvisit⟩ :=
    Desk.exists_visits f depth requests (Desk.opened f kind depth initial)
  have hopened : Desk.opened f kind depth initial =
      ⟨⟨(empty kind).after (J ++ readyDeeds kind initial e), #[]⟩,
        (J ++ readyDeeds kind initial e).toArray⟩ := by
    simp [Desk.opened, hbuild, Scene.fresh]
  rw [hbuild]
  refine ⟨J, K, d, h, hopened, hvisits, ?_⟩
  rw [session, hvisit, hopened]
  simp

/-! ## Planned factories -/

/-- **What holds of the scripts of planned factories** is shown step by step. -/
theorem Action.script_induction {motive : Script String Tagged → Prop}
    (make : ∀ a, motive (.make a)) (fail : ∀ e, motive (.fail e)) (panic : ∀ m, motive (.panic m))
    (release : ∀ a next, motive next → motive (.release a next))
    (grow : ∀ count next, motive next → motive (.grow count (.orStop fun _ => next)))
    (get : motive (.get (.orStop .make))) (number : Nat) (action : Action) :
    motive (action.script number) := by
  cases action with
  | make => exact make _
  | fail e => exact fail e
  | panic m => exact panic m
  | use release? grow? wanted =>
    have hlast : motive ((Action.use none none wanted).script number) := by
      cases wanted with
      | true => exact get
      | false => exact make _
    have hmiddle : motive ((Action.use none grow? wanted).script number) := by
      cases grow? with
      | none => exact hlast
      | some count => exact grow count _ hlast
    cases release? with
    | none => exact hmiddle
    | some a => exact release a _ hmiddle

end Pool

end ConverterKit
