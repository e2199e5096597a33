import ConverterKit.Proofs.Resolution.Directories
import ConverterKit.Proofs.Scratch.Lending

/-!
# Messages do not influence one another

The messages of a run share two things with those before them: buffers, which a routine that
panicked may have left dirty, and ids that were kept, which may be out of date. Neither shows. What
a *plain* routine ends with, one that goes by the contents of its buffer and by the ids it is told,
is determined by what its directory tells at that moment, and can be said without a pool and without
a cache: `Routine.ending`.

So a message ends in a run as it does alone, in a new context, with a directory that has the same
services. What came before it, failures and panics included, could as well not have been.

## Main definitions

* `Routine.Plain`: routines that go by the contents of their buffer and by the ids they are told
* `Routine.ending`: what a plain routine ends with
* `Step`, `World.afterSteps`: messages, and edits of directories between them
* `World.opened`: a new context
* `World.Answers`: what names resolve to

## Main results

* `World.Serving.play`: a plain routine ends as it is said to
* `World.Serving.afterSteps`: a run leaves a world that serves, with the directories edited
* `messages_independent`: a message ends in a run as it does alone
-/

namespace ConverterKit

namespace Scratch

open Resolution (Directory Edit Session Sound directories verdict changes)

variable {κ H β ρ : Type}

/-! ## Plain routines -/

namespace Routine

/-- The routine uses one context, looks at nothing of its buffer but what is in it, and at nothing
else but the ids it is told. -/
def Plain (context : Nat) : Routine κ H β ρ → Prop
  | .finish _ => True
  | .fail _ => True
  | .panic _ => True
  | .read next => (∀ b b' : Buffer, b.bytes = b'.bytes → next b = next b') ∧
      ∀ b, (next b).Plain context
  | .edit _ next => next.Plain context
  | .serviceId _ next => ∀ upshot, (next upshot).Plain context
  | .nest context' inner next =>
    context' = context ∧ inner.Plain context ∧ ∀ upshot, (next upshot).Plain context
  | .grow .. => False
  | .stats .. => False
  | .consult .. => False

/-- What a plain routine ends with whose buffer holds these bytes, given the results for the names
it asks for. -/
def ending (results : String → Except ConversionError ServiceId) :
    Routine κ H β ρ → List UInt8 → Ending ConversionError ρ
  | .finish r, _ => .ok r
  | .fail e, _ => .error e
  | .panic m, _ => .panicked m
  | .read next, bytes => (next { number := 0, room := bytes.length, bytes }).ending results bytes
  | .edit change next, bytes => next.ending results (change bytes)
  | .serviceId name next, bytes => (next (.ok (results name))).ending results bytes
  | .nest _ inner next, bytes =>
    match inner.ending results [] with
    | .ok r => (next (.ok (.ok r))).ending results bytes
    | .error e => (next (.ok (.error e))).ending results bytes
    | .panicked m => (next (.error m)).ending results bytes
    | .unfinished => .unfinished
  | .grow .., _ => .unfinished
  | .stats .., _ => .unfinished
  | .consult .., _ => .unfinished

/-- A plain routine ends. -/
theorem Plain.ending_ne_unfinished {context : Nat} {routine : Routine κ H β ρ}
    (h : routine.Plain context) (results : String → Except ConversionError ServiceId)
    (bytes : List UInt8) : routine.ending results bytes ≠ .unfinished := by
  induction routine generalizing bytes with
  | finish | fail | panic => exact nofun
  | read next ih => exact ih _ (h.2 _) bytes
  | edit change next ih => exact ih h (change bytes)
  | serviceId name next ih => exact ih _ (h _) bytes
  | nest context' inner next ihinner ihnext =>
    have hinner := ihinner h.2.1 []
    rw [ending]
    split
    · exact ihnext _ (h.2.2 _) bytes
    · exact ihnext _ (h.2.2 _) bytes
    · exact ihnext _ (h.2.2 _) bytes
    · next heq => exact absurd heq hinner
  | grow | stats | consult => exact h.elim

end Routine

namespace World

section

variable {context : Nat} {good : Session κ H → Prop} {callbacks : Resolution.Callbacks κ H}
  {nesting : Nat} {results : String → Except ConversionError ServiceId}

/-- In a good session names have the results they are said to have, and the session stays good. -/
def Answers (callbacks : Resolution.Callbacks κ H) (nesting : Nat) (good : Session κ H → Prop)
    (results : String → Except ConversionError ServiceId) : Prop :=
  ∀ name (s : Scene (Session κ H) (Resolution.Deed κ H)), good s.state →
    ∃ t, callbacks.resolve nesting name s = (.ok (results name), t) ∧ good t.state

/-- **A plain routine ends as it is said to**, whatever buffer it is lent, if names have the results
they are said to have. -/
theorem Serving.play (hresults : Answers callbacks nesting good results)
    {routine : Routine κ H β ρ} (hplain : routine.Plain context) {loans : List Loan} {b : Buffer}
    {s : Scene (World κ H) (Deed κ H)}
    (h : Serving context (loan context b :: loans) good s.state) :
    ∃ b' t, World.play callbacks nesting routine s = (routine.ending results b.bytes, t) ∧
      Serving context (loan context b' :: loans) good t.state := by
  induction routine generalizing loans b s with
  | finish r => exact ⟨b, s, rfl, h⟩
  | fail e => exact ⟨b, s, rfl, h⟩
  | panic m => exact ⟨b, s, rfl, h⟩
  | read next ih =>
    obtain ⟨b', t, ht, hserving⟩ := ih b (hplain.2 b) h
    refine ⟨b', t, ?_, hserving⟩
    rw [World.play, Act.bind_of_ok h.buffer, ht, Routine.ending]
    rw [hplain.1 b { number := 0, room := b.bytes.length, bytes := b.bytes } rfl]
  | edit change next ih =>
    obtain ⟨u, hu, hedited⟩ := h.amend (ε := ConversionError) (Buffer.edit change)
    obtain ⟨b', t, ht, hserving⟩ := ih hplain hedited
    refine ⟨b', t, ?_, hserving⟩
    rw [World.play, Act.bind_of_ok hu, ht, Routine.ending, Buffer.bytes_edit]
  | serviceId name next ih =>
    obtain ⟨v, hv, hgood⟩ := hresults name (.fresh s.state.session) h.session
    obtain ⟨u, hu, hresolved⟩ := h.onSession (ε := ConversionError) _ hv hgood
    obtain ⟨b', t, ht, hserving⟩ := ih (.ok (results name)) (hplain _) hresolved
    refine ⟨b', t, ?_, hserving⟩
    rw [World.play, Act.bind_of_ok (Act.rescue_eq_ok_iff.mpr hu), ht, Routine.ending]
  | nest context' inner next ihinner ihnext =>
    obtain ⟨rfl, hinner, hnext⟩ := hplain
    obtain ⟨u, hu, hback⟩ := h.lend (World.play callbacks nesting inner)
      (e := inner.ending results []) fun c v hempty hlent => by
        rw [← hempty]
        exact ihinner hinner hlent
    -- however the inner routine ends, the outer one goes on with its own buffer
    have hgoes (upshot : Upshot ConversionError ρ) :
        ∃ b' t, World.play callbacks nesting (next upshot) u =
            ((next upshot).ending results b.bytes, t) ∧
          Serving context' (loan context' b' :: loans) good t.state :=
      ihnext upshot (hnext upshot) hback
    simp only [World.play, Act.bind_apply, Act.rescue_apply, Act.attempt_apply, hu, Routine.ending]
    cases inner.ending results [] with
    | ok r => exact hgoes (.ok (.ok r))
    | error e => exact hgoes (.ok (.error e))
    | panicked m => exact hgoes (.error m)
    | unfinished => exact ⟨b, u, rfl, hback⟩
  | grow | stats | consult => exact hplain.elim

/-- A plain routine that is run with a buffer ends as it does with an empty one. -/
theorem Serving.withScratch (hresults : Answers callbacks nesting good results)
    {routine : Routine κ H β ρ} (hplain : routine.Plain context) {loans : List Loan}
    {s : Scene (World κ H) (Deed κ H)} (h : Serving context loans good s.state) :
    ∃ t, World.withScratch callbacks nesting context routine s = (routine.ending results [], t) ∧
      Serving context loans good t.state :=
  h.lend _ fun b s hempty hlent => by
    rw [← hempty]
    exact Serving.play hresults hplain hlent

end

end World

/-! ## New contexts -/

namespace World

/-- A new context, with a resolver that asks the directory of this handle. -/
def opened (kind : Pool.Kind) (capacity initial : UInt64) (cacheServiceIds : Bool) (k : κ)
    (host : κ → Directory) :
    Ending Empty Unit × Scene (World κ (κ → Directory)) (Deed κ (κ → Directory)) :=
  let resolver := (Resolution.Resolver.new cacheServiceIds).register k
  openContext kind (.withRoom capacity) initial (.fresh { session := { resolver, host } })

/-- Whether a context can be opened does not depend on the directories. -/
theorem exists_opened {kind : Pool.Kind} {capacity initial : UInt64} {caching : Bool}
    {k : κ} {host : κ → Directory} {s : Scene (World κ (κ → Directory)) (Deed κ (κ → Directory))}
    (hs : opened kind capacity initial caching k host = (.ok (), s)) (host' : κ → Directory) :
    ∃ t, opened kind capacity initial caching k host' = (.ok (), t) := by
  obtain ⟨pool, hopen⟩ := openContext_eq_ok hs
  obtain ⟨t, ht, -⟩ := hopen (.fresh
    { session := { resolver := (Resolution.Resolver.new caching).register k, host := host' } })
  exact ⟨t, ht⟩

end World

/-! ## Runs of messages -/

/-- What happens in a run: messages, and edits of directories. -/
inductive Step (κ β ρ : Type) where
  /-- A routine is run with a buffer. -/
  | message (routine : Routine κ (κ → Directory) β ρ)
  /-- A directory is edited. -/
  | edit (e : Edit κ)

/-- The edit that a step makes, if it makes one. -/
def Step.edit? : Step κ β ρ → Option (Edit κ)
  | .edit e => some e
  | .message _ => none

/-- The edits made in a run. -/
def edits (steps : List (Step κ β ρ)) : List (Edit κ) := steps.filterMap Step.edit?

variable [DecidableEq κ]

/-- The directories after some edits. -/
def edited (es : List (Edit κ)) (host : κ → Directory) : κ → Directory :=
  es.foldl (fun host e => e.apply host) host

namespace World

/-- Make a step of a run, in the first context. How a message ends is no concern of the run. -/
def perform (nesting : Nat) :
    Step κ β ρ → World.Work κ (κ → Directory) Empty Unit
  | .message routine => do
    let _ ← Act.settle (withScratch (directories κ).toCallbacks nesting 0 routine)
  | .edit e => onSession do Session.setHost (e.apply (← Act.state).host)

/-- The scene after some steps. -/
def afterSteps (nesting : Nat) (steps : List (Step κ β ρ))
    (s : Scene (World κ (κ → Directory)) (Deed κ (κ → Directory))) :
    Scene (World κ (κ → Directory)) (Deed κ (κ → Directory)) :=
  steps.foldl (fun s step => (perform nesting step s).2) s

section

variable {hosts : List (κ → Directory)} {host : κ → Directory} {k : κ}
  {s : Scene (World κ (κ → Directory)) (Deed κ (κ → Directory))}

/-- The results for names that a directory stands for. -/
def told (d : Directory) (name : String) : Except ConversionError ServiceId :=
  verdict name (d.tell name)

/-- A session that keeps ids of a directory, each of which was true at one of these moments. -/
abbrev SoundAt (hosts : List (κ → Directory)) (k : κ) (host : κ → Directory)
    (s : Session κ (κ → Directory)) : Prop :=
  Sound (directories κ).toCallbacks id (fun k host => (host k).tell) hosts (some k) host s

/-- The registered directory tells what it holds, with or without a cache. -/
theorem answers_told (nesting : Nat)
    (hsteady : (directories κ).Steady id (fun k host => (host k).tell) hosts k)
    (hhost : host ∈ hosts) :
    Answers (directories κ).toCallbacks (nesting + 1) (SoundAt hosts k host) (told (host k)) :=
  fun name _ h =>
    Sound.resolve Resolution.directories_determined.toDetermined hsteady hhost
      (Nat.le_add_left 1 nesting) (Resolution.directories_tells host k k name) h

/-- **A step** leaves a world that serves, with the directories edited. -/
theorem Serving.perform (nesting : Nat) (step : Step κ β ρ)
    (hsteady : (directories κ).Steady id (fun k host => (host k).tell) hosts k)
    (hhost : host ∈ hosts)
    (hplain : ∀ routine, step = .message routine → routine.Plain 0)
    (h : Serving 0 [] (SoundAt hosts k host) s.state) :
    Serving 0 [] (SoundAt hosts k (edited step.edit?.toList host))
      (World.perform (nesting + 1) step s).2.state := by
  cases step with
  | message routine =>
    obtain ⟨t, ht, hserving⟩ := h.withScratch (answers_told nesting hsteady hhost)
      (hplain routine rfl)
    have hperform : (World.perform (nesting + 1) (.message routine) s).2 = t := by
      simp only [World.perform, Act.bind_apply, Act.settle_apply, ht, Act.pure_apply]
    rw [hperform]
    exact hserving
  | edit e =>
    have hmapping : s.state.session.host = host := h.session.mapping_host
    have hset : SoundAt hosts k (e.apply host)
        { s.state.session with host := e.apply s.state.session.host } := by
      rw [hmapping]
      exact Sound.setHost h.session (e.apply host)
    obtain ⟨t, ht, hserving⟩ := h.onSession (ε := Empty) (u := ⟨_, _⟩)
      (do Session.setHost (e.apply (← Act.state).host)) rfl hset
    have hperform : (World.perform (nesting + 1) (.edit e : Step κ β ρ) s).2 = t := by
      rw [World.perform, ht]
    rw [hperform]
    exact hserving

/-- **A run** leaves a world that serves, with the directories edited. -/
theorem Serving.afterSteps (nesting : Nat)
    (hsteady : (directories κ).Steady id (fun k host => (host k).tell) hosts k)
    {steps : List (Step κ β ρ)} (hplain : ∀ routine, .message routine ∈ steps → routine.Plain 0)
    (hhosts : ∀ h ∈ (directories κ).moments ((edits steps).map .change) host, h ∈ hosts)
    (h : Serving 0 [] (SoundAt hosts k host) s.state) :
    edited (edits steps) host ∈ hosts ∧
      Serving 0 [] (SoundAt hosts k (edited (edits steps) host))
        (World.afterSteps (nesting + 1) steps s).state := by
  induction steps generalizing host s with
  | nil => exact ⟨hhosts host (by simp [edits, Resolution.Surroundings.moments]), h⟩
  | cons step steps ih =>
    have hhost : host ∈ hosts := hhosts host ((directories κ).mem_moments_start _ _)
    have hstep := h.perform nesting step hsteady hhost fun routine heq =>
      hplain routine (heq ▸ List.mem_cons_self)
    have hrest : ∀ routine, .message routine ∈ steps → routine.Plain 0 := fun routine hmem =>
      hplain routine (List.mem_cons_of_mem _ hmem)
    cases step with
    | message routine => exact ih hrest hhosts hstep
    | edit e => exact ih hrest (fun h hh => hhosts h (List.mem_cons_of_mem _ hh)) hstep

/-- A new context serves. -/
theorem serving_opened {kind : Pool.Kind} {capacity initial : UInt64} {caching : Bool}
    (hcapacity : capacity.toNat < 2 ^ 63)
    (hs : opened kind capacity initial caching k host = (.ok (), s)) :
    Serving 0 [] (SoundAt hosts k host) s.state := by
  obtain ⟨pool, hopen⟩ := openContext_eq_ok hs
  obtain ⟨t, ht, hstate⟩ := hopen _
  obtain rfl : t = s := (Prod.mk.inj (ht.symm.trans hs)).2
  rw [hstate]
  exact ⟨⟨_, rfl, Supply.roomy_withRoom hcapacity⟩, rfl, (Sound.start caching host).register k⟩

end

/-- **Messages do not influence one another.** Take a new context whose buffers can be made, and a
directory that is altered less than `2 ^ 64` times. After any run of messages and edits a message
does end, and it ends as it does alone, in another new context, with any directory that has the
services of that moment; and it ends so whatever other messages were run between the same edits, or
none at all. -/
theorem messages_independent (kind : Pool.Kind) (capacity initial : UInt64)
    (hcapacity : capacity.toNat < 2 ^ 63) (caching : Bool) (k : κ) (host : κ → Directory)
    (nesting : Nat) (s : Scene (World κ (κ → Directory)) (Deed κ (κ → Directory)))
    (hs : opened kind capacity initial caching k host = (.ok (), s)) (steps : List (Step κ β ρ))
    (hsteps : ∀ routine, .message routine ∈ steps → routine.Plain 0)
    (hfew : changes k ((edits steps).map .change) host < 2 ^ 64)
    (routine : Routine κ (κ → Directory) β ρ) (hroutine : routine.Plain 0) :
    let now := afterSteps (nesting + 1) steps s
    let result := (withScratch (directories κ).toCallbacks (nesting + 1) 0 routine now).1
    result ≠ .unfinished ∧
    (∀ host', (now.state.session.host k).Same (host' k) →
      ∃ t, opened kind capacity initial caching k host' = (.ok (), t) ∧
        (withScratch (directories κ).toCallbacks (nesting + 1) 0 routine t).1 = result) ∧
    ∀ others : List (Step κ β ρ), (∀ routine, .message routine ∈ others → routine.Plain 0) →
      edits others = edits steps →
        (withScratch (directories κ).toCallbacks (nesting + 1) 0 routine
          (afterSteps (nesting + 1) others s)).1 = result := by
  intro now result
  have hserving : ∀ steps' : List (Step κ β ρ),
      (∀ routine, .message routine ∈ steps' → routine.Plain 0) → edits steps' = edits steps →
      (afterSteps (nesting + 1) steps' s).state.session.host = edited (edits steps) host ∧
        (withScratch (directories κ).toCallbacks (nesting + 1) 0 routine
            (afterSteps (nesting + 1) steps' s)).1 =
          routine.ending (told (edited (edits steps) host k)) [] := by
    intro steps' hsteps' hedits
    have hsteady := Resolution.directories_steady hfew
    rw [← hedits] at hsteady ⊢
    obtain ⟨hhost, hafter⟩ := (serving_opened hcapacity hs).afterSteps nesting hsteady hsteps'
      fun _ hh => hh
    obtain ⟨t, ht, -⟩ := hafter.withScratch (answers_told nesting hsteady hhost) hroutine
    exact ⟨hafter.session.mapping_host, by rw [ht]⟩
  have hnow : now.state.session.host = edited (edits steps) host := (hserving steps hsteps rfl).1
  have hresult : result = routine.ending (told (edited (edits steps) host k)) [] :=
    (hserving steps hsteps rfl).2
  refine ⟨?_, fun host' hsame => ?_, fun others hothers hedits =>
    (hserving others hothers hedits).2.trans hresult.symm⟩
  · rw [hresult]
    exact hroutine.ending_ne_unfinished _ _
  obtain ⟨t, ht⟩ := exists_opened hs host'
  have halone : Serving 0 [] (SoundAt [host'] k host') t.state := serving_opened hcapacity ht
  have hsteady : (directories κ).Steady id (fun k host => (host k).tell) [host'] k := by
    intro h hh h' hh' _ _ _ name
    rw [List.mem_singleton.mp hh, List.mem_singleton.mp hh']
  obtain ⟨u, hu, -⟩ := halone.withScratch
    (answers_told nesting hsteady List.mem_cons_self) hroutine
  have htold : told (host' k) = told (edited (edits steps) host k) := by
    rw [hnow] at hsame
    exact funext fun name => congrArg (verdict name) (hsame.tell name)
  exact ⟨t, ht, by rw [hu, htold, hresult]⟩

/-- A routine that writes a mark and the id of "A" after what is in its buffer. -/
def stamp : Routine Unit (Unit → Directory) Unit (List UInt8) :=
  .edit (· ++ [1]) <| .serviceId "A" <| .orPanic fun result =>
    match result with
    | .ok id => .edit (· ++ [id.toUInt8]) (.read fun b => .finish b.bytes)
    | .error e => .fail e

/-- A routine that panics with its buffer full of rubbish, after another one has run inside it. -/
def spill : Routine Unit (Unit → Directory) Unit (List UInt8) :=
  .edit (fun _ => [7, 7, 7]) (.nest 0 stamp fun _ => .panic "spilled")

theorem plain_stamp : stamp.Plain 0 := by
  rintro (message | error | id)
  · exact trivial
  · exact trivial
  · exact ⟨fun b b' h => congrArg Routine.finish h, fun _ => trivial⟩

theorem plain_spill : spill.Plain 0 := ⟨rfl, plain_stamp, fun _ => trivial⟩

/-- A directory with one service. -/
def listing (id : ServiceId) : Unit → Directory := fun _ => .ofList [("A", id)]

/-- Messages that leave rubbish in their buffers and an id in the cache that is then replaced. -/
def spilling : List (Step Unit Unit (List UInt8)) :=
  [.message spill, .message stamp, .edit (.insert () "A" 2), .message spill]

/-- After all that a message ends as it does alone, with a clean buffer and the new id. -/
theorem messages_independent_spilling :
    (withScratch (directories Unit).toCallbacks 1 0 stamp
        (afterSteps 1 spilling (opened .stack 16 1 true () (listing 1)).2)).1 = .ok [1, 2] ∧
      ∃ t, opened .stack 16 1 true () (listing 2) = (.ok (), t) ∧
        (withScratch (directories Unit).toCallbacks 1 0 stamp t).1 = .ok [1, 2] := by
  have hopened : opened .stack 16 1 true () (listing 1) =
      (.ok (), (opened .stack 16 1 true () (listing 1)).2) := Prod.ext (by decide +kernel) rfl
  have hplain : ∀ routine, .message routine ∈ spilling → routine.Plain 0 := by
    intro routine hmem
    simp only [spilling, List.mem_cons, Step.message.injEq, List.not_mem_nil, or_false,
      reduceCtorEq, false_or] at hmem
    rcases hmem with rfl | rfl | rfl
    · exact plain_spill
    · exact plain_stamp
    · exact plain_spill
  have hresult : (withScratch (directories Unit).toCallbacks 1 0 stamp
      (afterSteps 1 spilling (opened .stack 16 1 true () (listing 1)).2)).1 = .ok [1, 2] := by
    decide +kernel
  obtain ⟨-, halone, -⟩ := messages_independent .stack 16 1 (by decide) true () (listing 1) 0 _
    hopened spilling hplain (by decide) stamp plain_stamp
  obtain ⟨t, ht, heq⟩ := halone (listing 2) (by decide +kernel)
  exact ⟨hresult, t, ht, heq.trans hresult⟩

end World

end Scratch

end ConverterKit
