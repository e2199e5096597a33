import ConverterKit.Proofs.Pool.Counters

/-!
# What is noted is what was asked

The journal of a pool is written by the operations of the pool, so by itself it does not say how
often they were used. Here the uses are counted where they are made: by whoever visits the desk, and
by the scripts of factory calls, which are followed step by step. What a get or a call came to is
told by how it ended, and nothing is taken from the journal. Then the journal is shown to agree, and
the counters of a pool turn out to count what was asked of it.

## Main definitions

* `Usage`: how often a pool was asked for something, and what came of it
* `noted`: how often the journal says so
* `Script.asked`, `Factory.asked`, `Task.asked`: what is asked in the course of an operation
* `Desk.asked`, `sessionAsked`: what is asked in the course of a session

## Main results

* `Runs.noted_eq`: the deeds of a run are what was asked in the course of it
* `noted_session`: so are those of a session
* `counters_count_usage`: the counters of a pool count what was asked of it
-/

namespace ConverterKit

namespace Pool

variable {ε α β : Type}

/-! ## Counting -/

/-- How often a pool was asked for something, and what came of it. -/
structure Usage where
  /-- Gets that handed out an instance. -/
  got : Nat := 0
  /-- Releases. -/
  released : Nat := 0
  /-- Calls of the factory. -/
  calls : Nat := 0
  /-- Calls of the factory that returned an error. -/
  failed : Nat := 0
  /-- Calls of the factory that panicked. -/
  panicked : Nat := 0
deriving DecidableEq

namespace Usage

instance : Zero Usage := ⟨{}⟩

instance : Add Usage where
  add r s := ⟨r.got + s.got, r.released + s.released, r.calls + s.calls, r.failed + s.failed,
    r.panicked + s.panicked⟩

/-- A get that ended like this. -/
def ofGet : Ending ε α → Usage
  | .ok _ => { got := 1 }
  | _ => 0

/-- A call of the factory that ended like this. -/
def ofCall : Ending ε α → Usage
  | .error _ => { calls := 1, failed := 1 }
  | .panicked _ => { calls := 1, panicked := 1 }
  | _ => { calls := 1 }

/-- A release. -/
def ofRelease : Usage := { released := 1 }

@[simp] theorem mk_add_mk (got released calls failed panicked : Nat)
    (got' released' calls' failed' panicked' : Nat) :
    (⟨got, released, calls, failed, panicked⟩ : Usage) +
        ⟨got', released', calls', failed', panicked'⟩ =
      ⟨got + got', released + released', calls + calls', failed + failed',
        panicked + panicked'⟩ := rfl

@[simp] theorem add_zero (u : Usage) : u + 0 = u := rfl

@[simp] theorem zero_add (u : Usage) : 0 + u = u := by
  show (⟨0, 0, 0, 0, 0⟩ : Usage) + u = u
  rw [mk_add_mk]
  simp

end Usage

/-! ## What is asked -/

section

variable (instanceSize : Nat) (call : Work ε α α) (within : Pool α → Usage)

/-- What is asked when an instance is got, where a call of the factory asks for that much. -/
def askedByGet (p : Pool α) : Usage :=
  (match p.idle.pop? with
    | some _ => 0
    | none => within p) + .ofGet (get call (.fresh p)).1

/-- What is asked when instances are added one at a time. -/
def askedByAdd : Nat → Pool α → Usage
  | 0, _ => 0
  | n + 1, p => within p +
    match addNew call 1 (.fresh p) with
    | (.ok (), t) => askedByAdd n t.state
    | _ => 0

/-- What is asked when the pool is grown. -/
def askedByGrow (count : UInt64) (p : Pool α) : Usage :=
  match (reserve instanceSize count : Work ε α Unit) (.fresh p) with
  | (.ok (), _) => askedByAdd call within count.toNat p
  | _ => 0

/-- What is asked by a script, and by the calls of the factory to which that leads. -/
def Script.asked : Script ε α → Pool α → Usage
  | .make _, _ | .fail _, _ | .panic _, _ => 0
  | .release a next, p =>
    .ofRelease + next.asked (Pool.release a (.fresh p) : Ending ε _ × _).2.state
  | .grow count next, p => askedByGrow instanceSize call within count p +
    match Pool.grow instanceSize call count (.fresh p) with
    | (g, t) => (g.caught?.map fun u => (next u).asked t.state).getD 0
  | .get next, p => askedByGet call within p +
    match Pool.get call (.fresh p) with
    | (g, t) => (g.caught?.map fun u => (next u).asked t.state).getD 0

end

/-- What is asked in the course of a call of the factory, the call itself included. -/
def Factory.asked (f : Factory ε α) : Nat → Pool α → Usage
  | 0, _ => 0
  | depth + 1, p =>
    (f.script p.calls).asked f.instanceSize (f.call depth) (f.asked depth)
      { p with calls := p.calls + 1 } + .ofCall (f.call (depth + 1) (.fresh p)).1

/-- What is asked in the course of a task, the task itself included. -/
def Task.asked (f : Factory ε α) (depth : Nat) : {β : Type} → Task ε α β → Pool α → Usage
  | _, .call, p | _, .make, p => f.asked depth p
  | _, .get, p => askedByGet (f.call depth) (f.asked depth) p
  | _, .release _, _ => .ofRelease
  | _, .add n, p => askedByAdd (f.call depth) (f.asked depth) n p
  | _, .grow count, p => askedByGrow f.instanceSize (f.call depth) (f.asked depth) count p
  | _, .play script, p => script.asked f.instanceSize (f.call depth) (f.asked depth) p

/-! ## What is noted -/

/-- How often a journal says that something was asked. -/
def noted (J : List (Deed ε α)) : Usage where
  got := occurrences .got J
  released := occurrences .released J
  calls := occurrences .began J
  failed := occurrences .failed J
  panicked := occurrences .panicked J

theorem noted_nil : noted ([] : List (Deed ε α)) = 0 := rfl

theorem noted_append (J K : List (Deed ε α)) : noted (J ++ K) = noted J + noted K := by
  simp [noted]

theorem noted_call (idle : Idle α) (J : List (Deed ε α)) (e : Ending ε α) :
    noted (.callBegan idle :: (J ++ [.callEnded e])) = noted J + .ofCall e := by
  cases e <;> simp [noted, Usage.ofCall, Deed.mark?]

theorem noted_failureDeeds (kind : Kind) (e : Ending ε α) : noted (failureDeeds kind e) = 0 := by
  cases e <;> rfl

theorem noted_missDeeds (kind : Kind) (e : Ending ε α) :
    noted (missDeeds kind e ++ [.getEnded e]) = .ofGet e := by
  cases e <;> rfl

theorem noted_growth (p : Pool α) (count : UInt64) (J : List (Deed ε α)) (e : Ending ε Unit) :
    noted (.growBegan count :: (J ++ (growthDeeds p count e ++ [.growEnded count e]))) =
      noted J := by
  cases e <;> simp [noted, growthDeeds, Deed.mark?]

theorem noted_releaseDeeds (a : α) :
    noted (releaseDeeds a : List (Deed ε α)) = .ofRelease := rfl

/-! ## What is noted is what was asked -/

/-- **The deeds of a run are what was asked in the course of it.** -/
theorem Runs.noted_eq {f : Factory ε α} {depth : Nat} {task : Task ε α β} {p : Pool α}
    {J : List (Deed ε α)} {e : Ending ε β} (h : Runs f depth task p J e) :
    noted J = task.asked f depth p := by
  induction h with
  | tooDeep | addedAll | makes | fails | panics => rfl
  | grewByNone =>
    simp only [Task.asked, askedByGrow]
    split <;> rfl
  | @called n p J e h ih =>
    have hcall : f.call (n + 1) (.fresh p) = _ := (Runs.called h).work_eq (.fresh p) rfl
    rw [noted_call, ih]
    simp only [Task.asked, Factory.asked, hcall]
  | made h ih =>
    rw [noted_append, noted_failureDeeds, ih]
    rfl
  | @hit n p a rest hidle =>
    have hget : Pool.get (f.call n) (.fresh p) = _ := get_of_some hidle
    simp only [Task.asked, askedByGet, hidle, hget]
    rfl
  | @missed n p J e hidle h ih =>
    have hget : Pool.get (f.call n) (.fresh p) = _ := (Runs.missed hidle h).work_eq (.fresh p) rfl
    rw [noted_append, noted_missDeeds, ih]
    simp only [Task.asked, askedByGet, hidle, hget]
  | released => exact noted_releaseDeeds _
  | @added n m p a J K e hmake h ihmake ih =>
    have hone : addNew (f.call n) 1 (.fresh p) = _ :=
      (Runs.added hmake .addedAll).work_eq (.fresh p) rfl
    have hstate : (record (.fresh p) (J ++ (additionDeeds a ++ []))).state =
        (p.after J).after (additionDeeds a : List (Deed ε α)) := by
      simp [Scene.fresh]
    rw [noted_append, noted_append, ihmake, ih]
    simp only [Task.asked, askedByAdd, hone, hstate]
    rw [show noted (additionDeeds a : List (Deed ε α)) = 0 from rfl, Usage.zero_add]
  | @addStopped n m p J e e' hmake he ih =>
    have hone : addNew (f.call n) 1 (.fresh p) = _ :=
      (Runs.addStopped hmake he : Runs f n (.add (0 + 1)) p J e').work_eq (.fresh p) rfl
    rw [ih]
    simp only [Task.asked, askedByAdd, hone]
    cases e with
    | ok a => simp [Ending.stop?] at he
    | _ =>
      obtain rfl := Option.some.inj he
      rfl
  | @growRefused n p count hcount hroom =>
    have hreserve := reserve_of_not_hasRoom (ε := ε) (s := .fresh p) hroom
    simp only [Task.asked, askedByGrow, hreserve]
    rfl
  | @grew n p count J e hcount hroom h ih =>
    have hreserve := reserve_of_hasRoom (ε := ε) (s := .fresh p) hroom
    rw [noted_growth, ih]
    simp only [Task.asked, askedByGrow, hreserve]
  | releases h ih =>
    rw [noted_append, noted_releaseDeeds, ih]
    rfl
  | @grows n p count script J K g u e hgrow hu h ihgrow ih =>
    have heq : Pool.grow f.instanceSize (f.call n) count (.fresh p) = _ :=
      hgrow.work_eq (.fresh p) rfl
    rw [noted_append, ihgrow, ih]
    simp only [Task.asked, Script.asked, heq, hu, state_record]
    rfl
  | @growStopped n p count script J g e hgrow hu he ih =>
    have heq : Pool.grow f.instanceSize (f.call n) count (.fresh p) = _ :=
      hgrow.work_eq (.fresh p) rfl
    rw [ih]
    simp only [Task.asked, Script.asked, heq, hu]
    rfl
  | @gets n p script J K g u e hget hu h ihget ih =>
    have heq : Pool.get (f.call n) (.fresh p) = _ := hget.work_eq (.fresh p) rfl
    rw [noted_append, ihget, ih]
    simp only [Task.asked, Script.asked, heq, hu, state_record]
    rfl
  | @getStopped n p script J g e hget hu he ih =>
    have heq : Pool.get (f.call n) (.fresh p) = _ := hget.work_eq (.fresh p) rfl
    rw [ih]
    simp only [Task.asked, Script.asked, heq, hu]
    rfl

/-! ## Sessions -/

namespace Desk

/-- What is asked of the pool by an errand. -/
def Errand.asked (f : Factory ε α) (depth : Nat) (p : Pool α) : Errand ε α → Usage
  | .ask _ => Task.get.asked f depth p
  | .grow count => (Task.grow count).asked f depth p
  | .give a _ => (Task.release a).asked f depth p
  | .settle _ _ => 0

/-- What is asked of the pool by a list of requests. -/
def asked (f : Factory ε α) (depth : Nat) : List (Request α) → Desk α → Usage
  | [], _ => 0
  | r :: requests, d => (d.errand r).asked f depth d.pool +
    asked f depth requests (serve f depth r (.fresh d)).2.state

variable {f : Factory ε α} {depth : Nat} {d d' : Desk α}

theorem Serves.noted_eq {r : Request α} {J : List (Deed ε α)} {e : Ending ε (Reply α)}
    (h : Serves f depth d r J e d') : noted J = (d.errand r).asked f depth d.pool := by
  cases h with
  | handedOut hr h | notHandedOut hr h | grown hr h | notGrown hr h =>
    rw [hr]
    exact h.noted_eq
  | given hr =>
    rw [hr]
    exact noted_releaseDeeds _
  | settled hr =>
    rw [hr]
    rfl

/-- **The deeds of a list of requests are what was asked by them.** -/
theorem Visits.noted_eq {requests : List (Request α)} {J : List (Deed ε α)}
    {es : List (Ending ε (Reply α))} (h : Visits f depth d requests J es d') :
    noted J = asked f depth requests d := by
  induction h with
  | nil => rfl
  | @cons d d₁ d₂ r requests J K e es h hs ih =>
    have hserve : serve f depth r (.fresh d) = _ := h.serve_eq #[]
    rw [noted_append, h.noted_eq, ih]
    simp only [asked, hserve]

end Desk

/-- What is asked in the course of a session, the building of the pool included. -/
def sessionAsked (f : Factory ε α) (kind : Kind) (depth : Nat) (initial : UInt64)
    (requests : List (Request α)) : Usage :=
  (Task.grow initial).asked f depth (.empty kind) +
    Desk.asked f depth requests (Desk.opened f kind depth initial).state

/-- **The journal of a session says what was asked in the course of it.** -/
theorem noted_session (f : Factory ε α) (kind : Kind) (depth : Nat) (initial : UInt64)
    (requests : List (Request α)) :
    noted (session f kind depth initial requests).journal.toList =
      sessionAsked f kind depth initial requests := by
  obtain ⟨J, K, d, h, -, hvisits, hsession⟩ := exists_session f kind depth initial requests
  have hready : ∀ e, noted (readyDeeds kind initial e : List (Deed ε α)) = 0 := by
    rintro (_ | _ | _ | _) <;> rfl
  rw [hsession]
  show noted (J ++ _ ++ K) = _
  rw [noted_append, noted_append, hready, Usage.add_zero, h.noted_eq, hvisits.noted_eq,
    sessionAsked]

/-- **The counters of a pool count what was asked of it**, after every session that ends. -/
theorem counters_count_usage (f : Factory ε α) (kind : Kind) (depth : Nat) (initial : UInt64)
    (requests : List (Request α)) (hbuild : (f.build kind depth initial).1 = .ok ())
    (hfinished : ∀ e ∈ Desk.endings f depth requests (Desk.opened f kind depth initial),
      e ≠ .unfinished) :
    let p := (session f kind depth initial requests).state.pool
    let usage := sessionAsked f kind depth initial requests
    p.calls = usage.calls ∧
      p.stats.created + p.stats.factoryErrors + .ofNat usage.panicked = .ofNat usage.calls ∧
      p.stats.factoryErrors = .ofNat usage.failed ∧
      p.stats.hits + p.stats.misses = .ofNat usage.got ∧
      p.stats.released = .ofNat usage.released := by
  intro p usage
  have hlapsed := session_not_lapsed (by rw [hbuild]; exact nofun) hfinished
  have hbalanced := (chronicle_session f kind depth initial requests).balanced hlapsed
  have husage : noted (session f kind depth initial requests).journal.toList = usage :=
    noted_session f kind depth initial requests
  rw [← husage]
  exact ⟨hbalanced.numbered, hbalanced.calls, hbalanced.factoryErrors, hbalanced.gets,
    hbalanced.released⟩

end Pool

end ConverterKit
