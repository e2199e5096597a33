import ConverterKit.Proofs.Pool.Journal

/-!
# What the operations of a pool do, as a relation

The operations of a pool call the factory, whose calls use the operations. `Runs` describes all of
them at once, as the ways in which a *task* can turn out: by the pool it starts with, the deeds it
adds to the journal and the way it ends. Where a task ends without a value it was stopped by what
it called last, and has undone nothing.

A law about pools is proved by induction on `Runs`, one case for each thing that can happen, and
holds of the operations because these do what `Runs` says and nothing else.

## Main definitions

* `Task`, `Task.work`: an operation with its arguments, and the act it stands for
* `Runs`: how a task can turn out

## Main results

* `exists_runs`: whatever a task does is a run of it
* `Runs.work_eq`: and conversely, so there is exactly one way for a task to turn out
-/

namespace ConverterKit

namespace Pool

variable {ε α β : Type}

/-- What can be asked of a pool or of its factory, with the type of the value it ends with. -/
inductive Task (ε α : Type) : Type → Type where
  /-- A call of the factory. -/
  | call : Task ε α α
  /-- A call of the factory whose error is counted. -/
  | make : Task ε α α
  /-- A get. -/
  | get : Task ε α α
  /-- The release of an instance. -/
  | release (a : α) : Task ε α Unit
  /-- The adding of new instances, one at a time. -/
  | add (n : Nat) : Task ε α Unit
  /-- A growth. -/
  | grow (count : UInt64) : Task ε α Unit
  /-- The script of a call, or what is left of it. -/
  | play (script : Script ε α) : Task ε α α

/-- The act a task stands for. -/
def Task.work (f : Factory ε α) (depth : Nat) : {β : Type} → Task ε α β → Work ε α β
  | _, .call => f.call depth
  | _, .make => manufacture (f.call depth)
  | _, .get => Pool.get (f.call depth)
  | _, .release a => Pool.release a
  | _, .add n => addNew (f.call depth) n
  | _, .grow count => Pool.grow f.instanceSize (f.call depth) count
  | _, .play script => script.play f.instanceSize (f.call depth)

/-- How a task turns out: at what depth of nesting, from which pool, with which deeds and with
which ending. -/
inductive Runs (f : Factory ε α) :
    Nat → {β : Type} → Task ε α β → Pool α → List (Deed ε α) → Ending ε β → Prop where
  /-- No call is made where no further nesting is allowed. -/
  | tooDeep {p : Pool α} : Runs f 0 .call p [] .unfinished
  /-- A call plays the script with its number. -/
  | called {n : Nat} {p : Pool α} {J : List (Deed ε α)} {e : Ending ε α}
      (h : Runs f n (.play (f.script p.calls)) { p with calls := p.calls + 1 } J e) :
      Runs f (n + 1) .call p (.callBegan p.idle :: (J ++ [.callEnded e])) e
  /-- An error of a call is counted. -/
  | made {n : Nat} {p : Pool α} {J : List (Deed ε α)} {e : Ending ε α} (h : Runs f n .call p J e) :
      Runs f n .make p (J ++ failureDeeds p.kind e) e
  /-- A get is served from the idle instances if there are any. -/
  | hit {n : Nat} {p : Pool α} {a : α} {rest : Idle α} (h : p.idle.pop? = some (a, rest)) :
      Runs f n .get p [.served a, .counted .hit, .getEnded (.ok a)] (.ok a)
  /-- A get from an empty pool ends as the factory call does. -/
  | missed {n : Nat} {p : Pool α} {J : List (Deed ε α)} {e : Ending ε α}
      (hidle : p.idle.pop? = none) (h : Runs f n .make p J e) :
      Runs f n .get p (J ++ (missDeeds p.kind e ++ [.getEnded e])) e
  /-- A release adds an instance. -/
  | released {n : Nat} {p : Pool α} {a : α} : Runs f n (.release a) p (releaseDeeds a) (.ok ())
  /-- Nothing is left to add. -/
  | addedAll {n : Nat} {p : Pool α} : Runs f n (.add 0) p [] (.ok ())
  /-- One instance is added, then the others. -/
  | added {n m : Nat} {p : Pool α} {a : α} {J K : List (Deed ε α)} {e : Ending ε Unit}
      (hmake : Runs f n .make p J (.ok a))
      (h : Runs f n (.add m) ((p.after J).after (additionDeeds a : List (Deed ε α))) K e) :
      Runs f n (.add (m + 1)) p (J ++ (additionDeeds a ++ K)) e
  /-- An instance could not be made, and those after it are not. -/
  | addStopped {n m : Nat} {p : Pool α} {J : List (Deed ε α)} {e : Ending ε α}
      {e' : Ending ε Unit} (hmake : Runs f n .make p J e) (he : e.stop? = some e') :
      Runs f n (.add (m + 1)) p J e'
  /-- Growing by none does nothing. -/
  | grewByNone {n : Nat} {p : Pool α} : Runs f n (.grow 0) p [] (.ok ())
  /-- A stack cannot reserve the room. -/
  | growRefused {n : Nat} {p : Pool α} {count : UInt64} (hcount : count ≠ 0)
      (hroom : ¬ p.HasRoom f.instanceSize count) :
      Runs f n (.grow count) p
        [.growBegan count, .growEnded count (.panicked "capacity overflow")]
        (.panicked "capacity overflow")
  /-- A growth adds its instances and reports if all were added. -/
  | grew {n : Nat} {p : Pool α} {count : UInt64} {J : List (Deed ε α)} {e : Ending ε Unit}
      (hcount : count ≠ 0) (hroom : p.HasRoom f.instanceSize count)
      (h : Runs f n (.add count.toNat) p J e) :
      Runs f n (.grow count) p
        (.growBegan count :: (J ++ (growthDeeds (p.after J) count e ++ [.growEnded count e]))) e
  /-- A script returns an instance. -/
  | makes {n : Nat} {p : Pool α} {a : α} : Runs f n (.play (.make a)) p [] (.ok a)
  /-- A script reports an error. -/
  | fails {n : Nat} {p : Pool α} {reason : ε} :
      Runs f n (.play (.fail reason)) p [] (.error reason)
  /-- A script panics. -/
  | panics {n : Nat} {p : Pool α} {message : String} :
      Runs f n (.play (.panic message)) p [] (.panicked message)
  /-- A script releases an instance and goes on. -/
  | releases {n : Nat} {p : Pool α} {a : α} {script : Script ε α} {J : List (Deed ε α)}
      {e : Ending ε α}
      (h : Runs f n (.play script) (p.after (releaseDeeds a : List (Deed ε α))) J e) :
      Runs f n (.play (.release a script)) p (releaseDeeds a ++ J) e
  /-- A script grows the pool and goes on, whatever came of it. -/
  | grows {n : Nat} {p : Pool α} {count : UInt64} {script : Upshot ε Unit → Script ε α}
      {J K : List (Deed ε α)} {g : Ending ε Unit} {u : Upshot ε Unit} {e : Ending ε α}
      (hgrow : Runs f n (.grow count) p J g) (hu : g.caught? = some u)
      (h : Runs f n (.play (script u)) (p.after J) K e) :
      Runs f n (.play (.grow count script)) p (J ++ K) e
  /-- A script is stopped by a growth that nested too deep. -/
  | growStopped {n : Nat} {p : Pool α} {count : UInt64} {script : Upshot ε Unit → Script ε α}
      {J : List (Deed ε α)} {g : Ending ε Unit} {e : Ending ε α}
      (hgrow : Runs f n (.grow count) p J g) (hu : g.caught? = none) (he : g.stop? = some e) :
      Runs f n (.play (.grow count script)) p J e
  /-- A script gets an instance and goes on, whatever came of it. -/
  | gets {n : Nat} {p : Pool α} {script : Upshot ε α → Script ε α} {J K : List (Deed ε α)}
      {g : Ending ε α} {u : Upshot ε α} {e : Ending ε α} (hget : Runs f n .get p J g)
      (hu : g.caught? = some u) (h : Runs f n (.play (script u)) (p.after J) K e) :
      Runs f n (.play (.get script)) p (J ++ K) e
  /-- A script is stopped by a get that nested too deep. -/
  | getStopped {n : Nat} {p : Pool α} {script : Upshot ε α → Script ε α} {J : List (Deed ε α)}
      {g e : Ending ε α} (hget : Runs f n .get p J g) (hu : g.caught? = none)
      (he : g.stop? = some e) : Runs f n (.play (.get script)) p J e

/-! ## The operations run -/

section

variable {f : Factory ε α} {depth : Nat}

/-- Whatever the act of a task does is a run of the task. -/
def Accounted (f : Factory ε α) (depth : Nat) (task : Task ε α β) : Prop :=
  ∀ s, ∃ J e, task.work f depth s = (e, record s J) ∧ Runs f depth task s.state J e

theorem accounted_make (hcall : Accounted f depth .call) : Accounted f depth .make := by
  intro s
  obtain ⟨J, e, heq, h⟩ := hcall s
  refine ⟨_, e, ?_, .made h⟩
  refine (manufacture_of_call heq).trans ?_
  rw [record_append, state_record, kind_after]

theorem accounted_get (hmake : Accounted f depth .make) : Accounted f depth .get := by
  intro s
  rcases hidle : s.state.idle.pop? with _ | ⟨a, rest⟩
  · obtain ⟨J, e, heq, h⟩ := hmake s
    refine ⟨_, e, ?_, .missed hidle h⟩
    refine (get_of_none hidle heq).trans ?_
    rw [state_record, kind_after, ← record_append]
  · exact ⟨_, _, get_of_some hidle, .hit hidle⟩

theorem accounted_release (a : α) : Accounted f depth (.release a) := fun s =>
  ⟨_, _, release_apply s a, .released⟩

theorem accounted_add (hmake : Accounted f depth .make) (n : Nat) :
    Accounted f depth (.add n) := by
  induction n with
  | zero => exact fun s => ⟨[], _, rfl, .addedAll⟩
  | succ n ih =>
    intro s
    obtain ⟨J, e, heq, h⟩ := hmake s
    cases e with
    | ok a =>
      obtain ⟨K, e', heq', h'⟩ := ih (record (record s J) (additionDeeds a))
      rw [state_record, state_record] at h'
      refine ⟨_, e', ?_, .added h h'⟩
      rw [record_append, record_append]
      exact (addNew_succ_of_ok heq).trans heq'
    | _ => exact ⟨J, _, addNew_succ_of_stop rfl heq, .addStopped h rfl⟩

theorem accounted_grow (hmake : Accounted f depth .make) (count : UInt64) :
    Accounted f depth (.grow count) := by
  intro s
  by_cases hcount : count = 0
  · subst hcount
    exact ⟨[], _, rfl, .grewByNone⟩
  by_cases hroom : s.state.HasRoom f.instanceSize count
  · obtain ⟨J, e, heq, h⟩ := accounted_add hmake count.toNat (record s [.growBegan count])
    refine ⟨_, e, ?_, .grew hcount hroom h⟩
    have hgrowBy := growBy_of_hasRoom (s := record s [.growBegan count]) hroom heq
    refine (grow_of_growBy hcount hgrowBy).trans ?_
    rw [state_record, ← record_append, ← record_append, ← record_append]
    rfl
  · refine ⟨_, _, ?_, .growRefused hcount hroom⟩
    exact grow_of_growBy hcount (growBy_of_not_hasRoom hroom)

theorem accounted_play (hcall : Accounted f depth .call) (script : Script ε α) :
    Accounted f depth (.play script) := by
  have hmake := accounted_make hcall
  induction script with
  | make a => exact fun s => ⟨[], _, rfl, .makes⟩
  | fail reason => exact fun s => ⟨[], _, rfl, .fails⟩
  | panic message => exact fun s => ⟨[], _, rfl, .panics⟩
  | release a script ih =>
    intro s
    obtain ⟨J, e, heq, h⟩ := ih (record s (releaseDeeds a))
    rw [state_record] at h
    refine ⟨_, e, ?_, .releases h⟩
    rw [record_append]
    exact play_release.trans heq
  | grow count script ih =>
    intro s
    obtain ⟨J, g, hgrow, hJ⟩ := accounted_grow hmake count s
    rcases hu : g.caught? with _ | u
    · rcases he : (g.stop? : Option (Ending ε α)) with _ | e
      · cases g <;> simp [Ending.caught?, Ending.stop?] at hu he
      · exact ⟨J, e, play_grow_of_stop hu he hgrow, .growStopped hJ hu he⟩
    · obtain ⟨K, e, heq, h⟩ := ih u (record s J)
      rw [state_record] at h
      refine ⟨_, e, ?_, .grows hJ hu h⟩
      rw [record_append]
      exact (play_grow_of_caught hu hgrow).trans heq
  | get script ih =>
    intro s
    obtain ⟨J, g, hget, hJ⟩ := accounted_get hmake s
    rcases hu : g.caught? with _ | u
    · rcases he : (g.stop? : Option (Ending ε α)) with _ | e
      · cases g <;> simp [Ending.caught?, Ending.stop?] at hu he
      · exact ⟨J, e, play_get_of_stop hu he hget, .getStopped hJ hu he⟩
    · obtain ⟨K, e, heq, h⟩ := ih u (record s J)
      rw [state_record] at h
      refine ⟨_, e, ?_, .gets hJ hu h⟩
      rw [record_append]
      exact (play_get_of_caught hu hget).trans heq

theorem accounted_call (f : Factory ε α) (depth : Nat) : Accounted f depth .call := by
  induction depth with
  | zero => exact fun s => ⟨[], _, rfl, .tooDeep⟩
  | succ depth ih =>
    intro s
    obtain ⟨J, e, heq, h⟩ := accounted_play ih (f.script s.state.calls)
      (record s [.callBegan s.state.idle])
    refine ⟨_, e, ?_, .called h⟩
    refine (call_of_play heq).trans ?_
    rw [← record_append, ← record_append]
    rfl

/-- **Whatever a task does is a run of it.** -/
theorem exists_runs (f : Factory ε α) (depth : Nat) (task : Task ε α β)
    (s : Scene (Pool α) (Deed ε α)) :
    ∃ J e, task.work f depth s = (e, record s J) ∧ Runs f depth task s.state J e := by
  have hcall := accounted_call f depth
  have hmake := accounted_make hcall
  cases task with
  | call => exact hcall s
  | make => exact hmake s
  | get => exact accounted_get hmake s
  | release a => exact accounted_release a s
  | add n => exact accounted_add hmake n s
  | grow count => exact accounted_grow hmake count s
  | play script => exact accounted_play hcall script s

/-! ## Runs happen -/

/-- **A run of a task is what the task does** in any scene with the pool it starts from. -/
theorem Runs.work_eq {task : Task ε α β} {p : Pool α} {J : List (Deed ε α)} {e : Ending ε β}
    (h : Runs f depth task p J e) (s : Scene (Pool α) (Deed ε α)) (hs : s.state = p) :
    task.work f depth s = (e, record s J) := by
  induction h generalizing s with
  | tooDeep | released | addedAll | grewByNone | makes | fails | panics => rfl
  | called h ih =>
    subst hs
    rw [record_cons, record_append]
    exact call_of_play (ih (record s [.callBegan s.state.idle]) rfl)
  | made h ih =>
    have heq := manufacture_of_call (ih s hs)
    rwa [state_record, kind_after, hs, ← record_append] at heq
  | hit hidle => exact get_of_some (hs ▸ hidle)
  | missed hidle h ih =>
    have heq := get_of_none (hs ▸ hidle) (ih s hs)
    rwa [state_record, kind_after, hs, ← record_append] at heq
  | added hmake h ihmake ih =>
    subst hs
    rw [record_append, record_append]
    refine (addNew_succ_of_ok (ihmake s rfl)).trans (ih _ ?_)
    rw [state_record, state_record]
  | addStopped hmake he ih => exact addNew_succ_of_stop he (ih s hs)
  | growRefused hcount hroom =>
    subst hs
    exact grow_of_growBy hcount (growBy_of_not_hasRoom hroom)
  | @grew n p count J e hcount hroom h ih =>
    subst hs
    have hgrowBy := growBy_of_hasRoom (s := record s [.growBegan count]) hroom
      (ih (record s [.growBegan count]) rfl)
    refine (grow_of_growBy hcount hgrowBy).trans ?_
    rw [state_record, ← record_append, ← record_append, ← record_append]
    rfl
  | releases h ih =>
    subst hs
    rw [record_append]
    exact play_release.trans (ih _ (state_record s _))
  | grows hgrow hu h ihgrow ih =>
    subst hs
    rw [record_append]
    exact (play_grow_of_caught hu (ihgrow s rfl)).trans (ih _ (state_record s _))
  | growStopped hgrow hu he ih => exact play_grow_of_stop hu he (ih s hs)
  | gets hget hu h ihget ih =>
    subst hs
    rw [record_append]
    exact (play_get_of_caught hu (ihget s rfl)).trans (ih _ (state_record s _))
  | getStopped hget hu he ih => exact play_get_of_stop hu he (ih s hs)

end

end Pool

end ConverterKit
