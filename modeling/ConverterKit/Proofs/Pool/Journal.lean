import ConverterKit.Pool.Basic

/-!
# The journal of a pool tells its state

Every change an operation makes to a pool is noted as a deed, so the pool can be replayed from the
journal: what a deed changes is `Pool.next`, and the pool after a list of deeds is `Pool.after`.
For each operation there is an equation that says which deeds it adds, in terms of what the acts
inside of it do. Nothing later unfolds an operation.

## Main definitions

* `Pool.next`, `Pool.after`: the pool after one deed, and after many
* `Pool.record`: a scene after further deeds
* `failureDeeds`, `missDeeds`, `growthDeeds`: what is noted when a factory call, the call made by a
  get, and a growth have ended
* `HasRoom`: whether room for further instances can be reserved

## Main results

* `manufacture_of_call`, `get_of_some`, `get_of_none`, `release_apply`, `addNew_succ_of_ok`,
  `growBy_of_hasRoom`, `grow_of_growBy`, `call_of_play`: the operations, by the deeds they add
* `kind_after`: the kind of a store never changes
-/

namespace ConverterKit

namespace Ending

variable {ε α β : Type}

/-- The ending of the whole where one step ended like this and a value was needed. -/
def stop? : Ending ε α → Option (Ending ε β)
  | .ok _ => none
  | .error e => some (.error e)
  | .panicked m => some (.panicked m)
  | .unfinished => some .unfinished

/-- What code that catches errors and panics learns about the end of a step, unless there is no
going on after it. -/
def caught? : Ending ε α → Option (Upshot ε α)
  | .ok a => some (.ok (.ok a))
  | .error e => some (.ok (.error e))
  | .panicked m => some (.error m)
  | .unfinished => none

end Ending

namespace Pool

variable {ε α β : Type}

/-! ## Replaying a journal -/

/-- The pool after a deed. -/
def next (p : Pool α) : Deed ε α → Pool α
  | .callBegan _ => { p with calls := p.calls + 1 }
  | .added a => { p with idle := p.idle.push a }
  | .served _ =>
    match p.idle.pop? with
    | some (_, rest) => { p with idle := rest }
    | none => p
  | .counted t => { p with counters := p.counters.count t }
  | _ => p

/-- The pool after some deeds, oldest first. -/
def after (p : Pool α) (J : List (Deed ε α)) : Pool α := J.foldl next p

@[simp] theorem after_nil (p : Pool α) : p.after ([] : List (Deed ε α)) = p := rfl

@[simp] theorem after_cons (p : Pool α) (d : Deed ε α) (J : List (Deed ε α)) :
    p.after (d :: J) = (p.next d).after J := rfl

@[simp] theorem after_append (p : Pool α) (J K : List (Deed ε α)) :
    p.after (J ++ K) = (p.after J).after K :=
  List.foldl_append

@[simp] theorem kind_next (p : Pool α) (d : Deed ε α) : (p.next d).kind = p.kind := by
  cases d with
  | served b =>
    simp only [next]
    split
    · next h => exact Idle.kind_of_pop? h
    · rfl
  | added b => exact Idle.kind_push p.idle b
  | _ => rfl

/-- Deeds never change the kind of a store. -/
@[simp] theorem kind_after (p : Pool α) (J : List (Deed ε α)) : (p.after J).kind = p.kind := by
  induction J generalizing p with
  | nil => rfl
  | cons d J ih => exact (ih (p.next d)).trans (kind_next p d)

/-- A scene after further deeds. -/
def record (s : Scene (Pool α) (Deed ε α)) (J : List (Deed ε α)) : Scene (Pool α) (Deed ε α) :=
  J.foldl (fun t d => ⟨t.state.next d, t.journal.push d⟩) s

@[simp] theorem record_nil (s : Scene (Pool α) (Deed ε α)) : record s [] = s := rfl

@[simp] theorem record_cons (s : Scene (Pool α) (Deed ε α)) (d : Deed ε α)
    (J : List (Deed ε α)) :
    record s (d :: J) = record ⟨s.state.next d, s.journal.push d⟩ J := rfl

theorem record_append (s : Scene (Pool α) (Deed ε α)) (J K : List (Deed ε α)) :
    record s (J ++ K) = record (record s J) K :=
  List.foldl_append

@[simp] theorem state_record (s : Scene (Pool α) (Deed ε α)) (J : List (Deed ε α)) :
    (record s J).state = s.state.after J := by
  induction J generalizing s with
  | nil => rfl
  | cons d J ih => exact ih _

@[simp] theorem journal_record (s : Scene (Pool α) (Deed ε α)) (J : List (Deed ε α)) :
    (record s J).journal = s.journal ++ J.toArray := by
  induction J generalizing s with
  | nil => simp
  | cons d J ih => simp [ih]

/-! ## What the operations note -/

/-- What is noted when a factory call made for an instance has ended. -/
def failureDeeds (kind : Kind) : Ending ε α → List (Deed ε α)
  | .error _ => [.counted .failure, .reported (Report.factoryFailed kind)]
  | _ => []

/-- What is noted when the instance for a get has been asked of the factory. -/
def missDeeds (kind : Kind) : Ending ε α → List (Deed ε α)
  | .ok _ => [.counted .miss, .reported (Report.miss kind)]
  | _ => []

/-- What is noted when a growth has added its instances and left a pool. -/
def growthDeeds (p : Pool α) (count : UInt64) : Ending ε Unit → List (Deed ε α)
  | .ok () => [.reported (Report.grown p.kind count p.available)]
  | _ => []

/-- What is noted when an instance is released. -/
def releaseDeeds (a : α) : List (Deed ε α) := [.added a, .counted .release, .released a]

/-- What is noted when a growth adds an instance. -/
def additionDeeds (a : α) : List (Deed ε α) := [.added a, .counted .growth]

/-- Whether a pool has room for further instances. -/
def HasRoom (instanceSize : Nat) (count : UInt64) (p : Pool α) : Prop :=
  match p.idle with
  | .stack items => items.length + count.toNat < UInt64.size ∧
    (items.length + count.toNat) * instanceSize ≤ reservable
  | .queue _ _ => True

/-- An empty pool has room for what can be reserved at once, if it is a stack. -/
theorem hasRoom_empty_iff {kind : Kind} {instanceSize : Nat} {count : UInt64} :
    (Pool.empty kind : Pool α).HasRoom instanceSize count ↔
      (kind = .stack → count.toNat * instanceSize ≤ reservable) := by
  cases kind with
  | stack =>
    show 0 + count.toNat < UInt64.size ∧ (0 + count.toNat) * instanceSize ≤ reservable ↔ _
    rw [Nat.zero_add]
    exact ⟨fun h _ => h.2, fun h => ⟨count.toNat_lt, h rfl⟩⟩
  | queue => exact ⟨fun _ => nofun, fun _ => trivial⟩

section

variable {call : Work ε α α} {s t : Scene (Pool α) (Deed ε α)} {instanceSize : Nat}
  {count : UInt64}

theorem manufacture_of_call {e : Ending ε α} (h : call s = (e, t)) :
    manufacture call s = (e, record t (failureDeeds t.state.kind e)) := by
  cases e <;> simp only [manufacture, Act.bind_apply, Act.settle_apply, h] <;> rfl

theorem get_of_some {a : α} {rest : Idle α} (hidle : s.state.idle.pop? = some (a, rest)) :
    get call s = (.ok a, record s [.served a, .counted .hit, .getEnded (.ok a)]) := by
  have hserve : serve s = (.ok (some a), record s [.served a]) := by
    simp only [serve, Act.bind_apply, Act.state_apply, hidle, record_cons, record_nil, next]
    rfl
  simp only [get, getOne, Act.bind_apply, Act.settle_apply, hserve]
  rfl

theorem get_of_none {e : Ending ε α} (hidle : s.state.idle.pop? = none)
    (h : manufacture call s = (e, t)) :
    get call s = (e, record t (missDeeds t.state.kind e ++ [.getEnded e])) := by
  have hserve : serve (ε := ε) s = (.ok none, s) := by
    simp only [serve, Act.bind_apply, Act.state_apply, hidle]
    rfl
  cases e <;> simp only [get, getOne, Act.bind_apply, Act.settle_apply, hserve, h] <;> rfl

theorem release_apply (s : Scene (Pool α) (Deed ε α)) (a : α) :
    (release a : Work ε α Unit) s = (.ok (), record s (releaseDeeds a)) := rfl

theorem addNew_succ_of_ok {n : Nat} {a : α} (h : manufacture call s = (.ok a, t)) :
    addNew call (n + 1) s = addNew call n (record t (additionDeeds a)) := by
  simp only [addNew, Act.bind_apply, h]
  rfl

theorem addNew_succ_of_stop {n : Nat} {e : Ending ε α} {e' : Ending ε Unit}
    (he : e.stop? = some e') (h : manufacture call s = (e, t)) :
    addNew call (n + 1) s = (e', t) := by
  cases e with
  | ok a => simp [Ending.stop?] at he
  | _ =>
    obtain rfl := Option.some.inj he
    simp only [addNew, Act.bind_apply, h]

theorem reserve_of_hasRoom (h : s.state.HasRoom instanceSize count) :
    (reserve instanceSize count : Work ε α Unit) s = (.ok (), s) := by
  rcases hidle : s.state.idle with items | ⟨line, tally⟩
  · simp only [HasRoom, hidle] at h
    have hfits : ¬(UInt64.size ≤ items.length + count.toNat ∨
        reservable < (items.length + count.toNat) * instanceSize) := by omega
    simp only [reserve, Act.bind_apply, Act.state_apply, hidle, if_neg hfits, Act.pure_apply]
  · simp only [reserve, Act.bind_apply, Act.state_apply, hidle, Act.pure_apply]

theorem reserve_of_not_hasRoom (h : ¬ s.state.HasRoom instanceSize count) :
    (reserve instanceSize count : Work ε α Unit) s = (.panicked "capacity overflow", s) := by
  rcases hidle : s.state.idle with items | ⟨line, tally⟩
  · simp only [HasRoom, hidle] at h
    have hexceeds : UInt64.size ≤ items.length + count.toNat ∨
        reservable < (items.length + count.toNat) * instanceSize := by omega
    simp only [reserve, Act.bind_apply, Act.state_apply, hidle, if_pos hexceeds, Act.panic_apply]
  · exact absurd (by simp only [HasRoom, hidle]) h

theorem growBy_of_hasRoom {e : Ending ε Unit} (hroom : s.state.HasRoom instanceSize count)
    (h : addNew call count.toNat s = (e, t)) :
    growBy instanceSize call count s = (e, record t (growthDeeds t.state count e)) := by
  cases e <;> simp only [growBy, Act.bind_apply, reserve_of_hasRoom hroom, h] <;> rfl

theorem growBy_of_not_hasRoom (hroom : ¬ s.state.HasRoom instanceSize count) :
    growBy instanceSize call count s = (.panicked "capacity overflow", s) := by
  simp only [growBy, Act.bind_apply, reserve_of_not_hasRoom hroom]

theorem grow_of_growBy {e : Ending ε Unit} (hcount : count ≠ 0)
    (h : growBy instanceSize call count (record s [.growBegan count]) = (e, t)) :
    grow instanceSize call count s = (e, record t [.growEnded count e]) := by
  have hnote : (Act.note (.growBegan count) : Work ε α Unit) s =
      (.ok (), record s [.growBegan count]) := rfl
  have hsettle : (Act.settle (growBy instanceSize call count) : Work ε α (Ending ε Unit))
      (record s [.growBegan count]) = (.ok e, t) := by
    rw [Act.settle_apply, h]
  simp only [grow, if_neg hcount]
  rw [Act.bind_of_ok hnote, Act.bind_of_ok hsettle]
  rfl

theorem call_of_play {f : Factory ε α} {depth : Nat} {e : Ending ε α}
    (h : (f.script s.state.calls).play f.instanceSize (f.call depth)
      (record s [.callBegan s.state.idle]) = (e, t)) :
    f.call (depth + 1) s = (e, record t [.callEnded e]) := by
  have hsettle : (Act.settle ((f.script s.state.calls).play f.instanceSize (f.call depth)) :
      Work ε α (Ending ε α)) (record s [.callBegan s.state.idle]) = (.ok e, t) := by
    rw [Act.settle_apply, h]
  show ((Act.settle ((f.script s.state.calls).play f.instanceSize (f.call depth)) >>=
    fun ending => do
      Act.note (.callEnded ending)
      Act.conclude ending : Work ε α α)) (record s [.callBegan s.state.idle]) = _
  rw [Act.bind_of_ok hsettle]
  rfl

theorem play_release {script : Script ε α} {a : α} :
    (Script.release a script).play instanceSize call s =
      script.play instanceSize call (record s (releaseDeeds a)) := by
  show (release a >>= fun _ => script.play instanceSize call) s = _
  rw [Act.bind_of_ok (release_apply s a)]

theorem play_grow_of_caught {script : Upshot ε Unit → Script ε α} {e : Ending ε Unit}
    {u : Upshot ε Unit} (hu : e.caught? = some u)
    (h : grow instanceSize call count s = (e, t)) :
    (Script.grow count script).play instanceSize call s =
      (script u).play instanceSize call t := by
  simp only [Script.play, Act.bind_apply, Act.rescue_apply, Act.attempt_apply, h]
  cases e <;> simp_all [Ending.caught?]

theorem play_grow_of_stop {script : Upshot ε Unit → Script ε α} {e : Ending ε Unit}
    {e' : Ending ε α} (hu : e.caught? = none) (he : e.stop? = some e')
    (h : grow instanceSize call count s = (e, t)) :
    (Script.grow count script).play instanceSize call s = (e', t) := by
  simp only [Script.play, Act.bind_apply, Act.rescue_apply, Act.attempt_apply, h]
  cases e <;> simp_all [Ending.caught?, Ending.stop?]

theorem play_get_of_caught {script : Upshot ε α → Script ε α} {e : Ending ε α}
    {u : Upshot ε α} (hu : e.caught? = some u) (h : get call s = (e, t)) :
    (Script.get script).play instanceSize call s = (script u).play instanceSize call t := by
  simp only [Script.play, Act.bind_apply, Act.rescue_apply, Act.attempt_apply, h]
  cases e <;> simp_all [Ending.caught?]

theorem play_get_of_stop {script : Upshot ε α → Script ε α} {e e' : Ending ε α}
    (hu : e.caught? = none) (he : e.stop? = some e') (h : get call s = (e, t)) :
    (Script.get script).play instanceSize call s = (e', t) := by
  simp only [Script.play, Act.bind_apply, Act.rescue_apply, Act.attempt_apply, h]
  cases e <;> simp_all [Ending.caught?, Ending.stop?]

end

end Pool

end ConverterKit
