import ConverterKit.Proofs.Pool.Handling

/-!
# A guard gives its instance back once or never

A guard is made by a checkout and ends when it is dropped or its instance is taken out of it. Until
then it has the instance it was made for, with what was done to it through the guard and nothing
else. Dropped, it makes one release of the instance as it is by then; an instance taken out is not
released. That each of this happens at most once is said by counting, slot by slot: as many guards
were made as were dropped, were detached or are still there, and that is at most one.

A user who panics drops guards in the same way, one after the other, so what an unwinding does is a
list of requests like any other. A change that was broken off by a panic is a change as well.

With a factory that leaves the pool alone it follows that the releases a pool has counted are those
the user made and those of dropped guards, and that what was handed out or brought was released or
is outstanding.

## Main definitions

* `Guarded`: every guard has its instance, and each was made once and has ended at most once
* `GuardsKept`: how guards behave from one moment on
* `Reckoned`: what the counters of a pool say of guards and releases

## Main results

* `Desk.Handles.guarded`: whatever a request does to the slots keeps the guards in order
* `Desk.holder_visit_of_guarded`: what a guard has after a list of requests
* `guards_give_back_once`: a guard gives its instance back once or never
-/

namespace ConverterKit

namespace Pool

variable {ε α : Type}

/-! ## What is in a guard -/

/-- What a request makes of an instance under a guard that stays. -/
def Request.amendAt (slot : Nat) (a : α) : Request α → α
  | .amend i change => if i = slot then change a else a
  | _ => a

/-- A guard stays unless it is dropped or detached. -/
theorem Request.turnAt_guarded {r : Request α} {slot : Nat} (hdrop : r ≠ .drop slot)
    (hdetach : r ≠ .detach slot) (a : α) :
    Request.turnAt slot (.guarded ⟨some a⟩) r = .guarded ⟨some (r.amendAt slot a)⟩ := by
  cases r with
  | get | checkout | grow | bring => rfl
  | release i | releaseCopy i | look i =>
    by_cases hi : i = slot <;> simp [turnAt, slot?, hi, turn, amendAt]
  | drop i =>
    have hi : i ≠ slot := fun hi => hdrop (congrArg _ hi)
    simp [turnAt, slot?, hi, amendAt]
  | detach i =>
    have hi : i ≠ slot := fun hi => hdetach (congrArg _ hi)
    simp [turnAt, slot?, hi, amendAt]
  | amend i change => by_cases hi : i = slot <;> simp [turnAt, slot?, hi, turn, amendAt]

theorem foldl_turnAt_guarded {slot : Nat} (requests : List (Request α))
    (hstays : ∀ r ∈ requests, r ≠ .drop slot ∧ r ≠ .detach slot) (a : α) :
    requests.foldl (Request.turnAt slot) (.guarded ⟨some a⟩) =
      .guarded ⟨some (requests.foldl (Request.amendAt slot) a)⟩ := by
  induction requests generalizing a with
  | nil => rfl
  | cons r requests ih =>
    obtain ⟨hdrop, hdetach⟩ := hstays r List.mem_cons_self
    rw [List.foldl_cons, Request.turnAt_guarded hdrop hdetach]
    exact ih (fun r hr => hstays r (List.mem_cons_of_mem _ hr)) _

namespace Desk

variable {f : Factory ε α} {depth : Nat}

/-- A slot that holds something was handed out. -/
theorem lt_size_of_holder {d : Desk α} {slot : Nat} (h : d.holder slot ≠ .vacant) :
    slot < d.slots.size := by
  by_contra hsize
  exact h (d.holder_of_size_le (Nat.le_of_not_lt hsize))

/-- **A guard has the instance it was made for**, with what was done to it through the guard. -/
theorem holder_visit_of_guarded {s : Scene (Desk α) (Deed ε α)} {slot : Nat} {a : α}
    (h : s.state.holder slot = .guarded ⟨some a⟩) {requests : List (Request α)}
    (hstays : ∀ r ∈ requests, r ≠ .drop slot ∧ r ≠ .detach slot) :
    (visit f depth requests s).state.holder slot =
      .guarded ⟨some (requests.foldl (Request.amendAt slot) a)⟩ := by
  have hslot : slot < s.state.slots.size := lt_size_of_holder (by rw [h]; exact nofun)
  rw [(holder_visit requests hslot).1, h]
  exact foldl_turnAt_guarded requests hstays a

end Desk

/-! ## Each guard once -/

/-- Whether there is a guard in a slot. -/
def Holder.isGuarded : Holder α → Bool
  | .guarded _ => true
  | _ => false

@[simp] theorem Holder.isGuarded_vacant : (Holder.vacant : Holder α).isGuarded = false := rfl

/-- The guards at a desk, with what became of instances so far. -/
structure Guarded (d : Desk α) (moves : List Move) : Prop where
  /-- Every guard has an instance. -/
  present : ∀ slot, d.holder slot ≠ .guarded ⟨none⟩
  /-- The guard made in a slot was dropped, was detached, or is still there. -/
  once : ∀ slot, moves.count ⟨.checkedOut, some slot⟩ = moves.count ⟨.dropped, some slot⟩ +
    moves.count ⟨.detached, some slot⟩ + if (d.holder slot).isGuarded then 1 else 0
  /-- In each slot at most one guard is made, and none in slots that were not handed out. -/
  single : ∀ slot, moves.count ⟨.checkedOut, some slot⟩ ≤ if slot < d.slots.size then 1 else 0

/-- A request leaves no empty guard where there was none. -/
theorem Request.turn_ne {h : Holder α} (hpresent : h ≠ .guarded ⟨none⟩) (r : Request α) :
    r.turn h ≠ .guarded ⟨none⟩ := by
  rcases h with a | ⟨_ | a⟩ | _
  · cases r <;> simp [turn]
  · exact absurd rfl hpresent
  · cases r <;> simp [turn]
  · simp

/-- A guard that is gone was dropped or detached. -/
theorem Request.isGuarded_turn {h : Holder α} (hpresent : h ≠ .guarded ⟨none⟩) (r : Request α) :
    (if h.isGuarded then 1 else 0) = (if r.handling? h = some .dropped then 1 else 0) +
      (if r.handling? h = some .detached then 1 else 0) +
      if (r.turn h).isGuarded then 1 else 0 := by
  rcases h with a | ⟨_ | a⟩ | _
  · cases r <;> rfl
  · exact absurd rfl hpresent
  · cases r <;> rfl
  · cases r <;> rfl

/-- No guard is made of what is in a slot. -/
theorem Request.handling?_ne (r : Request α) (h : Holder α) :
    r.handling? h ≠ some .checkedOut := by
  rcases h with a | ⟨_ | a⟩ | _ <;> cases r <;> simp [handling?]

/-- What becomes of the instance in one slot says nothing of others. -/
theorem count_toList_map (handling? : Option Handling) (what : Handling) (i slot : Nat) :
    ((handling?.map fun what => (⟨what, some i⟩ : Move)).toList).count ⟨what, some slot⟩ =
      if i = slot ∧ handling? = some what then 1 else 0 := by
  rcases handling? with _ | what'
  · simp
  · simp [List.count_singleton, and_comm]

namespace Guarded

variable {d : Desk α} {moves : List Move}

/-- An instance is handed out in the next slot, bare or under a guard. -/
theorem handOut (hd : Guarded d moves) {h : Holder α} (hpresent : h ≠ .guarded ⟨none⟩)
    {what : Handling} (hwhat : what = if h.isGuarded then .checkedOut else .taken) (p : Pool α) :
    Guarded ⟨p, d.slots.push h⟩ (moves ++ [⟨what, some d.slots.size⟩]) where
  present slot := by
    rw [Desk.holder_push]
    split
    · exact hpresent
    · exact hd.present slot
  once slot := by
    have hbefore := hd.once slot
    rw [Desk.holder_push, hwhat]
    by_cases hslot : slot = d.slots.size
    · subst hslot
      rw [d.holder_of_size_le (Nat.le_refl _)] at hbefore
      cases hguarded : h.isGuarded <;> simpa [List.count_singleton, hguarded] using hbefore
    · simpa [List.count_singleton, hslot, Ne.symm hslot] using hbefore
  single slot := by
    have hbefore := hd.single slot
    have hone : [(⟨what, some d.slots.size⟩ : Move)].count ⟨.checkedOut, some slot⟩ ≤
        if slot = d.slots.size then 1 else 0 := by
      by_cases hslot : slot = d.slots.size
      · rw [if_pos hslot]
        exact List.count_le_length
      · simp [Ne.symm hslot]
    simp only [List.count_append, Array.size_push]
    split at hbefore <;> split at hone <;> split <;> omega

/-- Nothing becomes of what is in the slots. -/
theorem aside (hd : Guarded d moves) {moves' : List Move}
    (h : moves' = [] ∨ moves' = [⟨.brought, none⟩]) (p : Pool α) :
    Guarded ⟨p, d.slots⟩ (moves ++ moves') := by
  have hnone : ∀ what slot, (moves ++ moves').count (⟨what, some slot⟩ : Move) =
      moves.count ⟨what, some slot⟩ := by
    intro what slot
    obtain rfl | rfl := h <;> simp
  refine ⟨hd.present, fun slot => ?_, fun slot => ?_⟩
  · rw [hnone, hnone, hnone]
    exact hd.once slot
  · rw [hnone]
    exact hd.single slot

/-- A request turns what is in a slot into something else. -/
theorem turn (hd : Guarded d moves) (r : Request α) (i : Nat) (p : Pool α) :
    Guarded ⟨p, d.slots.setIfInBounds i (r.turn (d.holder i))⟩ (moves ++
      ((r.handling? (d.holder i)).map fun what => (⟨what, some i⟩ : Move)).toList) where
  present slot := by
    rw [Desk.holder_set]
    split
    · exact Request.turn_ne (hd.present i) r
    · exact hd.present slot
  once slot := by
    have hbefore := hd.once slot
    have hturn := Request.isGuarded_turn (hd.present i) r
    rw [Desk.holder_set]
    simp only [List.count_append, count_toList_map, Request.handling?_ne]
    by_cases hi : i = slot
    · subst hi
      by_cases hsize : i < d.slots.size
      · simp [hsize]
        omega
      · have hvacant := d.holder_of_size_le (Nat.le_of_not_lt hsize)
        rw [hvacant] at hbefore
        simpa [hsize, hvacant] using hbefore
    · simpa [hi] using hbefore
  single slot := by
    have hbefore := hd.single slot
    simpa [count_toList_map, Request.handling?_ne] using hbefore

end Guarded

/-- **Whatever a request does to the slots**, the guards stay in order. -/
theorem Desk.Handles.guarded {d : Desk α} {r : Request α} {moves moves' : List Move}
    {slots : Array (Holder α)} (h : Handles d r moves' slots) (hd : Guarded d moves) (p : Pool α) :
    Guarded ⟨p, slots⟩ (moves ++ moves') := by
  cases h with
  | taken a => exact hd.handOut (by simp) rfl p
  | checkedOut a => exact hd.handOut (by simp) rfl p
  | aside hr hmoves => exact hd.aside hmoves p
  | @named _ i hr => exact hd.turn r i p

/-- **The guards of a session** are in order, with any factory. -/
theorem guarded_session (f : Factory ε α) (kind : Kind) (depth : Nat) (initial : UInt64)
    (requests : List (Request α)) :
    Guarded (session f kind depth initial requests).state
      (sessionMoves f kind depth initial requests) := by
  induction requests using List.reverseRecOn with
  | nil =>
    obtain ⟨J, -, hsession⟩ := exists_session_nil f kind depth initial
    rw [hsession]
    exact ⟨fun slot => nofun, fun slot => rfl, fun slot => Nat.zero_le _⟩
  | append_singleton requests r ih =>
    obtain ⟨J, e, ⟨pool, slots⟩, h, hsession, hmoves⟩ :=
      exists_session_concat f kind depth initial requests r
    rw [hsession, hmoves]
    exact h.handles.guarded ih pool

/-! ## From one moment on -/

/-- How guards behave from one moment on. -/
structure GuardsKept (f : Factory ε α) (depth : Nat) (s : Scene (Desk α) (Deed ε α)) : Prop where
  /-- A request that names a slot is answered, so no guard is looked into that has no instance. -/
  answered : ∀ r slot, r.slot? = some slot → ∃ reply, (Desk.serve f depth r s).1 = .ok reply
  /-- A checkout does to the pool what a get does, and ends as that. -/
  checkout : (Desk.serve f depth .checkout s).1 = (Desk.serve f depth .get s).1 ∧
    (Desk.serve f depth .checkout s).2.journal = (Desk.serve f depth .get s).2.journal ∧
    (Desk.serve f depth .checkout s).2.state.pool = (Desk.serve f depth .get s).2.state.pool
  /-- A checkout that fails makes no guard. -/
  failed : (Desk.serve f depth .checkout s).1.isOk = false →
    (Desk.serve f depth .checkout s).2.state.slots = s.state.slots
  /-- A checkout that succeeds makes a guard. Until that is dropped or detached it has the instance,
  with what was done to it through the guard. -/
  checkedOut : ∀ slot a later, (Desk.serve f depth .checkout s).1 = .ok (.handedOut slot a) →
    (∀ r ∈ later, r ≠ .drop slot ∧ r ≠ .detach slot) →
    (Desk.visit f depth later (Desk.serve f depth .checkout s).2).state.holder slot =
      .guarded ⟨some (later.foldl (Request.amendAt slot) a)⟩
  /-- Who looks at a guard sees its instance. -/
  look : ∀ slot a, s.state.holder slot = .guarded ⟨some a⟩ →
    Desk.serve f depth (.look slot) s = (.ok (.item a), s)
  /-- Who changes what is in a guard changes its instance. -/
  amend : ∀ slot a change, s.state.holder slot = .guarded ⟨some a⟩ →
    Desk.serve f depth (.amend slot change) s = (.ok (.item (change a)),
      ⟨⟨s.state.pool, s.state.slots.setIfInBounds slot (.guarded ⟨some (change a)⟩)⟩, s.journal⟩)
  /-- A guard that is dropped makes one release of its instance. -/
  drop : ∀ slot a, s.state.holder slot = .guarded ⟨some a⟩ →
    Desk.serve f depth (.drop slot) s = (.ok .done,
      ⟨⟨s.state.pool.after (releaseDeeds a : List (Deed ε α)),
        s.state.slots.setIfInBounds slot .vacant⟩, s.journal ++ (releaseDeeds a).toArray⟩)
  /-- A guard that is detached yields its instance and makes no release. -/
  detach : ∀ slot a, s.state.holder slot = .guarded ⟨some a⟩ →
    Desk.serve f depth (.detach slot) s = (.ok (.item a),
      ⟨⟨s.state.pool, s.state.slots.setIfInBounds slot (.bare a)⟩, s.journal⟩)

section

variable {f : Factory ε α} {depth : Nat} {s : Scene (Desk α) (Deed ε α)}

/-- Where the pool is left alone, the journal is as well. -/
theorem Desk.serve_of_settle {r : Request α} {e : Ending ε (Reply α)} {slots : Array (Holder α)}
    (hr : s.state.errand r = .settle e slots) :
    Desk.serve f depth r s = (e, ⟨⟨s.state.pool, slots⟩, s.journal⟩) := by
  have hserves : Serves f depth s.state r [] e ⟨s.state.pool, slots⟩ := .settled hr
  simpa using hserves.serve_eq s.journal

/-- A checkout puts under a guard what a get would hand out bare. -/
theorem Desk.cases_checkout (f : Factory ε α) (depth : Nat) (s : Scene (Desk α) (Deed ε α)) :
    (∃ p journal a,
      Desk.serve f depth .get s = (.ok (.handedOut s.state.slots.size a),
        ⟨⟨p, s.state.slots.push (.bare a)⟩, journal⟩) ∧
      Desk.serve f depth .checkout s = (.ok (.handedOut s.state.slots.size a),
        ⟨⟨p, s.state.slots.push (.guarded ⟨some a⟩)⟩, journal⟩)) ∨
    (∃ t e, e.isOk = false ∧ t.state.slots = s.state.slots ∧
      Desk.serve f depth .get s = (e, t) ∧ Desk.serve f depth .checkout s = (e, t)) := by
  obtain ⟨J, g, -, h⟩ := exists_runs f depth .get (.fresh s.state.pool)
  have hrun : Runs f depth .get s.state.pool J g := h
  have hget : s.state.errand (ε := ε) .get = .ask .bare := rfl
  have hcheckout : s.state.errand (ε := ε) .checkout = .ask fun a => .guarded ⟨some a⟩ := rfl
  cases g with
  | ok a =>
    exact .inl ⟨_, _, a, (Serves.handedOut hget hrun).serve_eq s.journal,
      (Serves.handedOut hcheckout hrun).serve_eq s.journal⟩
  | _ =>
    exact .inr ⟨⟨⟨s.state.pool.after J, s.state.slots⟩, s.journal ++ J.toArray⟩, _, rfl, rfl,
      (Serves.notHandedOut hget hrun rfl).serve_eq s.journal,
      (Serves.notHandedOut hcheckout hrun rfl).serve_eq s.journal⟩

/-- A request that names a slot without an empty guard is answered. -/
theorem Desk.exists_reply {r : Request α} {slot : Nat} (hr : r.slot? = some slot)
    (hpresent : s.state.holder slot ≠ .guarded ⟨none⟩) :
    ∃ reply, (Desk.serve f depth r s).1 = .ok reply := by
  suffices hanswer : (∃ a slots, s.state.errand (ε := ε) r = .give a slots) ∨
      ∃ reply slots, s.state.errand (ε := ε) r = .settle (.ok reply) slots by
    obtain ⟨a, slots, herrand⟩ | ⟨reply, slots, herrand⟩ := hanswer
    · exact ⟨.done, congrArg Prod.fst ((Serves.given herrand).serve_eq s.journal)⟩
    · exact ⟨reply, congrArg Prod.fst (serve_of_settle herrand)⟩
  cases r with
  | get | checkout | grow | bring => cases hr
  | release i | releaseCopy i | drop i | detach i | amend i change | look i =>
    obtain rfl := Option.some.inj hr
    rcases h : s.state.holder i with a | ⟨_ | a⟩ | _
    · simp [errand, h]
    · exact absurd h hpresent
    · simp [errand, h]
    · simp [errand, h]

/-- **Where every guard has its instance** it is kept. -/
theorem guardsKept (hpresent : ∀ slot, s.state.holder slot ≠ .guarded ⟨none⟩) :
    GuardsKept f depth s where
  answered r slot hr := Desk.exists_reply hr (hpresent slot)
  checkout := by
    obtain ⟨p, journal, a, hget, hcheckout⟩ | ⟨t, e, -, -, hget, hcheckout⟩ :=
      Desk.cases_checkout f depth s
    · rw [hget, hcheckout]
      exact ⟨rfl, rfl, rfl⟩
    · rw [hget, hcheckout]
      exact ⟨rfl, rfl, rfl⟩
  failed := by
    obtain ⟨p, journal, a, -, hcheckout⟩ | ⟨t, e, -, hslots, -, hcheckout⟩ :=
      Desk.cases_checkout f depth s
    · rw [hcheckout]
      exact nofun
    · rw [hcheckout]
      exact fun _ => hslots
  checkedOut := by
    intro slot a later hanswer hstays
    obtain ⟨p, journal, b, -, hcheckout⟩ | ⟨t, e, he, -, -, hcheckout⟩ :=
      Desk.cases_checkout f depth s
    · rw [hcheckout] at hanswer ⊢
      obtain ⟨rfl, rfl⟩ := Reply.handedOut.inj (Ending.ok.inj hanswer)
      refine Desk.holder_visit_of_guarded ?_ hstays
      rw [Desk.holder_push, if_pos rfl]
    · rw [hcheckout] at hanswer
      obtain rfl : e = _ := hanswer
      cases he
  look slot a h := by
    have herrand : s.state.errand (.look slot) =
        (.settle (.ok (.item a)) s.state.slots : Desk.Errand ε α) := by
      simp only [Desk.errand, h]
    exact Desk.serve_of_settle herrand
  amend slot a change h := by
    refine Desk.serve_of_settle ?_
    simp only [Desk.errand, h]
  drop slot a h := by
    have herrand : s.state.errand (ε := ε) (.drop slot) =
        .give a (s.state.slots.setIfInBounds slot .vacant) := by
      simp only [Desk.errand, h]
    exact (Desk.Serves.given herrand).serve_eq s.journal
  detach slot a h := by
    refine Desk.serve_of_settle ?_
    simp only [Desk.errand, h]

end

/-! ## What the counters say -/

/-- What the counters of a pool say of guards and releases, with what became of instances. -/
structure Reckoned (s : Scene (Desk α) (Deed ε α)) (moves : List Move) : Prop where
  /-- What was released was released by the user or by a guard that was dropped. -/
  released : occurrences .released s.journal.toList =
    times .returned moves + times .brought moves + times .dropped moves
  /-- What was handed out or brought was released or is outstanding. -/
  outstanding : times .taken moves + times .checkedOut moves + times .brought moves =
    occurrences .released s.journal.toList + s.state.outstanding moves
  /-- The statistics count the releases. -/
  stats_released : s.state.pool.stats.released =
    .ofNat (times .returned moves + times .brought moves + times .dropped moves)
  /-- The statistics count what was handed out. -/
  stats_gets : s.state.pool.stats.hits + s.state.pool.stats.misses =
    .ofNat (times .taken moves + times .checkedOut moves)

/-- **A guard gives its instance back once or never**, in either kind of store and whatever the
session and its factory do. With a factory that leaves the pool alone the counters add up. -/
theorem guards_give_back_once (f : Factory ε α) (kind : Kind) (depth : Nat) (initial : UInt64)
    (requests : List (Request α)) :
    Guarded (session f kind (depth + 1) initial requests).state
        (sessionMoves f kind (depth + 1) initial requests) ∧
      GuardsKept f (depth + 1) (session f kind (depth + 1) initial requests) ∧
      (f.Aloof → Reckoned (session f kind (depth + 1) initial requests)
        (sessionMoves f kind (depth + 1) initial requests)) := by
  have hguarded := guarded_session f kind (depth + 1) initial requests
  refine ⟨hguarded, guardsKept hguarded.present, fun hf => ?_⟩
  obtain ⟨hgot, hreleased⟩ := hf.told kind depth initial requests
  have hgiven := sessionOutstanding_add f kind (depth + 1) initial requests
  have hchronicle := chronicle_session f kind (depth + 1) initial requests
  have hlawful := lawful_of_total hchronicle.total_eq_zero
  have hcounters := hchronicle.counters_eq
  rw [sessionOutstanding] at hgiven
  refine ⟨by omega, by omega, ?_, ?_⟩
  · have hcounted := hlawful.released
    refine (congrArg Counters.released hcounters).trans ((UInt64.zero_add _).trans ?_)
    exact congrArg UInt64.ofNat (by omega)
  · have hhits := (congrArg Counters.hits hcounters).trans (UInt64.zero_add _)
    have hmisses := (congrArg Counters.misses hcounters).trans (UInt64.zero_add _)
    rw [← hgot, ← hlawful.got, UInt64.ofNat_add, ← hhits, ← hmisses]
    rfl

/-- A factory whose second call fails. -/
def faltering : Plan where
  first := [.make, .fail "not now"]
  later := .make
  fallible := true
  opening := 0

/-- Requests of a user who writes into one guarded instance, fails to check out another, takes a
third out of its guard, and drops both slots, the first of them twice. -/
def lendingRequests : List (Request Tagged) :=
  [.checkout, .amend 0 (·.append "ink"), .checkout, .checkout, .detach 1, .drop 0, .drop 0, .drop 1,
    .get]

/-- The guard that was dropped has made one release, of the instance that was written into, and the
one that was detached has made none. -/
theorem guards_give_back_once_lending :
    faltering.factory.Aloof ∧
      sessionMoves faltering.factory .queue 1 0 lendingRequests =
        [⟨.checkedOut, some 0⟩, ⟨.checkedOut, some 1⟩, ⟨.detached, some 1⟩, ⟨.dropped, some 0⟩,
          ⟨.thrownAway, some 1⟩, ⟨.taken, some 2⟩] ∧
      (session faltering.factory .queue 1 0 lendingRequests).state.pool.stats.released = 1 ∧
      occurrences .released
        (session faltering.factory .queue 1 0 lendingRequests).journal.toList = 1 ∧
      (session faltering.factory .queue 1 0 lendingRequests).state.holder 2 =
        .bare { tag := 0, data := "ink" } := by
  have haloof : faltering.factory.Aloof := Plan.aloof (by decide)
  have hmoves : sessionMoves faltering.factory .queue 1 0 lendingRequests =
      [⟨.checkedOut, some 0⟩, ⟨.checkedOut, some 1⟩, ⟨.detached, some 1⟩, ⟨.dropped, some 0⟩,
        ⟨.thrownAway, some 1⟩, ⟨.taken, some 2⟩] := by decide +kernel
  have hreckoned := (guards_give_back_once faltering.factory .queue 0 0 lendingRequests).2.2 haloof
  have hstats := hreckoned.stats_released
  have hreleased := hreckoned.released
  rw [hmoves] at hstats hreleased
  exact ⟨haloof, hmoves, hstats, hreleased, by decide +kernel⟩

end Pool

end ConverterKit
