import ConverterKit.Proofs.Pool.Aloof
import ConverterKit.Proofs.Pool.Custody

/-!
# What a user does with instances

A request names at most one slot of the desk, and what it makes of that slot depends on nothing but
what is in it. So each slot lives a life of its own, from the hand-out that fills it, and the pool,
its factory and the other slots have no part in it.

Along the way it is noted what became of the instances: which were handed out, bare or under a
guard, and which were given back, taken out of their guards or thrown away. What a user holds is
reckoned from that with any factory. With a factory that leaves the pool alone the journal of the
pool tells the same story.

## Main definitions

* `Request.slot?`, `Request.turn`: the slot a request names, and what it makes of it
* `Handling`, `Move`, `Desk.moves`: what becomes of instances in a list of requests
* `Desk.Handles`: what a request can do to the slots
* `Desk.outstanding`: how many instances were handed out and not given back
* `Desk.Told`: a journal that tells what became of instances

## Main results

* `Desk.Serves.handles`: a request does one of the things that `Desk.Handles` lists
* `Desk.holder_visit`: each slot lives a life of its own
* `sessionOutstanding_add`: what was handed out was given back or is outstanding
* `Factory.Aloof.told`: the journal tells how many were handed out and how many released
-/

namespace ConverterKit

namespace Pool

variable {ε α : Type}

/-! ## What becomes of an instance -/

/-- What becomes of an instance at a desk. -/
inductive Handling where
  /-- It is handed out bare. -/
  | taken
  /-- It is handed out under a guard. -/
  | checkedOut
  /-- It is released out of its slot. -/
  | returned
  /-- It is released by dropping its guard. -/
  | dropped
  /-- It is released without having been in a slot. -/
  | brought
  /-- It is taken out of its guard. -/
  | detached
  /-- It is thrown away. -/
  | thrownAway
deriving DecidableEq

/-- Something becomes of an instance, in a slot unless it never was in one. -/
structure Move where
  /-- What becomes of it. -/
  what : Handling
  /-- The slot it is in. -/
  slot? : Option Nat
deriving DecidableEq

/-- How often this becomes of an instance. -/
def times (what : Handling) (moves : List Move) : Nat := moves.countP fun m => m.what = what

@[simp] theorem times_nil (what : Handling) : times what [] = 0 := rfl

@[simp] theorem times_cons (what : Handling) (m : Move) (moves : List Move) :
    times what (m :: moves) = times what moves + if m.what = what then 1 else 0 := by
  simp [times, List.countP_cons]

@[simp] theorem times_append (what : Handling) (moves moves' : List Move) :
    times what (moves ++ moves') = times what moves + times what moves' :=
  List.countP_append

namespace Request

/-- The slot a request names, if it names one. -/
def slot? : Request α → Option Nat
  | .release slot => some slot
  | .releaseCopy slot => some slot
  | .drop slot => some slot
  | .detach slot => some slot
  | .amend slot _ => some slot
  | .look slot => some slot
  | _ => none

/-- What a request makes of what is in the slot it names. -/
def turn : Request α → Holder α → Holder α
  | .release _, .bare _ => .vacant
  | .drop _, _ => .vacant
  | .detach _, .guarded ⟨some a⟩ => .bare a
  | .amend _ change, .bare a => .bare (change a)
  | .amend _ change, .guarded ⟨some a⟩ => .guarded ⟨some (change a)⟩
  | _, h => h

/-- What becomes of the instance in the slot a request names, if anything does. -/
def handling? : Request α → Holder α → Option Handling
  | .release _, .bare _ => some .returned
  | .releaseCopy _, .bare _ => some .brought
  | .drop _, .bare _ => some .thrownAway
  | .drop _, .guarded ⟨some _⟩ => some .dropped
  | .detach _, .guarded ⟨some _⟩ => some .detached
  | _, _ => none

/-- Nothing becomes of what is not there. -/
@[simp] theorem handling?_vacant (r : Request α) : r.handling? .vacant = none := by
  cases r <;> rfl

/-- What a request makes of what is in a slot, whether it names it or not. -/
def turnAt (slot : Nat) (h : Holder α) (r : Request α) : Holder α :=
  if r.slot? = some slot then r.turn h else h

/-- What is vacant stays so. -/
@[simp] theorem turn_vacant (r : Request α) : r.turn .vacant = .vacant := by
  cases r <;> rfl

end Request

namespace Desk

/-- What becomes of an instance in a request that ends like this, if anything does. -/
def move? (d : Desk α) (r : Request α) (e : Ending ε (Reply α)) : Option Move :=
  match r with
  | .get => if e.isOk then some ⟨.taken, some d.slots.size⟩ else none
  | .checkout => if e.isOk then some ⟨.checkedOut, some d.slots.size⟩ else none
  | .bring _ => some ⟨.brought, none⟩
  | .grow _ => none
  | r => r.slot?.bind fun slot => (r.handling? (d.holder slot)).map fun what => ⟨what, some slot⟩

/-- What becomes of instances in a list of requests. -/
def moves (f : Factory ε α) (depth : Nat) :
    List (Request α) → Scene (Desk α) (Deed ε α) → List Move
  | [], _ => []
  | r :: requests, s =>
    (s.state.move? r (serve f depth r s).1).toList ++ moves f depth requests (serve f depth r s).2

/-- What one more request adds. -/
theorem moves_concat (f : Factory ε α) (depth : Nat) (requests : List (Request α)) (r : Request α)
    (s : Scene (Desk α) (Deed ε α)) :
    moves f depth (requests ++ [r]) s = moves f depth requests s ++
      ((visit f depth requests s).state.move? r
        (serve f depth r (visit f depth requests s)).1).toList := by
  induction requests generalizing s with
  | nil => exact List.append_nil _
  | cons r' requests ih =>
    rw [List.cons_append, moves, ih, moves, List.append_assoc]
    rfl

/-! ## What a request does to the slots -/

theorem holder_set (d : Desk α) (p : Pool α) (slot i : Nat) (h : Holder α) :
    holder ⟨p, d.slots.setIfInBounds slot h⟩ i =
      if slot = i ∧ i < d.slots.size then h else d.holder i := by
  simp only [holder, Array.getD_eq_getD_getElem?, Array.getElem?_setIfInBounds]
  by_cases hslot : slot = i
  · subst hslot
    by_cases hi : slot < d.slots.size
    · simp [hi]
    · simp [hi]
  · simp [hslot]

theorem holder_push (d : Desk α) (p : Pool α) (h : Holder α) (i : Nat) :
    holder ⟨p, d.slots.push h⟩ i = if i = d.slots.size then h else d.holder i := by
  simp only [holder, Array.getD_eq_getD_getElem?, Array.getElem?_push]
  split <;> rfl

/-- A slot that was not handed out is vacant. -/
theorem holder_of_size_le (d : Desk α) {i : Nat} (hi : d.slots.size ≤ i) :
    d.holder i = .vacant := by
  simp [holder, Array.getD_eq_getD_getElem?, Array.getElem?_eq_none hi]

/-- Putting back what is in a slot changes nothing. -/
theorem set_holder (d : Desk α) (slot : Nat) :
    d.slots.setIfInBounds slot (d.holder slot) = d.slots := by
  refine Array.ext_getElem? fun i => ?_
  rw [Array.getElem?_setIfInBounds]
  by_cases hslot : slot = i
  · subst hslot
    by_cases hi : slot < d.slots.size
    · simp [hi, holder]
    · simp [hi]
  · simp [hslot]

/-- The errand of a request that names a slot: it gives away an instance that is released, or it
leaves the pool alone. -/
theorem errand_of_slot? {d : Desk α} {r : Request α} {slot : Nat} (hr : r.slot? = some slot) :
    (∃ a what, d.errand (ε := ε) r =
        .give a (d.slots.setIfInBounds slot (r.turn (d.holder slot))) ∧
      r.handling? (d.holder slot) = some what ∧
      (what = .returned ∨ what = .dropped ∨ what = .brought)) ∨
    (∃ e, d.errand (ε := ε) r =
        .settle e (d.slots.setIfInBounds slot (r.turn (d.holder slot))) ∧
      ∀ what, r.handling? (d.holder slot) = some what → what = .detached ∨ what = .thrownAway) := by
  have hsame := d.set_holder slot
  cases r with
  | get | checkout | grow | bring => cases hr
  | release i | releaseCopy i | drop i | detach i | amend i change | look i =>
    obtain rfl := Option.some.inj hr
    rcases h : d.holder i with a | ⟨_ | a⟩ | _ <;> rw [h] at hsame <;>
      simp [errand, h, Request.turn, Request.handling?, hsame]

/-- What a request can do to the slots, and what becomes of instances in it. -/
inductive Handles (d : Desk α) : Request α → List Move → Array (Holder α) → Prop
  /-- An instance is handed out bare. -/
  | taken (a : α) : Handles d .get [⟨.taken, some d.slots.size⟩] (d.slots.push (.bare a))
  /-- An instance is handed out under a guard. -/
  | checkedOut (a : α) :
      Handles d .checkout [⟨.checkedOut, some d.slots.size⟩] (d.slots.push (.guarded ⟨some a⟩))
  /-- No slot is named and nothing is handed out. -/
  | aside {r : Request α} {moves : List Move} (hr : r.slot? = none)
      (h : moves = [] ∨ moves = [⟨.brought, none⟩]) : Handles d r moves d.slots
  /-- A slot is named. -/
  | named {r : Request α} {slot : Nat} (hr : r.slot? = some slot) :
      Handles d r ((r.handling? (d.holder slot)).map fun what => ⟨what, some slot⟩).toList
        (d.slots.setIfInBounds slot (r.turn (d.holder slot)))

section

variable {f : Factory ε α} {depth : Nat} {d d' : Desk α} {r : Request α} {J : List (Deed ε α)}
  {e : Ending ε (Reply α)}

/-- What was stopped has not succeeded, and neither has what stopped it. -/
theorem isOk_of_stop? {γ δ : Type} {g : Ending ε γ} {e : Ending ε δ} (h : g.stop? = some e) :
    g.isOk = false ∧ e.isOk = false := by
  cases g with
  | ok => cases h
  | _ =>
    obtain rfl := Option.some.inj h
    exact ⟨rfl, rfl⟩

/-- Where an instance is asked for, it is handed out or there is none to be had. -/
theorem Serves.of_ask {hold : α → Holder α} (h : Serves f depth d r J e d')
    (hr : d.errand (ε := ε) r = .ask hold) :
    (∃ a, Runs f depth .get d.pool J (.ok a) ∧ e = .ok (.handedOut d.slots.size a) ∧
      d'.slots = d.slots.push (hold a)) ∨
    (∃ g, Runs f depth .get d.pool J g ∧ g.stop? = some e ∧ d'.slots = d.slots) := by
  cases h with
  | handedOut hr' hget =>
    obtain rfl := Errand.ask.inj (hr.symm.trans hr')
    exact .inl ⟨_, hget, rfl, rfl⟩
  | notHandedOut hr' hget he => exact .inr ⟨_, hget, he, rfl⟩
  | grown hr' | notGrown hr' | given hr' | settled hr' => cases hr.symm.trans hr'

/-- Where an instance is asked for, it is handed out if the get succeeds. -/
theorem Serves.get_of_ask {hold : α → Holder α} (h : Serves f depth d r J e d')
    (hr : d.errand (ε := ε) r = .ask hold) :
    ∃ g, Runs f depth .get d.pool J g ∧ g.isOk = e.isOk := by
  obtain ⟨a, hget, rfl, -⟩ | ⟨g, hget, hstop, -⟩ := h.of_ask hr
  · exact ⟨_, hget, rfl⟩
  · obtain ⟨hg, he⟩ := isOk_of_stop? hstop
    exact ⟨g, hget, hg.trans he.symm⟩

/-- Where the pool is to be grown, the slots stay as they are. -/
theorem Serves.of_grow {count : UInt64} (h : Serves f depth d r J e d')
    (hr : d.errand (ε := ε) r = .grow count) :
    (∃ g, Runs f depth (.grow count) d.pool J g) ∧ d'.slots = d.slots := by
  cases h with
  | grown hr' hgrow | notGrown hr' hgrow =>
    obtain rfl := Errand.grow.inj (hr.symm.trans hr')
    exact ⟨⟨_, hgrow⟩, rfl⟩
  | handedOut hr' | notHandedOut hr' | given hr' | settled hr' => cases hr.symm.trans hr'

/-- Where an instance is given to the pool, it is released. -/
theorem Serves.of_give {a : α} {slots : Array (Holder α)} (h : Serves f depth d r J e d')
    (hr : d.errand (ε := ε) r = .give a slots) :
    J = releaseDeeds a ∧ e = .ok .done ∧
      d' = ⟨d.pool.after (releaseDeeds a : List (Deed ε α)), slots⟩ := by
  cases h with
  | given hr' =>
    obtain ⟨rfl, rfl⟩ := Errand.give.inj (hr.symm.trans hr')
    exact ⟨rfl, rfl, rfl⟩
  | handedOut hr' | notHandedOut hr' | grown hr' | notGrown hr' | settled hr' =>
    cases hr.symm.trans hr'

/-- Where the pool is left alone, nothing is noted. -/
theorem Serves.of_settle {e' : Ending ε (Reply α)} {slots : Array (Holder α)}
    (h : Serves f depth d r J e d') (hr : d.errand r = .settle e' slots) :
    J = [] ∧ e = e' ∧ d' = ⟨d.pool, slots⟩ := by
  cases h with
  | settled hr' =>
    obtain ⟨rfl, rfl⟩ := Errand.settle.inj (hr.symm.trans hr')
    exact ⟨rfl, rfl, rfl⟩
  | handedOut hr' | notHandedOut hr' | grown hr' | notGrown hr' | given hr' =>
    cases hr.symm.trans hr'

theorem move?_of_slot? {slot : Nat} (hr : r.slot? = some slot) (e : Ending ε (Reply α)) :
    d.move? r e = (r.handling? (d.holder slot)).map fun what => ⟨what, some slot⟩ := by
  cases r with
  | get | checkout | grow | bring => cases hr
  | _ =>
    obtain rfl := Option.some.inj hr
    rfl

/-- **A request does one of these things** to the slots. -/
theorem Serves.handles (h : Serves f depth d r J e d') :
    Handles d r (d.move? r e).toList d'.slots := by
  rcases hslot : r.slot? with _ | slot
  · cases r with
    | get =>
      obtain ⟨a, -, rfl, hslots⟩ | ⟨g, -, hstop, hslots⟩ := h.of_ask rfl
      · rw [hslots]
        exact .taken a
      · rw [hslots, move?, (isOk_of_stop? hstop).2]
        exact .aside rfl (.inl rfl)
    | checkout =>
      obtain ⟨a, -, rfl, hslots⟩ | ⟨g, -, hstop, hslots⟩ := h.of_ask rfl
      · rw [hslots]
        exact .checkedOut a
      · rw [hslots, move?, (isOk_of_stop? hstop).2]
        exact .aside rfl (.inl rfl)
    | grow count =>
      rw [(h.of_grow rfl).2]
      exact .aside rfl (.inl rfl)
    | bring a =>
      obtain ⟨-, -, rfl⟩ := h.of_give rfl
      exact .aside rfl (.inr rfl)
    | _ => cases hslot
  · rw [move?_of_slot? hslot]
    obtain ⟨a, -, herrand, -⟩ | ⟨e', herrand, -⟩ := errand_of_slot? (ε := ε) (d := d) hslot
    · obtain ⟨-, -, rfl⟩ := h.of_give herrand
      exact .named hslot
    · obtain ⟨-, -, rfl⟩ := h.of_settle herrand
      exact .named hslot

/-- A request leaves what is in a slot alone unless it names the slot. -/
theorem Serves.holder_eq (h : Serves f depth d r J e d') {slot : Nat}
    (hslot : slot < d.slots.size) :
    d'.holder slot = r.turnAt slot (d.holder slot) ∧ slot < d'.slots.size := by
  obtain ⟨pool, slots⟩ := d'
  have hhandles : Handles d r (d.move? r e).toList slots := h.handles
  generalize (d.move? r e).toList = moves at hhandles
  cases hhandles with
  | taken a | checkedOut a =>
    refine ⟨?_, ?_⟩
    · rw [holder_push, if_neg (Nat.ne_of_lt hslot)]
      rfl
    · show slot < (d.slots.push _).size
      rw [Array.size_push]
      omega
  | aside hr => exact ⟨by rw [Request.turnAt, if_neg (by simp [hr])]; rfl, hslot⟩
  | @named _ slot' hr =>
    refine ⟨?_, ?_⟩
    · rw [holder_set, Request.turnAt, hr]
      by_cases heq : slot' = slot
      · subst heq
        simp [hslot]
      · simp [heq]
    · show slot < (d.slots.setIfInBounds _ _).size
      rwa [Array.size_setIfInBounds]

/-- **Each slot lives a life of its own**: what is in it after a list of requests depends on nothing
but what was in it and what the requests make of that. -/
theorem holder_visit {slot : Nat} (requests : List (Request α)) {s : Scene (Desk α) (Deed ε α)}
    (hslot : slot < s.state.slots.size) :
    (visit f depth requests s).state.holder slot =
        requests.foldl (Request.turnAt slot) (s.state.holder slot) ∧
      slot < (visit f depth requests s).state.slots.size := by
  induction requests generalizing s with
  | nil => exact ⟨rfl, hslot⟩
  | cons r requests ih =>
    obtain ⟨J, e, d', h⟩ := exists_serves f depth s.state r
    have hserve : serve f depth r s = (e, ⟨d', s.journal ++ J.toArray⟩) := h.serve_eq s.journal
    obtain ⟨hholder, hsize⟩ := h.holder_eq hslot
    have hrest := @ih ⟨d', s.journal ++ J.toArray⟩ hsize
    have hvisit : visit f depth (r :: requests) s =
        visit f depth requests ⟨d', s.journal ++ J.toArray⟩ := by
      rw [visit, List.foldl_cons, hserve]
      rfl
    rw [hvisit, List.foldl_cons, ← hholder]
    exact hrest

end

/-! ## What is outstanding -/

/-- How many instances were handed out and not given back: those in the slots, and those that were
thrown away. -/
def outstanding (d : Desk α) (moves : List Move) : Nat :=
  Multiset.card d.held + times .thrownAway moves

theorem card_held_push (d : Desk α) (p : Pool α) {h : Holder α} {a : α} (ha : h.item? = some a) :
    Multiset.card (held ⟨p, d.slots.push h⟩) = Multiset.card d.held + 1 := by
  simp [held, ha]

theorem card_held_set {d : Desk α} {slot : Nat} {h₀ : Holder α} (hslot : d.holder slot = h₀)
    (hne : h₀ ≠ .vacant) (p : Pool α) (h : Holder α) :
    Multiset.card (held ⟨p, d.slots.setIfInBounds slot h⟩) + h₀.worth (fun _ => 1) =
      Multiset.card d.held + h.worth (fun _ => 1) := by
  have hset := sum_held_set (fun _ => 1) hslot hne p h
  have hone : ∀ m : Multiset α, Ledger.sum (fun _ => 1) m = Multiset.card m := by simp [Ledger.sum]
  rwa [hone, hone] at hset

/-- **Whatever a request does to the slots**, as many more instances are outstanding as are handed
out, and as many fewer as are given back. -/
theorem Handles.outstanding_eq {d : Desk α} {r : Request α} {moves' : List Move}
    {slots : Array (Holder α)} (h : Handles d r moves' slots) (moves : List Move) (p : Pool α) :
    outstanding ⟨p, slots⟩ (moves ++ moves') + times .returned moves' + times .dropped moves' =
      d.outstanding moves + times .taken moves' + times .checkedOut moves' := by
  simp only [outstanding, times_append]
  cases h with
  | taken a | checkedOut a =>
    rw [card_held_push d p rfl]
    simp
    omega
  | aside hr hmoves =>
    obtain rfl | rfl := hmoves
    · simp [held]
    · simp [held]
  | @named _ slot hr =>
    by_cases hvacant : d.holder slot = .vacant
    · have hsame := d.set_holder slot
      rw [hvacant] at hsame
      rw [hvacant, Request.turn_vacant, hsame, Request.handling?_vacant]
      simp [held]
    · have hset := card_held_set rfl hvacant p (r.turn (d.holder slot))
      rcases h : d.holder slot with a | ⟨_ | a⟩ | _ <;> rw [h] at hset <;>
        cases r <;>
        simp [Request.turn, Request.handling?, Holder.worth, Holder.item?] at hset hr ⊢ <;> omega

end Desk

/-! ## Sessions -/

section

variable (f : Factory ε α) (kind : Kind) (depth : Nat) (initial : UInt64)
  (requests : List (Request α))

/-- What became of instances in a session. -/
def sessionMoves : List Move :=
  Desk.moves f depth requests (Desk.opened f kind depth initial)

/-- A session that has only begun has noted the building of the pool, and no slot is filled. -/
theorem exists_session_nil :
    ∃ J, Runs f depth (.grow initial) (.empty kind) J (f.build kind depth initial).1 ∧
      session f kind depth initial [] =
        ⟨⟨(empty kind).after (J ++ readyDeeds kind initial (f.build kind depth initial).1), #[]⟩,
          (J ++ readyDeeds kind initial (f.build kind depth initial).1).toArray⟩ := by
  obtain ⟨J, -, -, h, hopened, -, -⟩ := exists_session f kind depth initial []
  exact ⟨J, h, hopened⟩

/-- **One more request** is served where the session has got to. -/
theorem exists_session_concat (r : Request α) :
    ∃ J e d, Desk.Serves f depth (session f kind depth initial requests).state r J e d ∧
      session f kind depth initial (requests ++ [r]) =
        ⟨d, (session f kind depth initial requests).journal ++ J.toArray⟩ ∧
      sessionMoves f kind depth initial (requests ++ [r]) =
        sessionMoves f kind depth initial requests ++
          ((session f kind depth initial requests).state.move? r e).toList := by
  obtain ⟨J, e, d, h⟩ := Desk.exists_serves f depth (session f kind depth initial requests).state r
  have hserve := h.serve_eq (session f kind depth initial requests).journal
  refine ⟨J, e, d, h, ?_, ?_⟩
  · rw [session, Desk.visit, List.foldl_append]
    exact congrArg Prod.snd hserve
  · rw [sessionMoves, Desk.moves_concat]
    show sessionMoves f kind depth initial requests ++
      ((session f kind depth initial requests).state.move? r
        (Desk.serve f depth r (session f kind depth initial requests)).1).toList = _
    rw [show Desk.serve f depth r (session f kind depth initial requests) = _ from hserve]

/-- How many instances were handed out in a session and not given back. -/
def sessionOutstanding : Nat :=
  (session f kind depth initial requests).state.outstanding
    (sessionMoves f kind depth initial requests)

/-- **What was handed out was given back or is outstanding**, with any factory. -/
theorem sessionOutstanding_add :
    sessionOutstanding f kind depth initial requests +
        times .returned (sessionMoves f kind depth initial requests) +
        times .dropped (sessionMoves f kind depth initial requests) =
      times .taken (sessionMoves f kind depth initial requests) +
        times .checkedOut (sessionMoves f kind depth initial requests) := by
  induction requests using List.reverseRecOn with
  | nil =>
    obtain ⟨J, -, hsession⟩ := exists_session_nil f kind depth initial
    rw [sessionOutstanding, hsession]
    rfl
  | append_singleton requests r ih =>
    obtain ⟨J, e, ⟨pool, slots⟩, h, hsession, hmoves⟩ :=
      exists_session_concat f kind depth initial requests r
    have hstep := h.handles.outstanding_eq (sessionMoves f kind depth initial requests) pool
    rw [sessionOutstanding] at ih ⊢
    rw [hsession, hmoves]
    simp only [times_append]
    simp only at hstep
    omega

end

/-! ## What the journal tells of it -/

namespace Desk

/-- The journal tells how many instances were handed out and how many were released. -/
structure Told (J : List (Deed ε α)) (moves : List Move) : Prop where
  /-- Every instance that was got was handed out. -/
  got : occurrences .got J = times .taken moves + times .checkedOut moves
  /-- Every instance that was released was given back or brought. -/
  released : occurrences .released J =
    times .returned moves + times .dropped moves + times .brought moves

theorem Told.append {J K : List (Deed ε α)} {moves moves' : List Move} (h : Told J moves)
    (h' : Told K moves') : Told (J ++ K) (moves ++ moves') := by
  obtain ⟨hgot, hreleased⟩ := h
  obtain ⟨hgot', hreleased'⟩ := h'
  constructor
  · simp only [occurrences_append, times_append]
    omega
  · simp only [occurrences_append, times_append]
    omega

/-- Quiet deeds tell of nothing. -/
theorem Told.of_quiet {J : List (Deed ε α)} (h : ∀ d ∈ J, d.Quiet) : Told J [] :=
  ⟨(occurrences_of_quiet h).1, (occurrences_of_quiet h).2⟩

theorem told_releaseDeeds {what : Handling} (a : α) (slot? : Option Nat)
    (hwhat : what = .returned ∨ what = .dropped ∨ what = .brought) :
    Told (releaseDeeds a : List (Deed ε α)) [⟨what, slot?⟩] := by
  obtain rfl | rfl | rfl := hwhat <;> constructor <;> simp [releaseDeeds, Deed.mark?]

section

variable {f : Factory ε α} {depth : Nat} {d d' : Desk α} {r : Request α} {J : List (Deed ε α)}
  {e : Ending ε (Reply α)}

/-- A get tells whether an instance was handed out. -/
theorem Told.of_get (hf : f.Aloof) {p : Pool α} {g : Ending ε α}
    (h : Runs f (depth + 1) .get p J g) {m : Move} (hm : m.what = .taken ∨ m.what = .checkedOut) :
    Told J (if g.isOk then some m else none).toList := by
  obtain ⟨G, rfl, hquiet⟩ := hf.get h
  refine (Told.of_quiet hquiet).append ?_
  obtain ⟨what, slot?⟩ := m
  cases g with
  | ok a => obtain rfl | rfl := hm <;> exact ⟨rfl, rfl⟩
  | _ => exact ⟨rfl, rfl⟩

/-- **A request to a pool whose factory leaves it alone** notes what becomes of instances. -/
theorem Serves.told (hf : f.Aloof) (h : Serves f (depth + 1) d r J e d') :
    Told J (d.move? r e).toList := by
  rcases hslot : r.slot? with _ | slot
  · cases r with
    | get =>
      obtain ⟨g, hget, hending⟩ := h.get_of_ask rfl
      rw [move?, ← hending]
      exact .of_get hf hget (.inl rfl)
    | checkout =>
      obtain ⟨g, hget, hending⟩ := h.get_of_ask rfl
      rw [move?, ← hending]
      exact .of_get hf hget (.inr rfl)
    | grow count =>
      obtain ⟨⟨g, hgrow⟩, -⟩ := h.of_grow rfl
      exact .of_quiet (hf.quiet_grow hgrow)
    | bring a =>
      obtain ⟨rfl, -, -⟩ := h.of_give rfl
      exact told_releaseDeeds a none (.inr (.inr rfl))
    | _ => cases hslot
  · rw [move?_of_slot? hslot]
    obtain ⟨a, what, herrand, hhandling, hwhat⟩ | ⟨e', herrand, hhandling⟩ :=
      errand_of_slot? (ε := ε) (d := d) hslot
    · obtain ⟨rfl, -, -⟩ := h.of_give herrand
      rw [hhandling]
      exact told_releaseDeeds a (some slot) hwhat
    · obtain ⟨rfl, -, -⟩ := h.of_settle herrand
      rcases hwhat : r.handling? (d.holder slot) with _ | what
      · exact ⟨rfl, rfl⟩
      · obtain rfl | rfl := hhandling what hwhat <;> exact ⟨rfl, rfl⟩

end

end Desk

/-- **The journal of a session tells how many instances were handed out and how many released**, if
the factory leaves the pool alone. -/
theorem Factory.Aloof.told {f : Factory ε α} (hf : f.Aloof) (kind : Kind) (depth : Nat)
    (initial : UInt64) (requests : List (Request α)) :
    Desk.Told (session f kind (depth + 1) initial requests).journal.toList
      (sessionMoves f kind (depth + 1) initial requests) := by
  induction requests using List.reverseRecOn with
  | nil =>
    obtain ⟨J, h, hsession⟩ := exists_session_nil f kind (depth + 1) initial
    rw [hsession]
    refine .of_quiet ?_
    simp only [List.forall_mem_append]
    refine ⟨hf.quiet_grow h, ?_⟩
    rcases (f.build kind (depth + 1) initial).1 with _ | _ | _ | _ <;>
      simp [readyDeeds, Deed.Quiet]
  | append_singleton requests r ih =>
    obtain ⟨J, e, d, h, hsession, hmoves⟩ :=
      exists_session_concat f kind (depth + 1) initial requests r
    rw [hsession, hmoves, Array.toList_append]
    exact ih.append (h.told hf)

end Pool

end ConverterKit
