/-!
# Idle instances

A store keeps the instances that nobody holds. There are two kinds of store. A *local* store
belongs to one thread and keeps them on a stack, so the instance that came back last, which is the
one most likely still in the cache, is served first. A *concurrent* store is shared by threads and
keeps them in a queue, with a tally of its length beside it: the tally is raised before an
instance enters the queue and lowered after one has left it, so it never promises too little.

The view of both is `Idle.toList`, the idle instances in the order in which they arrived.

## Main definitions

* `Pool.Kind`: stack or queue
* `Pool.Line`: a first-in, first-out line of two lists
* `Pool.Idle`: the idle instances of a store, with `push`, `pop?` and `available`

## Main results

* `Line.toList_push`, `Line.toList_of_pop?`: the line is first-in, first-out
* `Idle.toList_push`: an instance arrives last in either kind of store
-/

namespace ConverterKit

namespace Pool

/-- The two kinds of store. -/
inductive Kind where
  /-- One thread, and the instance that arrived last is served first. -/
  | stack
  /-- Any number of threads, and the instance that arrived first is served first. -/
  | queue
deriving DecidableEq

namespace Kind

/-- The kind as it is written in reports. -/
def label : Kind → String
  | .stack => "local"
  | .queue => "concurrent"

/-- The kind as it is written in descriptions. -/
def title : Kind → String
  | .stack => "Local"
  | .queue => "Concurrent"

end Kind

variable {α : Type}

/-! ## A first-in, first-out line -/

/-- A line of waiting instances. New ones are put on `back`, which is turned round when `front` has
run out, so each instance is moved at most once. -/
structure Line (α : Type) where
  /-- The instances next to leave, first one first. -/
  front : List α := []
  /-- The instances that arrived later, last one first. -/
  back : List α := []
deriving DecidableEq

namespace Line

/-- The waiting instances in the order in which they arrived. -/
def toList (l : Line α) : List α := l.front ++ l.back.reverse

/-- Join the line. -/
def push (l : Line α) (a : α) : Line α := { l with back := a :: l.back }

/-- The first instance and the line behind it. -/
def pop? (l : Line α) : Option (α × Line α) :=
  match l.front with
  | a :: front => some (a, { l with front })
  | [] =>
    match l.back.reverse with
    | a :: front => some (a, { front })
    | [] => none

@[simp] theorem toList_push (l : Line α) (a : α) : (l.push a).toList = l.toList ++ [a] := by
  simp [toList, push]

theorem toList_of_pop? {l r : Line α} {a : α} (h : l.pop? = some (a, r)) :
    l.toList = a :: r.toList := by
  obtain ⟨front, back⟩ := l
  match front with
  | b :: front =>
    obtain ⟨rfl, rfl⟩ := by simpa [pop?] using h
    simp [toList]
  | [] =>
    cases hb : back.reverse with
    | nil => simp [pop?, hb] at h
    | cons b front =>
      obtain ⟨rfl, rfl⟩ := by simpa [pop?, hb] using h
      simp [toList, hb]

@[simp] theorem pop?_eq_none_iff {l : Line α} : l.pop? = none ↔ l.toList = [] := by
  obtain ⟨front, back⟩ := l
  match front with
  | b :: front => simp [pop?, toList]
  | [] => cases hb : back.reverse <;> simp [pop?, toList, hb]

end Line

/-! ## The idle instances of a store -/

/-- The instances of a store that nobody holds. -/
inductive Idle (α : Type) where
  /-- A stack, the instance that arrived last on top. -/
  | stack (items : List α)
  /-- A queue, and the tally of its length that is kept beside it. -/
  | queue (line : Line α) (tally : Int)

namespace Idle

/-- No idle instances. -/
def empty : Kind → Idle α
  | .stack => .stack []
  | .queue => .queue {} 0

/-- The kind of store that keeps its instances this way. -/
def kind : Idle α → Kind
  | .stack _ => .stack
  | .queue _ _ => .queue

/-- The idle instances in the order in which they arrived. -/
def toList : Idle α → List α
  | .stack items => items.reverse
  | .queue line _ => line.toList

/-- How many instances the store says are idle: the height of the stack, or the tally. -/
def available : Idle α → Nat
  | .stack items => items.length
  | .queue _ tally => tally.toNat

/-- Add an instance. -/
def push (idle : Idle α) (a : α) : Idle α :=
  match idle with
  | .stack items => .stack (a :: items)
  | .queue line tally => .queue (line.push a) (tally + 1)

/-- The instance to serve next and what is left, if any is idle. -/
def pop? : Idle α → Option (α × Idle α)
  | .stack [] => none
  | .stack (a :: items) => some (a, .stack items)
  | .queue line tally => line.pop?.map fun (a, rest) => (a, .queue rest (tally - 1))

@[simp] theorem kind_empty (k : Kind) : (empty k : Idle α).kind = k := by
  cases k <;> rfl

@[simp] theorem toList_empty (k : Kind) : (empty k : Idle α).toList = [] := by
  cases k <;> rfl

@[simp] theorem available_empty (k : Kind) : (empty k : Idle α).available = 0 := by
  cases k <;> rfl

@[simp] theorem kind_push (idle : Idle α) (a : α) : (idle.push a).kind = idle.kind := by
  cases idle <;> rfl

@[simp] theorem toList_push (idle : Idle α) (a : α) :
    (idle.push a).toList = idle.toList ++ [a] := by
  cases idle <;> simp [push, toList]

theorem kind_of_pop? {idle rest : Idle α} {a : α} (h : idle.pop? = some (a, rest)) :
    rest.kind = idle.kind := by
  match idle with
  | .stack [] => simp [pop?] at h
  | .stack (_ :: _) =>
    obtain ⟨rfl, rfl⟩ := by simpa [pop?] using h
    rfl
  | .queue line tally =>
    obtain ⟨⟨b, r⟩, _, hr⟩ := Option.map_eq_some_iff.1 h
    obtain ⟨rfl, rfl⟩ := by simpa using hr
    rfl

@[simp] theorem pop?_eq_none_iff {idle : Idle α} : idle.pop? = none ↔ idle.toList = [] := by
  match idle with
  | .stack [] => simp [pop?, toList]
  | .stack (_ :: _) => simp [pop?, toList]
  | .queue line _ => simp [pop?, toList]

end Idle

end Pool

end ConverterKit
