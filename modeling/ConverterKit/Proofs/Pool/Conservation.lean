import ConverterKit.Proofs.Pool.Stock
import Mathlib.Algebra.Ring.Nat

/-!
# Conservation laws are local

Deeds are noted in small groups: a hit, what follows a factory call, an added instance, a release.
Give every deed a weight. If the weights of each group add up to nothing, then those of a whole
session do, however factory calls nest, fail or panic inside of it. Only a factory call that made
an instance is left open, until the instance is added or handed out; what it lacks until then is
`made`.

So a law about what is counted in a session is proved by looking at the groups one at a time.

## Main definitions

* `total`: the weights of some deeds together
* `Conserved`: a weight that is balanced on every group of deeds
* `Mark`, `Deed.mark?`, `occurrences`: what kinds of deeds there are, and how often one occurs
* `Chronicle`: what is known of the journal of a session
* `Law`: weights by the kind of the deed that are balanced on every group
* `against`: the weights that set some kinds of deeds against others

## Main results

* `Runs.settled`: a run leaves nothing open but the instance it may have made
* `Desk.Visits.total_eq_zero`, `total_opening`: requests and the building of a pool leave nothing
  open
* `chronicle_session`: what is known of the journal of a session
* `occurrences_eq_of_law`: what laws say of how often things happen
-/

namespace ConverterKit

namespace Pool

variable {ε α β : Type}

/-! ## Weights -/

/-- The weights of some deeds together. -/
def total (w : Deed ε α → ℤ) (J : List (Deed ε α)) : ℤ := (J.map w).sum

section

variable (w : Deed ε α → ℤ)

@[simp] theorem total_nil : total w [] = 0 := rfl

@[simp] theorem total_cons (d : Deed ε α) (J : List (Deed ε α)) :
    total w (d :: J) = w d + total w J :=
  List.sum_cons

@[simp] theorem total_append (J K : List (Deed ε α)) :
    total w (J ++ K) = total w J + total w K := by
  simp [total]

/-- What is still to come when a factory call made for an instance has ended: the instance, if
there is one, is to be added or handed out. -/
def made : Ending ε α → ℤ
  | .ok a => - total w (additionDeeds a)
  | _ => 0

/-- A weight that is balanced on every group of deeds. -/
structure Conserved : Prop where
  /-- A factory call is balanced, up to the instance it made. -/
  call : ∀ idle kind e,
    w (.callBegan idle) + w (.callEnded e) + total w (failureDeeds kind e) = made w e
  /-- The instance is worth the same whether it is added or handed out. -/
  miss : ∀ kind e, made w e + total w (missDeeds kind e) + w (.getEnded e) = 0
  /-- A hit is balanced. -/
  hit : ∀ a, w (.served a) + w (.counted .hit) + w (.getEnded (.ok a)) = 0
  /-- A release is balanced. -/
  release : ∀ a, total w (releaseDeeds a) = 0
  /-- A growth is balanced, without what it adds. -/
  growth : ∀ (p : Pool α) count e,
    w (.growBegan count) + total w (growthDeeds p count e) + w (.growEnded count e) = 0
  /-- The report that a pool is ready has no weight. -/
  ready : ∀ kind initial, w (.reported (Report.ready kind initial)) = 0

end

variable {w : Deed ε α → ℤ}

theorem made_of_stop {e : Ending ε α} {e' : Ending ε β} (he : e.stop? = some e') :
    made w e = 0 := by
  cases e with
  | ok a => simp [Ending.stop?] at he
  | _ => rfl

/-- What a task leaves open when its deeds weigh this much. -/
def Task.Settled (w : Deed ε α → ℤ) : {β : Type} → Task ε α β → Ending ε β → ℤ → Prop
  | _, .call, e, x => ∀ kind, x + total w (failureDeeds kind e) = made w e
  | _, .make, e, x => x = made w e
  | _, _, _, x => x = 0

/-- **A run leaves nothing open** but the instance it may have made. -/
theorem Runs.settled {f : Factory ε α} {depth : Nat} {task : Task ε α β} {p : Pool α}
    {J : List (Deed ε α)} {e : Ending ε β} (hw : Conserved w) (h : Runs f depth task p J e) :
    task.Settled w e (total w J) := by
  induction h with
  | tooDeep => exact fun kind => rfl
  | addedAll | grewByNone | makes | fails | panics => rfl
  | @called n p J e h ih =>
    intro kind
    have hplay : total w J = 0 := ih
    have hcall := hw.call p.idle kind e
    simp only [total_cons, total_append, total_nil]
    omega
  | @made n p J e h ih =>
    show total w (J ++ failureDeeds p.kind e) = _
    rw [total_append]
    exact ih p.kind
  | @hit n p a rest hidle =>
    have hhit := hw.hit a
    show total w [.served a, .counted .hit, .getEnded (.ok a)] = 0
    simp only [total_cons, total_nil]
    omega
  | @missed n p J e hidle h ih =>
    have hmake : total w J = Pool.made w e := ih
    have hmiss := hw.miss p.kind e
    show total w (J ++ (missDeeds p.kind e ++ [.getEnded e])) = 0
    simp only [total_append, total_cons, total_nil]
    omega
  | released => exact hw.release _
  | @added n m p a J K e hmake h ihmake ih =>
    have hJ : total w J = - total w (additionDeeds a) := ihmake
    have hK : total w K = 0 := ih
    show total w (J ++ (additionDeeds a ++ K)) = 0
    simp only [total_append]
    omega
  | addStopped hmake he ih => exact Eq.trans ih (made_of_stop he)
  | @growRefused n p count hcount hroom =>
    have hgrowth := hw.growth p count (.panicked "capacity overflow")
    show total w [.growBegan count, .growEnded count (.panicked "capacity overflow")] = 0
    simpa [growthDeeds] using hgrowth
  | @grew n p count J e hcount hroom h ih =>
    have hadd : total w J = 0 := ih
    have hgrowth := hw.growth (p.after J) count e
    show total w (.growBegan count ::
      (J ++ (growthDeeds (p.after J) count e ++ [.growEnded count e]))) = 0
    simp only [total_append, total_cons, total_nil]
    omega
  | @releases n p a script J e h ih =>
    have hrelease := hw.release a
    have hJ : total w J = 0 := ih
    show total w (releaseDeeds a ++ J) = 0
    rw [total_append, hrelease, hJ, add_zero]
  | @grows n p count script J K g r e hgrow hr h ihgrow ih =>
    have hJ : total w J = 0 := ihgrow
    have hK : total w K = 0 := ih
    show total w (J ++ K) = 0
    rw [total_append, hJ, hK, add_zero]
  | growStopped hgrow hr he ih => exact ih
  | @gets n p script J K g r e hget hr h ihget ih =>
    have hJ : total w J = 0 := ihget
    have hK : total w K = 0 := ih
    show total w (J ++ K) = 0
    rw [total_append, hJ, hK, add_zero]
  | getStopped hget hr he ih => exact ih

namespace Desk

variable {f : Factory ε α} {depth : Nat}

/-- A request leaves nothing open. -/
theorem Serves.total_eq_zero {d d' : Desk α} {r : Request α} {J : List (Deed ε α)}
    {e : Ending ε (Reply α)} (hw : Conserved w) (h : Serves f depth d r J e d') :
    total w J = 0 := by
  cases h with
  | handedOut hr h | notHandedOut hr h | grown hr h | notGrown hr h => exact h.settled hw
  | given hr => exact hw.release _
  | settled hr => rfl

/-- **A list of requests leaves nothing open.** -/
theorem Visits.total_eq_zero {d d' : Desk α} {requests : List (Request α)} {J : List (Deed ε α)}
    {es : List (Ending ε (Reply α))} (hw : Conserved w) (h : Visits f depth d requests J es d') :
    total w J = 0 := by
  induction h with
  | nil => rfl
  | cons h hs ih => rw [total_append, h.total_eq_zero hw, ih, add_zero]

end Desk

/-- **The building of a pool leaves nothing open.** -/
theorem total_opening {f : Factory ε α} {depth : Nat} {p : Pool α} {J : List (Deed ε α)}
    {e : Ending ε Unit} {initial : UInt64} (hw : Conserved w)
    (h : Runs f depth (.grow initial) p J e) (kind : Kind) :
    total w (J ++ readyDeeds kind initial e) = 0 := by
  have hJ : total w J = 0 := h.settled hw
  rw [total_append, hJ, zero_add]
  cases e with
  | ok =>
    show w (.reported (Report.ready kind initial)) + 0 = 0
    rw [hw.ready, add_zero]
  | _ => rfl

/-! ## Whole sessions -/

/-- What is known of the journal of a session and of the pool at its end. -/
structure Chronicle (kind : Kind) (J : List (Deed ε α)) (p : Pool α) : Prop where
  /-- The pool is what the journal says. -/
  pool_eq : p = (empty kind).after J
  /-- Only what was there was served. -/
  supplies : (empty kind).Supplies J
  /-- Nothing is left open. -/
  total_eq_zero : ∀ w, Conserved w → total w J = 0

/-- **A session keeps its journal.** -/
theorem chronicle_session (f : Factory ε α) (kind : Kind) (depth : Nat) (initial : UInt64)
    (requests : List (Request α)) :
    Chronicle kind (session f kind depth initial requests).journal.toList
      (session f kind depth initial requests).state.pool := by
  obtain ⟨J, K, d, h, hopened, hvisits, hsession⟩ := exists_session f kind depth initial requests
  rw [hopened] at hvisits
  rw [hsession]
  refine ⟨?_, ?_, fun w hw => ?_⟩
  · simp [hvisits.pool_eq]
  · rw [← hsession]
    exact supplies_of_along fun _ hfits => along_session hfits f kind depth initial requests
  · show total w (J ++ _ ++ K) = 0
    rw [total_append, total_opening hw h kind, hvisits.total_eq_zero hw, add_zero]

/-! ## How often things happen -/

/-- A kind of deed that can be counted. -/
inductive Mark where
  /-- A factory call began. -/
  | began
  /-- A factory call returned an instance. -/
  | returned
  /-- A factory call returned an error. -/
  | failed
  /-- A factory call panicked. -/
  | panicked
  /-- A factory call nested too deep. -/
  | lapsed
  /-- A get handed out an instance. -/
  | got
  /-- An instance was released. -/
  | released
  /-- An instance joined the idle ones. -/
  | added
  /-- An instance left the idle ones. -/
  | served
  /-- A happening was counted. -/
  | counted (tally : Tally)
deriving DecidableEq

/-- The kind of a deed. -/
def Deed.mark? : Deed ε α → Option Mark
  | .callBegan _ => some .began
  | .callEnded (.ok _) => some .returned
  | .callEnded (.error _) => some .failed
  | .callEnded (.panicked _) => some .panicked
  | .callEnded .unfinished => some .lapsed
  | .getEnded (.ok _) => some .got
  | .released _ => some .released
  | .added _ => some .added
  | .served _ => some .served
  | .counted t => some (.counted t)
  | _ => none

/-- How often a kind of deed occurs. -/
def occurrences (m : Mark) (J : List (Deed ε α)) : Nat := J.countP fun d => d.mark? = some m

@[simp] theorem occurrences_nil (m : Mark) : occurrences m ([] : List (Deed ε α)) = 0 := rfl

@[simp] theorem occurrences_cons (m : Mark) (d : Deed ε α) (J : List (Deed ε α)) :
    occurrences m (d :: J) = occurrences m J + if d.mark? = some m then 1 else 0 := by
  simp [occurrences, List.countP_cons]

@[simp] theorem occurrences_append (m : Mark) (J K : List (Deed ε α)) :
    occurrences m (J ++ K) = occurrences m J + occurrences m K :=
  List.countP_append

/-- The weight of a deed by its kind. -/
def weigh (c : Mark → ℤ) (d : Deed ε α) : ℤ := (d.mark?.map c).getD 0

/-- Weights by kind that are balanced on every group of deeds. -/
structure Law (c : Mark → ℤ) : Prop where
  /-- A call returns an instance, to be added by a growth. -/
  returned : c .began + c .returned + (c .added + c (.counted .growth)) = 0
  /-- A call returns an error, which is counted. -/
  failed : c .began + c .failed + c (.counted .failure) = 0
  /-- A call panics. -/
  panicked : c .began + c .panicked = 0
  /-- A call nests too deep. -/
  lapsed : c .began + c .lapsed = 0
  /-- A miss hands out what a growth would have added. -/
  miss : c (.counted .miss) + c .got = c .added + c (.counted .growth)
  /-- A hit hands out an idle instance. -/
  hit : c .served + c (.counted .hit) + c .got = 0
  /-- A release adds an instance. -/
  release : c .added + c (.counted .release) + c .released = 0

/-- Weights by kind that are balanced are conserved. -/
theorem Law.conserved {c : Mark → ℤ} (hc : Law c) : Conserved (weigh (ε := ε) (α := α) c) where
  call idle kind e := by
    obtain ⟨hreturned, hfailed, hpanicked, hlapsed, -, -, -⟩ := hc
    cases e with
    | ok a =>
      show c .began + c .returned + 0 = -(c .added + (c (.counted .growth) + 0))
      omega
    | error reason =>
      show c .began + c .failed + (c (.counted .failure) + (0 + 0)) = 0
      omega
    | panicked message =>
      show c .began + c .panicked + 0 = 0
      omega
    | unfinished =>
      show c .began + c .lapsed + 0 = 0
      omega
  miss kind e := by
    have hmiss := hc.miss
    cases e with
    | ok a =>
      show -(c .added + (c (.counted .growth) + 0)) + (c (.counted .miss) + (0 + 0)) + c .got = 0
      omega
    | _ => rfl
  hit a := hc.hit
  release a := by
    have hrelease := hc.release
    show c .added + (c (.counted .release) + (c .released + 0)) = 0
    omega
  growth p count e := by cases e <;> rfl
  ready kind initial := rfl

/-! ## One side against the other -/

/-- Weights that set the kinds on the left against those on the right. -/
def against (left right : List Mark) (m : Mark) : ℤ := left.count m - right.count m

theorem weigh_against (left right : List Mark) (d : Deed ε α) :
    weigh (against left right) d = (left.countP fun m => d.mark? = some m : ℤ) -
      (right.countP fun m => d.mark? = some m) := by
  rcases h : d.mark? with _ | m
  · simp [weigh, h]
  · have hcount : ∀ marks : List Mark,
        marks.countP (fun m' => decide (some m = some m')) = marks.count m := fun marks =>
      List.countP_congr fun m' _ => by
        rw [decide_eq_true_iff, beq_iff_eq, Option.some.injEq]
        exact eq_comm
    rw [weigh, h, hcount, hcount]
    rfl

theorem sum_occurrences_cons (marks : List Mark) (d : Deed ε α) (J : List (Deed ε α)) :
    (marks.map fun m => occurrences m (d :: J)).sum =
      (marks.map fun m => occurrences m J).sum + marks.countP fun m => d.mark? = some m := by
  induction marks with
  | nil => rfl
  | cons m marks ih =>
    rw [List.map_cons, List.sum_cons, ih, occurrences_cons, List.map_cons, List.sum_cons,
      List.countP_cons]
    simp only [decide_eq_true_eq]
    omega

/-- What deeds weigh together is reckoned from how often each kind occurs. -/
theorem total_against (left right : List Mark) (J : List (Deed ε α)) :
    total (weigh (against left right)) J =
      ((left.map fun m => occurrences m J).sum : ℕ) -
        ((right.map fun m => occurrences m J).sum : ℕ) := by
  induction J with
  | nil => simp
  | cons d J ih =>
    have hleft := sum_occurrences_cons left d J
    have hright := sum_occurrences_cons right d J
    rw [total_cons, ih, weigh_against]
    omega

/-- Where nothing is left open, both sides of a law occur equally often. -/
theorem occurrences_eq_of_law (left right : List Mark) (hlaw : Law (against left right))
    {J : List (Deed ε α)} (h : ∀ w : Deed ε α → ℤ, Conserved w → total w J = 0) :
    (left.map fun m => occurrences m J).sum = (right.map fun m => occurrences m J).sum := by
  have htotal := h _ hlaw.conserved
  rw [total_against] at htotal
  omega

end Pool

end ConverterKit
