import ConverterKit.Proofs.Pool.Custody
import ConverterKit.Proofs.Pool.Groups
import Mathlib.Data.List.Infix

/-!
# The order in which instances are handed out

A queue is first in, first out: the instances that hits handed out, followed by those still idle,
are the instances that were added, in the order in which they were. A stack is last in, first out:
what a hit hands out is the instance that was added last among those not handed out since. Both are
said of the journal, where an addition in the middle of a factory call has its place like any other.

On a stack additions and servings match like brackets, and `Stacked` keeps, for each idle instance,
the matched journal between its addition and that of the instance above it. The law for a user who
only counts is `Even`: as many are taken as are added, and never more than were added so far. Such a
journal leaves the stack as it was, which has to be shown for journals that dig into it and come up
again.

## Main definitions

* `arrivals`, `departures`, `hits`: the instances added, taken, and handed out by hits
* `Prompt`: a journal in which what is taken is handed out at once, as a hit
* `Matched`: a journal in which additions and servings match
* `Even`: a journal in which as many are taken as are added, and never more than were added so far
* `Desk.Releases`: a request releases an instance
* `LastInFirstOut`: the order of a stack

## Main results

* `Supplies.arrivals_eq`: the order of a queue
* `stacked_after`: what is idle on a stack, each instance with what happened since it was added
* `Even.idle_after`: an even journal leaves a stack as it was
* `hand_out_order`: the order in which both kinds of store hand out their instances
-/

namespace ConverterKit

namespace Pool

variable {ε α : Type}

/-! ## Arrivals, departures and hits -/

/-- The instances that joined the idle ones, in this order. -/
def arrivals (J : List (Deed ε α)) : List α :=
  J.filterMap fun
    | .added a => some a
    | _ => none

/-- The instances that left the idle ones, in this order. -/
def departures (J : List (Deed ε α)) : List α :=
  J.filterMap fun
    | .served a => some a
    | _ => none

/-- The instances that hits handed out: what was returned by the gets that were counted as hits. -/
def hits : List (Deed ε α) → List α
  | [] => []
  | .counted .hit :: .getEnded (.ok a) :: J => a :: hits J
  | _ :: J => hits J

/-- Only an addition adds. -/
theorem exists_of_mark_added {d : Deed ε α} (h : d.mark? = some .added) : ∃ a, d = .added a := by
  cases d with
  | added a => exact ⟨a, rfl⟩
  | callEnded e | getEnded e => cases e <;> simp [Deed.mark?] at h
  | _ => simp [Deed.mark?] at h

/-- Only a serving takes. -/
theorem exists_of_mark_served {d : Deed ε α} (h : d.mark? = some .served) :
    ∃ a, d = .served a := by
  cases d with
  | served a => exact ⟨a, rfl⟩
  | callEnded e | getEnded e => cases e <;> simp [Deed.mark?] at h
  | _ => simp [Deed.mark?] at h

/-- The deed neither adds an instance nor takes one. -/
def Deed.Idles (d : Deed ε α) : Prop := d.mark? ≠ some .added ∧ d.mark? ≠ some .served

/-- **What a deed does to the idle instances**: it adds one, takes one, or leaves them alone. -/
theorem Deed.cases_idle (d : Deed ε α) : (∃ a, d = .added a) ∨ (∃ a, d = .served a) ∨ d.Idles := by
  by_cases hadded : d.mark? = some .added
  · exact .inl (exists_of_mark_added hadded)
  by_cases hserved : d.mark? = some .served
  · exact .inr (.inl (exists_of_mark_served hserved))
  · exact .inr (.inr ⟨hadded, hserved⟩)

namespace Deed.Idles

variable {d : Deed ε α}

theorem idle_next (h : d.Idles) (p : Pool α) : (p.next d).idle = p.idle := by
  obtain ⟨hadded, hserved⟩ := h
  cases d with
  | added a => exact absurd rfl hadded
  | served a => exact absurd rfl hserved
  | _ => rfl

theorem arrivals_cons (h : d.Idles) (J : List (Deed ε α)) : arrivals (d :: J) = arrivals J := by
  obtain ⟨hadded, -⟩ := h
  cases d with
  | added a => exact absurd rfl hadded
  | _ => rfl

theorem departures_cons (h : d.Idles) (J : List (Deed ε α)) :
    departures (d :: J) = departures J := by
  obtain ⟨-, hserved⟩ := h
  cases d with
  | served a => exact absurd rfl hserved
  | _ => rfl

end Deed.Idles

/-! ## What is taken is handed out -/

/-- Journals in which an instance that is taken is handed out at once, and counted as a hit. -/
inductive Prompt : List (Deed ε α) → Prop
  | nil : Prompt []
  | hit {a : α} {J : List (Deed ε α)} (hJ : Prompt J) :
      Prompt (.served a :: .counted .hit :: .getEnded (.ok a) :: J)
  | other {d : Deed ε α} {J : List (Deed ε α)} (hserved : d.mark? ≠ some .served)
      (hhit : d.mark? ≠ some (.counted .hit)) (hJ : Prompt J) : Prompt (d :: J)

namespace Prompt

theorem append {J K : List (Deed ε α)} (hJ : Prompt J) (hK : Prompt K) : Prompt (J ++ K) := by
  induction hJ with
  | nil => exact hK
  | hit _ ih => exact .hit ih
  | other hserved hhit _ ih => exact .other hserved hhit ih

theorem of_others {J : List (Deed ε α)}
    (h : ∀ d ∈ J, d.mark? ≠ some .served ∧ d.mark? ≠ some (.counted .hit)) : Prompt J := by
  induction J with
  | nil => exact .nil
  | cons d J ih =>
    obtain ⟨hserved, hhit⟩ := h d List.mem_cons_self
    exact .other hserved hhit (ih fun d hd => h d (List.mem_cons_of_mem _ hd))

/-- What hits handed out is what was taken. -/
theorem hits_eq {J : List (Deed ε α)} (h : Prompt J) : hits J = departures J := by
  induction h with
  | nil => rfl
  | hit _ ih => exact congrArg _ ih
  | @other d J hserved hhit _ ih =>
    have hdepartures : departures (d :: J) = departures J := by
      cases d with
      | served a => exact absurd rfl hserved
      | _ => rfl
    have hhits : hits (d :: J) = hits J := by
      cases d with
      | counted t =>
        cases t with
        | hit => exact absurd rfl hhit
        | _ => rfl
      | _ => rfl
    rw [hdepartures, hhits, ih]

/-- **A hit hands out what was just taken.** -/
theorem of_hit {J before after : List (Deed ε α)} (h : Prompt J)
    (heq : J = before ++ .counted .hit :: after) :
    ∃ a earlier rest, before = earlier ++ [.served a] ∧ after = .getEnded (.ok a) :: rest := by
  induction h generalizing before with
  | nil => simp at heq
  | @hit a J _ ih =>
    rcases before with _ | ⟨d, _ | ⟨d', _ | ⟨d'', before⟩⟩⟩
    · simp at heq
    · obtain ⟨rfl, rfl⟩ := by simpa using heq
      exact ⟨a, [], J, rfl, rfl⟩
    · simp at heq
    · obtain ⟨rfl, rfl, rfl, htail⟩ := by simpa using heq
      obtain ⟨b, earlier, rest, rfl, rfl⟩ := ih htail
      exact ⟨b, _ :: _ :: _ :: earlier, rest, rfl, rfl⟩
  | @other d J hserved hhit _ ih =>
    rcases before with _ | ⟨d', before⟩
    · obtain ⟨rfl, -⟩ := List.cons.inj heq
      exact absurd rfl hhit
    · obtain ⟨rfl, htail⟩ := List.cons.inj heq
      obtain ⟨b, earlier, rest, rfl, rfl⟩ := ih htail
      exact ⟨b, d :: earlier, rest, rfl, rfl⟩

end Prompt

/-- Every group of deeds is prompt. -/
theorem grouped_prompt : Grouped (Prompt (ε := ε) (α := α)) where
  nil := .nil
  append := .append
  callBegan idle := .of_others (by simp [Deed.mark?])
  callEnded e := .of_others (by cases e <;> simp [Deed.mark?])
  failure kind e := .of_others (by cases e <;> simp [failureDeeds, Deed.mark?])
  hit a := .hit .nil
  miss kind e := .of_others (by cases e <;> simp [missDeeds, Deed.mark?])
  release a := .of_others (by simp [releaseDeeds, Deed.mark?])
  addition a := .of_others (by simp [additionDeeds, Deed.mark?])
  growBegan count := .of_others (by simp [Deed.mark?])
  growth p count e := .of_others (by cases e <;> simp [growthDeeds, Deed.mark?])
  ready kind initial e := .of_others (by cases e <;> simp [readyDeeds, Deed.mark?])

/-! ## First in, first out -/

/-- A queue serves the instance that arrived first. -/
theorem Idle.toList_of_pop? {idle rest : Idle α} {a : α} (hkind : idle.kind = .queue)
    (h : idle.pop? = some (a, rest)) : idle.toList = a :: rest.toList := by
  cases idle with
  | stack items => cases hkind
  | queue line tally =>
    obtain ⟨⟨b, r⟩, hline, hrest⟩ := Option.map_eq_some_iff.mp h
    obtain ⟨rfl, rfl⟩ := Prod.mk.inj hrest
    exact Line.toList_of_pop? hline

/-- **The order of a queue**: what was idle and what arrived is what left and what is idle now. -/
theorem Supplies.arrivals_eq {p : Pool α} {J : List (Deed ε α)} (h : p.Supplies J)
    (hkind : p.kind = .queue) :
    p.idle.toList ++ arrivals J = departures J ++ (p.after J).idle.toList := by
  induction J generalizing p with
  | nil => exact List.append_nil _
  | cons d J ih =>
    have hrest := ih h.2 ((kind_next p d).trans hkind)
    rw [after_cons]
    obtain ⟨a, rfl⟩ | ⟨a, rfl⟩ | hidles := d.cases_idle
    · have hadded : (p.next (.added a : Deed ε α)).idle.toList = p.idle.toList ++ [a] :=
        Idle.toList_push _ _
      have harrivals : arrivals (.added a :: J) = a :: arrivals J := rfl
      rw [hadded, List.append_assoc] at hrest
      rw [harrivals]
      exact hrest
    · obtain ⟨rest, hpop⟩ := h.1 a rfl
      have hserved : (p.next (.served a : Deed ε α)).idle = rest := by simp [next, hpop]
      rw [hserved] at hrest
      rw [Idle.toList_of_pop? hkind hpop]
      exact congrArg (a :: ·) hrest
    · rw [hidles.idle_next] at hrest
      rw [hidles.arrivals_cons, hidles.departures_cons]
      exact hrest

/-! ## Last in, first out -/

/-- Journals in which additions and servings match like brackets, the two ends of a bracket being
those of the stay of one instance. -/
inductive Matched : List (Deed ε α) → Prop
  | nil : Matched []
  | idles {d : Deed ε α} {J : List (Deed ε α)} (hd : d.Idles) (hJ : Matched J) : Matched (d :: J)
  | stay {a : α} {K J : List (Deed ε α)} (hK : Matched K) (hJ : Matched J) :
      Matched (.added a :: (K ++ .served a :: J))

theorem Matched.append {J K : List (Deed ε α)} (hJ : Matched J) (hK : Matched K) :
    Matched (J ++ K) := by
  induction hJ with
  | nil => exact hK
  | idles hd _ ih => exact .idles hd ih
  | stay hinner _ _ ih =>
    rw [List.cons_append, List.append_assoc]
    exact .stay hinner ih

/-- These instances are on a stack, the topmost first: what happened since one of them was added,
until the one above it was, matches. -/
inductive Stacked : List (Deed ε α) → List α → Prop
  | bottom {K : List (Deed ε α)} (hK : Matched K) : Stacked K []
  | onTop {a : α} {items : List α} {J K : List (Deed ε α)} (hJ : Stacked J items)
      (hK : Matched K) : Stacked (J ++ .added a :: K) (a :: items)

namespace Stacked

variable {J K : List (Deed ε α)} {a : α} {items : List α}

/-- What matches leaves the stack alone. -/
theorem append (hJ : Stacked J items) (hK : Matched K) : Stacked (J ++ K) items := by
  cases hJ with
  | bottom h => exact .bottom (h.append hK)
  | onTop hJ h =>
    rw [List.append_assoc]
    exact .onTop hJ (h.append hK)

/-- Since the topmost instance was added, everything else has gone again. -/
theorem exists_split (h : Stacked J (a :: items)) :
    ∃ earlier since, J = earlier ++ .added a :: since ∧ Stacked earlier items ∧ Matched since := by
  cases h with
  | onTop hJ hK => exact ⟨_, _, rfl, hJ, hK⟩

/-- The topmost instance is taken: its stay is over. -/
theorem serve (h : Stacked J (a :: items)) : Stacked (J ++ [.served a]) items := by
  obtain ⟨earlier, since, rfl, hearlier, hsince⟩ := h.exists_split
  rw [List.append_assoc]
  exact hearlier.append (.stay hsince .nil)

end Stacked

/-- **What is idle on a stack**, each instance with what happened since it was added. -/
theorem stacked_after {J : List (Deed ε α)} (h : (empty .stack).Supplies J) :
    ∃ items, ((empty .stack : Pool α).after J).idle = .stack items ∧ Stacked J items := by
  induction J using List.reverseRecOn with
  | nil => exact ⟨[], rfl, .bottom .nil⟩
  | append_singleton J d ih =>
    obtain ⟨hJ, hd, -⟩ := supplies_append.mp h
    obtain ⟨items, hidle, hstacked⟩ := ih hJ
    rw [after_append, after_cons, after_nil]
    obtain ⟨a, rfl⟩ | ⟨a, rfl⟩ | hidles := d.cases_idle
    · refine ⟨a :: items, ?_, .onTop hstacked .nil⟩
      simp [next, hidle, Idle.push]
    · obtain ⟨rest, hpop⟩ := hd a rfl
      rw [hidle] at hpop
      cases items with
      | nil => simp [Idle.pop?] at hpop
      | cons b items =>
        obtain ⟨rfl, -⟩ := by simpa [Idle.pop?] using hpop
        exact ⟨items, by simp [next, hidle, Idle.pop?], hstacked.serve⟩
    · exact ⟨items, (hidles.idle_next _).trans hidle, hstacked.append (.idles hidles .nil)⟩

/-- As many instances are taken as are added, and at no point more than were added so far. -/
structure Even (J : List (Deed ε α)) : Prop where
  /-- In the end as many are taken as are added. -/
  total : occurrences .served J = occurrences .added J
  /-- At no point more are taken than were added. -/
  never : ∀ K ∈ J.inits, occurrences .served K ≤ occurrences .added K

instance (J : List (Deed ε α)) : Decidable (Even J) :=
  decidable_of_iff
    (occurrences .served J = occurrences .added J ∧
      ∀ K ∈ J.inits, occurrences .served K ≤ occurrences .added K)
    ⟨fun h => ⟨h.1, h.2⟩, fun h => ⟨h.total, h.never⟩⟩

/-- What digs no deeper than the instances on top, and takes as many more than it adds, leaves what
was under them. -/
theorem idle_after_of_top {top base : List α} {p : Pool α} {J : List (Deed ε α)}
    (hidle : p.idle = .stack (top ++ base))
    (htotal : occurrences .served J = occurrences .added J + top.length)
    (hnever : ∀ K ∈ J.inits, occurrences .served K ≤ occurrences .added K + top.length) :
    (p.after J).idle = .stack base := by
  induction J generalizing top p with
  | nil =>
    obtain rfl : top = [] := List.length_eq_zero_iff.mp (by simpa using htotal.symm)
    exact hidle
  | cons d J ih =>
    have hinits : ∀ K ∈ J.inits, d :: K ∈ (d :: J).inits := by simp
    rw [after_cons]
    obtain ⟨a, rfl⟩ | ⟨a, rfl⟩ | hidles := d.cases_idle
    · refine @ih (a :: top) _ ?_ ?_ fun K hK => ?_
      · simp [next, hidle, Idle.push]
      · simp only [occurrences_cons, Deed.mark?] at htotal
        simpa [add_assoc, add_comm] using htotal
      · have hbound := hnever _ (hinits K hK)
        simp only [occurrences_cons, Deed.mark?] at hbound
        simpa [add_assoc, add_comm] using hbound
    · -- taking one means that there is one on top
      have hone : 1 ≤ 0 + top.length := hnever [.served a] (hinits [] (by simp))
      obtain ⟨b, top, rfl⟩ := List.exists_cons_of_length_pos (show 0 < top.length by omega)
      refine @ih top _ ?_ ?_ fun K hK => ?_
      · simp [next, hidle, Idle.pop?]
      · simp only [occurrences_cons, Deed.mark?, List.length_cons] at htotal
        simpa [← add_assoc] using htotal
      · have hbound := hnever _ (hinits K hK)
        simp only [occurrences_cons, Deed.mark?, List.length_cons] at hbound
        simpa [← add_assoc] using hbound
    · obtain ⟨hadded, hserved⟩ := id hidles
      refine @ih top _ ((hidles.idle_next p).trans hidle) ?_ fun K hK => ?_
      · simpa [hadded, hserved] using htotal
      · simpa [hadded, hserved] using hnever _ (hinits K hK)

/-- **An even journal leaves a stack as it was.** -/
theorem Even.idle_after {p : Pool α} {J : List (Deed ε α)} (h : Even J)
    (hkind : p.kind = .stack) : (p.after J).idle = p.idle := by
  rcases hidle : p.idle with items | ⟨line, tally⟩
  · have htop : p.idle = .stack ([] ++ items) := hidle
    exact idle_after_of_top htop h.total h.never
  · rw [kind, hidle] at hkind
    cases hkind

/-- After what is even, the instance that was added last is served next. -/
theorem Even.pop?_after {p q : Pool α} {a : α} {K : List (Deed ε α)} (h : Even K)
    (hkind : p.kind = .stack) (hadded : q.idle = p.idle.push a) :
    (q.after K).idle.pop? = some (a, p.idle) := by
  have hpushed : q.kind = .stack := by
    rw [kind, hadded, Idle.kind_push]
    exact hkind
  rw [h.idle_after hpushed, hadded]
  rcases hidle : p.idle with items | ⟨line, tally⟩
  · rfl
  · rw [kind, hidle] at hkind
    cases hkind

/-- The order in which a stack hands out instances. -/
structure LastInFirstOut (J : List (Deed ε α)) : Prop where
  /-- A hit hands out the instance added last: what was added since has been handed out since. -/
  latest : ∀ before after, J = before ++ .counted .hit :: after →
    ∃ a earlier since rest, after = .getEnded (.ok a) :: rest ∧
      before = earlier ++ .added a :: (since ++ [.served a]) ∧ Matched since
  /-- An instance that is added is the next one to be served after what is even. -/
  back : ∀ before a since b after, J = before ++ .added a :: (since ++ .served b :: after) →
    Even since → b = a

/-- A stack that serves what it has, and hands it out, is last in, first out. -/
theorem lastInFirstOut {J : List (Deed ε α)} (h : (empty .stack).Supplies J) (hprompt : Prompt J) :
    LastInFirstOut J where
  latest := by
    intro before after hJ
    obtain ⟨a, earlier, rest, rfl, rfl⟩ := hprompt.of_hit hJ
    subst hJ
    obtain ⟨hearlier, hserved, -⟩ := supplies_append.mp (supplies_append.mp h).1
    obtain ⟨items, hidle, hstacked⟩ := stacked_after hearlier
    obtain ⟨remaining, hpop⟩ := hserved a rfl
    rw [hidle] at hpop
    cases items with
    | nil => simp [Idle.pop?] at hpop
    | cons b items =>
      obtain ⟨rfl, -⟩ := by simpa [Idle.pop?] using hpop
      obtain ⟨before, since, rfl, -, hsince⟩ := hstacked.exists_split
      refine ⟨b, before, since, rest, rfl, ?_, hsince⟩
      rw [List.append_assoc, List.cons_append]
  back := by
    intro before a since b after hJ heven
    subst hJ
    obtain ⟨-, hadded⟩ := supplies_append.mp h
    obtain ⟨-, hserved, -⟩ := supplies_append.mp hadded.2
    obtain ⟨rest, hpop⟩ := hserved b rfl
    have hkind : ((empty .stack : Pool α).after before).kind = .stack :=
      (kind_after _ before).trans (Idle.kind_empty .stack)
    rw [heven.pop?_after hkind rfl] at hpop
    exact (congrArg Prod.fst (Option.some.inj hpop)).symm

/-! ## The instance released last -/

namespace Desk

/-- A request releases this instance: one from outside, the bare one in a slot or a copy of it, or
the one under a guard that is dropped. -/
inductive Releases (d : Desk α) : Request α → α → Prop
  | brought (a : α) : Releases d (.bring a) a
  | bare {slot : Nat} {a : α} (h : d.holder slot = .bare a) : Releases d (.release slot) a
  | copied {slot : Nat} {a : α} (h : d.holder slot = .bare a) : Releases d (.releaseCopy slot) a
  | guarded {slot : Nat} {a : α} (h : d.holder slot = .guarded ⟨some a⟩) :
      Releases d (.drop slot) a

/-- Such a request gives the instance to the pool. -/
theorem Releases.exists_errand {d : Desk α} {r : Request α} {a : α} (h : d.Releases r a) :
    ∃ slots, (d.errand r : Errand ε α) = .give a slots := by
  cases h with
  | brought => exact ⟨_, rfl⟩
  | bare h | copied h | guarded h =>
    simp only [errand, h]
    exact ⟨_, rfl⟩

variable {f : Factory ε α} {depth : Nat}

/-- A pool with an instance to serve hands it out, bare or under a guard. -/
theorem serve_of_pop? {d : Desk α} {a : α} {rest : Idle α}
    (hpop : d.pool.idle.pop? = some (a, rest)) {r : Request α} (hr : r = .get ∨ r = .checkout)
    (journal : Array (Deed ε α)) :
    (serve f depth r ⟨d, journal⟩).1 = .ok (.handedOut d.slots.size a) := by
  have hrun : Runs f depth .get d.pool [.served a, .counted .hit, .getEnded (.ok a)] (.ok a) :=
    .hit hpop
  obtain rfl | rfl := hr
  · exact congrArg Prod.fst ((Serves.handedOut rfl hrun).serve_eq journal)
  · exact congrArg Prod.fst ((Serves.handedOut rfl hrun).serve_eq journal)

/-- The deeds that a list of requests adds to the journal. -/
def deeds (f : Factory ε α) (depth : Nat) (requests : List (Request α))
    (s : Scene (Desk α) (Deed ε α)) : List (Deed ε α) :=
  (visit f depth requests s).journal.toList.drop s.journal.size

/-- What a list of requests does adds its deeds. -/
theorem deeds_eq_of_visit {s : Scene (Desk α) (Deed ε α)} {d : Desk α} {requests : List (Request α)}
    {J : List (Deed ε α)} (hvisit : visit f depth requests s = ⟨d, s.journal ++ J.toArray⟩) :
    deeds f depth requests s = J := by
  rw [deeds, hvisit, Array.toList_append, ← Array.length_toList, List.drop_left]

/-- An instance that is released now is the one handed out next, as soon as as many instances have
been taken as were added since, and unless more were taken at some point. -/
def HandsOutNext (f : Factory ε α) (depth : Nat) (s : Scene (Desk α) (Deed ε α)) : Prop :=
  ∀ r a later next, s.state.Releases r a →
    Even (deeds f depth later (serve f depth r s).2) → next = .get ∨ next = .checkout →
    (serve f depth next (visit f depth later (serve f depth r s).2)).1 =
      .ok (.handedOut (visit f depth later (serve f depth r s).2).state.slots.size a)

/-- **At a stack, an instance that is released is handed out next.** -/
theorem handsOutNext {s : Scene (Desk α) (Deed ε α)} (hkind : s.state.pool.kind = .stack) :
    HandsOutNext f depth s := by
  intro r a later next hr heven hnext
  obtain ⟨slots, herrand⟩ := hr.exists_errand (ε := ε)
  have hgiven : Serves f depth s.state r (releaseDeeds a) (.ok .done)
      ⟨s.state.pool.after (releaseDeeds a : List (Deed ε α)), slots⟩ := .given herrand
  have hserve := hgiven.serve_eq s.journal
  obtain ⟨J, d, hvisits, hvisit⟩ := exists_visits f depth later (serve f depth r s).2
  rw [deeds_eq_of_visit hvisit] at heven
  have hpop : d.pool.idle.pop? = some (a, s.state.pool.idle) := by
    rw [hvisits.pool_eq, hserve]
    exact heven.pop?_after hkind rfl
  rw [hvisit]
  exact serve_of_pop? hpop hnext _

end Desk

/-- **The order in which instances are handed out**, in every session and whatever the factory does
with its pool. A queue hands out by hits what was added, in the order in which it was. A stack hands
out what was added last. -/
theorem hand_out_order (f : Factory ε α) (depth : Nat) (initial : UInt64)
    (requests : List (Request α)) :
    hits (session f .queue depth initial requests).journal.toList ++
        (session f .queue depth initial requests).state.pool.idle.toList =
      arrivals (session f .queue depth initial requests).journal.toList ∧
    LastInFirstOut (session f .stack depth initial requests).journal.toList ∧
    Desk.HandsOutNext f depth (session f .stack depth initial requests) := by
  have hprompt : ∀ kind, Prompt (session f kind depth initial requests).journal.toList :=
    fun kind => session_of_grouped grouped_prompt f kind depth initial requests
  refine ⟨?_, ?_, ?_⟩
  · have hchronicle := chronicle_session f .queue depth initial requests
    have horder := hchronicle.supplies.arrivals_eq (Idle.kind_empty .queue)
    rw [(hprompt .queue).hits_eq, hchronicle.pool_eq]
    exact horder.symm
  · have hchronicle := chronicle_session f .stack depth initial requests
    exact lastInFirstOut hchronicle.supplies (hprompt .stack)
  · have hchronicle := chronicle_session f .stack depth initial requests
    refine Desk.handsOutNext ?_
    rw [hchronicle.pool_eq, kind_after]
    exact Idle.kind_empty .stack

/-- The desk of a user that has just given back what it got. -/
def givenBack : Scene (Desk Tagged) (Deed String Tagged) :=
  (Desk.serve generous.factory 10 (.release 0) (session generous.factory .stack 10 1 [.get])).2

/-- Requests that take as many instances as they add, with a growth that panics in the middle of a
factory call that has released an instance. -/
def evenRequests : List (Request Tagged) :=
  [.bring { tag := 83 }, .checkout, .grow 1, .drop 1, .get, .get]

/-- What was given back is handed out again. -/
theorem hand_out_order_generous :
    (Desk.serve generous.factory 10 .get
        (Desk.visit generous.factory 10 evenRequests givenBack)).1 =
      .ok (.handedOut 4 { tag := 0 }) := by
  have hbare : (session generous.factory .stack 10 1 [.get]).state.holder 0 = .bare { tag := 0 } :=
    rfl
  exact (hand_out_order generous.factory 10 1 [.get]).2.2 _ _ evenRequests .get (.bare hbare)
    (by decide +kernel) (.inl rfl)

end Pool

end ConverterKit
