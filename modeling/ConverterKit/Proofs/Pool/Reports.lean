import ConverterKit.Proofs.Pool.Counters
import ConverterKit.Proofs.Pool.Groups

/-!
# What a pool reports is what it counts

A miss and a factory error are counted and then reported, with nothing in between. So the events
about them are as many as their counters say, and each of them is preceded by the raise it tells of.

A growth is counted once for every instance but reported once for all of them, and only if all were
added. Growths are opened and closed like brackets, since a factory call may grow the pool while a
growth waits for it. `Books` reads a journal with the growths that are open; what is added or
reported belongs to the growth opened last. It turns out that every growth that succeeds reports
exactly once, with the count it was asked for; that a growth that does not succeed adds fewer
instances than it was asked for and reports nothing; and that all other deeds leave the books alone.

The report that a pool is ready comes after everything that its first growth noted, and only then.

## Main definitions

* `Topic`, `IsAbout`: what the events of a pool are about
* `told`: how many events are about a topic
* `Paired`: a journal in which what is counted is reported next
* `Growth`, `Books`: growths with what belongs to them, and the books that are kept of them
* `Candid`: events and counters that tell the same story

## Main results

* `Paired.told_eq`, `Paired.of_report`: events about a topic follow the raises of its counter
* `Runs.closed`: what a run does to the books
* `reports_candid`: events and counters of a pool tell the same story
-/

namespace ConverterKit

/-- The number in a field of an event, if it has this field and there is a number in it. -/
def Log.Event.number? (name : String) (e : Log.Event) : Option Nat :=
  match e.fields.lookup name with
  | some (.number n) => some n
  | _ => none

namespace Pool

variable {ε α β : Type}

/-! ## Topics -/

/-- What an event of a pool is about. -/
inductive Topic where
  /-- A pool is ready. -/
  | ready
  /-- The factory returned an error. -/
  | failure
  /-- A get was served by the factory. -/
  | miss
  /-- A growth has added its instances. -/
  | growth
deriving DecidableEq

/-- What the message of an event says after the kind of the store. -/
def Topic.text : Topic → String
  | .ready => " backing store ready"
  | .failure => " store factory failed"
  | .miss => " store miss, manufactured new instance"
  | .growth => " store grown"

/-- An event is about a topic if its message says so, for either kind of store. -/
def IsAbout (e : Log.Event) (topic : Topic) : Prop :=
  e.message = Kind.stack.label ++ topic.text ∨ e.message = Kind.queue.label ++ topic.text

instance (e : Log.Event) (topic : Topic) : Decidable (IsAbout e topic) := instDecidableOr

@[simp] theorem isAbout_ready (kind : Kind) (initial : UInt64) (topic : Topic) :
    IsAbout (Report.ready kind initial) topic ↔ topic = .ready := by
  simp only [IsAbout, Report.ready]
  cases kind <;> cases topic <;> decide

@[simp] theorem isAbout_factoryFailed (kind : Kind) (topic : Topic) :
    IsAbout (Report.factoryFailed kind) topic ↔ topic = .failure := by
  cases kind <;> cases topic <;> decide

@[simp] theorem isAbout_miss (kind : Kind) (topic : Topic) :
    IsAbout (Report.miss kind) topic ↔ topic = .miss := by
  cases kind <;> cases topic <;> decide

@[simp] theorem isAbout_grown (kind : Kind) (count : UInt64) (available : Nat) (topic : Topic) :
    IsAbout (Report.grown kind count available) topic ↔ topic = .growth := by
  simp only [IsAbout, Report.grown]
  cases kind <;> cases topic <;> decide

theorem number?_grown (kind : Kind) (count : UInt64) (available : Nat) :
    (Report.grown kind count available).number? "count" = some count.toNat := by
  cases kind <;> rfl

/-- Whether a deed reports an event about a topic. -/
def Deed.tells (topic : Topic) : Deed ε α → Bool
  | .reported e => IsAbout e topic
  | _ => false

/-- How many events are about a topic. -/
def told (topic : Topic) (J : List (Deed ε α)) : Nat := J.countP (·.tells topic)

@[simp] theorem told_nil (topic : Topic) : told topic ([] : List (Deed ε α)) = 0 := rfl

@[simp] theorem told_cons (topic : Topic) (d : Deed ε α) (J : List (Deed ε α)) :
    told topic (d :: J) = told topic J + if d.tells topic then 1 else 0 :=
  List.countP_cons

@[simp] theorem told_append (topic : Topic) (J K : List (Deed ε α)) :
    told topic (J ++ K) = told topic J + told topic K :=
  List.countP_append

/-! ## Counted, then reported -/

/-- The events about this topic each tell of one raise of this counter. -/
inductive Announces : Topic → Tally → Prop where
  /-- A get was served by the factory. -/
  | miss : Announces .miss .miss
  /-- The factory returned an error. -/
  | failure : Announces .failure .failure

/-- Journals in which every raise of a counter is reported next, and nothing else is reported about
the topic. -/
inductive Paired (topic : Topic) (t : Tally) : List (Deed ε α) → Prop
  | nil : Paired topic t []
  | pair {e : Log.Event} {J : List (Deed ε α)} (he : IsAbout e topic) (hJ : Paired topic t J) :
      Paired topic t (.counted t :: .reported e :: J)
  | other {d : Deed ε α} {J : List (Deed ε α)} (hcounted : d.mark? ≠ some (.counted t))
      (htells : d.tells topic = false) (hJ : Paired topic t J) : Paired topic t (d :: J)

namespace Paired

variable {topic : Topic} {t : Tally} {J K : List (Deed ε α)}

theorem append (hJ : Paired topic t J) (hK : Paired topic t K) : Paired topic t (J ++ K) := by
  induction hJ with
  | nil => exact hK
  | pair he _ ih => exact .pair he ih
  | other hcounted htells _ ih => exact .other hcounted htells ih

theorem of_others (h : ∀ d ∈ J, d.mark? ≠ some (.counted t) ∧ d.tells topic = false) :
    Paired topic t J := by
  induction J with
  | nil => exact .nil
  | cons d J ih =>
    obtain ⟨hcounted, htells⟩ := h d List.mem_cons_self
    exact .other hcounted htells (ih fun d hd => h d (List.mem_cons_of_mem _ hd))

/-- **There are as many events as raises.** -/
theorem told_eq (h : Paired topic t J) : told topic J = occurrences (.counted t) J := by
  induction h with
  | nil => rfl
  | pair he _ ih => simp [ih, he, Deed.tells, Deed.mark?]
  | other hcounted htells _ ih => simp [ih, hcounted, htells]

/-- **An event follows the raise it tells of**, which nobody else has told of. -/
theorem of_report {before after : List (Deed ε α)} {e : Log.Event} (h : Paired topic t J)
    (he : IsAbout e topic) (heq : J = before ++ .reported e :: after) :
    ∃ earlier, before = earlier ++ [.counted t] ∧ Paired topic t earlier := by
  induction h generalizing before with
  | nil => simp at heq
  | @pair e' J he' _ ih =>
    rcases before with _ | ⟨d, _ | ⟨d', before⟩⟩
    · simp at heq
    · obtain ⟨rfl, -⟩ := by simpa using heq
      exact ⟨[], rfl, .nil⟩
    · obtain ⟨rfl, rfl, htail⟩ := by simpa using heq
      obtain ⟨earlier, rfl, hearlier⟩ := ih htail
      exact ⟨_, rfl, .pair he' hearlier⟩
  | @other d J hcounted htells _ ih =>
    rcases before with _ | ⟨d', before⟩
    · obtain ⟨rfl, -⟩ := List.cons.inj heq
      simp [Deed.tells, he] at htells
    · obtain ⟨rfl, htail⟩ := List.cons.inj heq
      obtain ⟨earlier, rfl, hearlier⟩ := ih htail
      exact ⟨_, rfl, .other hcounted htells hearlier⟩

end Paired

/-- In every group of deeds, misses and errors of the factory are reported when counted. -/
theorem grouped_paired {topic : Topic} {t : Tally} (h : Announces topic t) :
    Grouped (Paired (ε := ε) (α := α) topic t) where
  nil := .nil
  append := .append
  callBegan idle := .of_others (by simp [Deed.mark?, Deed.tells])
  callEnded e := .of_others (by cases e <;> simp [Deed.mark?, Deed.tells])
  failure kind e := by
    cases h with
    | miss => exact .of_others (by cases e <;> simp [failureDeeds, Deed.mark?, Deed.tells])
    | failure =>
      cases e with
      | error reason => exact .pair (by simp) .nil
      | _ => exact .nil
  hit a := .of_others (by cases h <;> simp [Deed.mark?, Deed.tells])
  miss kind e := by
    cases h with
    | miss =>
      cases e with
      | ok a => exact .pair (by simp) (.of_others (by simp [Deed.mark?, Deed.tells]))
      | _ => exact .of_others (by simp [missDeeds, Deed.mark?, Deed.tells])
    | failure => exact .of_others (by cases e <;> simp [missDeeds, Deed.mark?, Deed.tells])
  release a := .of_others (by cases h <;> simp [releaseDeeds, Deed.mark?, Deed.tells])
  addition a := .of_others (by cases h <;> simp [additionDeeds, Deed.mark?, Deed.tells])
  growBegan count := .of_others (by simp [Deed.mark?, Deed.tells])
  growth p count e :=
    .of_others (by cases h <;> cases e <;> simp [growthDeeds, Deed.mark?, Deed.tells])
  ready kind initial e :=
    .of_others (by cases h <;> cases e <;> simp [readyDeeds, Deed.mark?, Deed.tells])

/-! ## The books of the growths -/

/-- What belongs to a growth so far. -/
structure Progress where
  /-- How many instances it has added. -/
  added : Nat := 0
  /-- The events about growths that were reported while it was the growth opened last. -/
  told : List Log.Event := []

/-- A growth that has ended. -/
structure Growth (ε : Type) extends Progress where
  /-- How many instances it was to add. -/
  count : UInt64
  /-- How it ended. -/
  ending : Ending ε Unit

/-- Growths that are open and growths that have ended. -/
structure Books (ε : Type) where
  /-- The growth opened last, or what belongs to no growth if none is open. -/
  current : Progress := {}
  /-- Those around it. -/
  outer : List Progress := []
  /-- Those that have ended. -/
  ended : List (Growth ε) := []

/-- What a deed adds to a growth. -/
def Progress.next (g : Progress) : Deed ε α → Progress
  | .counted .growth => { g with added := g.added + 1 }
  | .reported e => if IsAbout e .growth then { g with told := g.told ++ [e] } else g
  | _ => g

namespace Books

/-- The books after a deed. -/
def next (b : Books ε) : Deed ε α → Books ε
  | .growBegan _ => { b with current := {}, outer := b.current :: b.outer }
  | .growEnded count ending =>
    match b.outer with
    | [] => b
    | g :: outer => ⟨g, outer, b.ended ++ [{ b.current with count, ending }]⟩
  | d => { b with current := b.current.next d }

/-- The books after some deeds, oldest first. -/
def after (b : Books ε) (J : List (Deed ε α)) : Books ε := J.foldl next b

@[simp] theorem after_nil (b : Books ε) : b.after ([] : List (Deed ε α)) = b := rfl

@[simp] theorem after_cons (b : Books ε) (d : Deed ε α) (J : List (Deed ε α)) :
    b.after (d :: J) = (b.next d).after J := rfl

@[simp] theorem after_append (b : Books ε) (J K : List (Deed ε α)) :
    b.after (J ++ K) = (b.after J).after K :=
  List.foldl_append

/-! ### Nothing gets lost -/

/-- What the growths in the books come to, each worth so much. -/
def sum (worth : Progress → Nat) (b : Books ε) : Nat :=
  worth b.current + (b.outer.map worth).sum + (b.ended.map fun g => worth g.toProgress).sum

variable {worth : Progress → Nat} {gain : Deed ε α → Nat}

theorem sum_next (hnew : worth {} = 0)
    (hgain : ∀ (g : Progress) (d : Deed ε α), worth (g.next d) = worth g + gain d)
    (b : Books ε) (d : Deed ε α) : (b.next d).sum worth = b.sum worth + gain d := by
  have hd := hgain b.current d
  cases d with
  | growBegan count =>
    have hnone : worth b.current = worth b.current + gain (.growBegan count) := hd
    simp only [next, sum, hnew, List.map_cons, List.sum_cons]
    omega
  | growEnded count ending =>
    have hnone : worth b.current = worth b.current + gain (.growEnded count ending) := hd
    rcases b with ⟨current, _ | ⟨g, outer⟩, ended⟩
    · simp only [next]
      omega
    · simp only [next, sum, List.map_cons, List.sum_cons, List.map_append, List.sum_append,
        List.map_nil, List.sum_nil]
      omega
  | _ =>
    simp only [next, sum, hd]
    omega

/-- **Nothing gets lost**: what the growths come to is what the deeds were worth. -/
theorem sum_after (hnew : worth {} = 0)
    (hgain : ∀ (g : Progress) (d : Deed ε α), worth (g.next d) = worth g + gain d)
    (b : Books ε) (J : List (Deed ε α)) :
    (b.after J).sum worth = b.sum worth + (J.map gain).sum := by
  induction J generalizing b with
  | nil => rfl
  | cons d J ih =>
    rw [after_cons, ih, sum_next hnew hgain, List.map_cons, List.sum_cons]
    omega

end Books

/-- The growths in a journal that have ended. -/
def growths (J : List (Deed ε α)) : List (Growth ε) := (({} : Books ε).after J).ended

/-- A growth reports once that it has added what it was to add, or it has added less and reports
nothing. -/
structure Growth.Exact (g : Growth ε) : Prop where
  /-- It was to add something. -/
  count_ne_zero : g.count ≠ 0
  /-- It has succeeded: everything was added, and the one event says how much. -/
  done : g.ending.isOk = true →
    g.added = g.count.toNat ∧ g.told.map (·.number? "count") = [some g.count.toNat]
  /-- It has not: something is missing, and there is no event. -/
  stopped : g.ending.isOk = false → g.added < g.count.toNat ∧ g.told = []

/-- A stretch of a journal that closes the growths it opens, exactly, and adds so many instances
outside of them. It does not report that a pool is ready. -/
structure Closed (added : Nat) (J : List (Deed ε α)) : Prop where
  books : ∀ b : Books ε, ∃ ended : List (Growth ε), (∀ g ∈ ended, g.Exact) ∧
    b.after J = ⟨{ b.current with added := b.current.added + added }, b.outer, b.ended ++ ended⟩
  unready : told .ready J = 0

/-- The deed leaves the books alone, and does not report that a pool is ready. -/
def Deed.Apart : Deed ε α → Prop
  | .growBegan _ | .growEnded _ _ | .counted .growth => False
  | .reported e => ¬IsAbout e .growth ∧ ¬IsAbout e .ready
  | _ => True

theorem Deed.Apart.next_eq {d : Deed ε α} (h : d.Apart) (b : Books ε) : b.next d = b := by
  cases d with
  | growBegan | growEnded => exact h.elim
  | counted t =>
    cases t with
    | growth => exact h.elim
    | _ => rfl
  | reported e => simp only [Books.next, Progress.next, if_neg h.1]
  | _ => rfl

theorem Deed.Apart.tells_ready {d : Deed ε α} (h : d.Apart) : d.tells .ready = false := by
  cases d with
  | reported e => exact decide_eq_false h.2
  | _ => rfl

namespace Closed

variable {n m : Nat} {J K : List (Deed ε α)}

theorem of_apart (h : ∀ d ∈ J, d.Apart) : Closed 0 J := by
  induction J with
  | nil => exact ⟨fun b => ⟨[], nofun, by simp⟩, rfl⟩
  | cons d J ih =>
    have hd := h d List.mem_cons_self
    obtain ⟨hbooks, hunready⟩ := ih fun d hd => h d (List.mem_cons_of_mem _ hd)
    refine ⟨fun b => ?_, by simp [hunready, hd.tells_ready]⟩
    rw [Books.after_cons, hd.next_eq]
    exact hbooks b

theorem nil : Closed 0 ([] : List (Deed ε α)) := of_apart nofun

theorem append (hJ : Closed n J) (hK : Closed m K) : Closed (n + m) (J ++ K) := by
  refine ⟨fun b => ?_, by simp [hJ.unready, hK.unready]⟩
  obtain ⟨ended, hexact, hafter⟩ := hJ.books b
  obtain ⟨ended', hexact', hafter'⟩ := hK.books (b.after J)
  refine ⟨ended ++ ended', fun g hg => (List.mem_append.mp hg).elim (hexact g) (hexact' g), ?_⟩
  rw [Books.after_append, hafter', hafter]
  simp [Nat.add_assoc]

theorem additionDeeds (a : α) : Closed 1 (additionDeeds a : List (Deed ε α)) :=
  ⟨fun b => ⟨[], nofun, by simp [Pool.additionDeeds, Books.next, Progress.next]⟩, rfl⟩

theorem failureDeeds (kind : Kind) (e : Ending ε α) : Closed 0 (failureDeeds kind e) :=
  of_apart (by cases e <;> simp [Pool.failureDeeds, Deed.Apart])

theorem missDeeds (kind : Kind) (e : Ending ε α) :
    Closed 0 (missDeeds kind e ++ [.getEnded e]) :=
  of_apart (by cases e <;> simp [Pool.missDeeds, Deed.Apart])

theorem releaseDeeds (a : α) : Closed 0 (releaseDeeds a : List (Deed ε α)) :=
  of_apart (by simp [Pool.releaseDeeds, Deed.Apart])

/-- **A growth is closed exactly** if it has added what its ending demands. -/
theorem growth {count : UInt64} {e : Ending ε Unit} (p : Pool α) (hcount : count ≠ 0)
    (hJ : Closed n J) (hdone : e.isOk = true → n = count.toNat)
    (hstopped : e.isOk = false → n < count.toNat) :
    Closed 0 (.growBegan count :: (J ++ (growthDeeds p count e ++ [.growEnded count e]))) := by
  obtain ⟨g, hexact, hg⟩ : ∃ g : Growth ε, g.Exact ∧
      g = ⟨⟨n, (growthDeeds (ε := ε) p count e).filterMap Deed.event?⟩, count, e⟩ := by
    refine ⟨_, ⟨hcount, fun he => ⟨hdone he, ?_⟩, fun he => ⟨hstopped he, ?_⟩⟩, rfl⟩
    · cases e with
      | ok => exact congrArg (fun n? => [n?]) (number?_grown p.kind count p.available)
      | _ => cases he
    · cases e with
      | ok => cases he
      | _ => rfl
  refine ⟨fun b => ?_, ?_⟩
  · obtain ⟨ended, hended, hafter⟩ := hJ.books (b.next (.growBegan count : Deed ε α))
    refine ⟨ended ++ [g], fun g' hg' => ?_, ?_⟩
    · rcases List.mem_append.mp hg' with hg' | hg'
      · exact hended g' hg'
      · exact List.mem_singleton.mp hg' ▸ hexact
    · rw [Books.after_cons, Books.after_append, hafter, hg]
      cases e <;> simp [growthDeeds, Books.next, Progress.next, Deed.event?]
  · cases e <;> simp [hJ.unready, growthDeeds, Deed.tells]

end Closed

/-- How many instances a task adds outside of the growths that it opens itself. -/
def Task.Adds : {β : Type} → Task ε α β → Ending ε β → Nat → Prop
  | _, .add n, e, added => (e.isOk = true → added = n) ∧ (e.isOk = false → added < n)
  | _, _, _, added => added = 0

theorem isOk_of_stop {e : Ending ε α} {e' : Ending ε β} (h : e.stop? = some e') :
    e'.isOk = false := by
  cases e with
  | ok a => cases h
  | _ =>
    obtain rfl := Option.some.inj h
    rfl

/-- **What a run does to the books**: it closes every growth it opens. -/
theorem Runs.closed {f : Factory ε α} {depth : Nat} {task : Task ε α β} {p : Pool α}
    {J : List (Deed ε α)} {e : Ending ε β} (h : Runs f depth task p J e) :
    ∃ added, Closed added J ∧ task.Adds e added := by
  induction h with
  | tooDeep | grewByNone | makes | fails | panics => exact ⟨0, .nil, rfl⟩
  | @called n p J e h ih =>
    obtain ⟨_, hJ, rfl⟩ := ih
    have hbegan : Closed 0 [(.callBegan p.idle : Deed ε α)] := .of_apart (by simp [Deed.Apart])
    have hended : Closed 0 [(.callEnded e : Deed ε α)] := .of_apart (by simp [Deed.Apart])
    exact ⟨0, hbegan.append (hJ.append hended), rfl⟩
  | made h ih =>
    obtain ⟨_, hJ, rfl⟩ := ih
    exact ⟨0, hJ.append (.failureDeeds _ _), rfl⟩
  | hit hidle => exact ⟨0, .of_apart (by simp [Deed.Apart]), rfl⟩
  | missed hidle h ih =>
    obtain ⟨_, hJ, rfl⟩ := ih
    exact ⟨0, hJ.append (.missDeeds _ _), rfl⟩
  | released => exact ⟨0, .releaseDeeds _, rfl⟩
  | addedAll => exact ⟨0, .nil, fun _ => rfl, nofun⟩
  | added hmake h ihmake ih =>
    obtain ⟨_, hJ, rfl⟩ := ihmake
    obtain ⟨k, hK, hall, hsome⟩ := ih
    refine ⟨_, hJ.append ((Closed.additionDeeds _).append hK), fun he => ?_, fun he => ?_⟩
    · have hk := hall he
      omega
    · have hk := hsome he
      omega
  | addStopped hmake he ih =>
    obtain ⟨_, hJ, rfl⟩ := ih
    refine ⟨0, hJ, fun hok => ?_, fun _ => Nat.succ_pos _⟩
    rw [isOk_of_stop he] at hok
    cases hok
  | @growRefused n p count hcount hroom =>
    have hpos : 0 < count.toNat := Nat.pos_of_ne_zero fun h => hcount (UInt64.toNat_inj.mp h)
    exact ⟨0, Closed.nil.growth p (e := .panicked "capacity overflow") hcount nofun fun _ => hpos,
      rfl⟩
  | grew hcount hroom h ih =>
    obtain ⟨n, hJ, hall, hsome⟩ := ih
    exact ⟨0, hJ.growth _ hcount hall hsome, rfl⟩
  | releases h ih =>
    obtain ⟨_, hJ, rfl⟩ := ih
    exact ⟨0, (Closed.releaseDeeds _).append hJ, rfl⟩
  | grows hgrow hr h ihgrow ih =>
    obtain ⟨_, hJ, rfl⟩ := ihgrow
    obtain ⟨_, hK, rfl⟩ := ih
    exact ⟨0, hJ.append hK, rfl⟩
  | growStopped hgrow hr he ih =>
    obtain ⟨_, hJ, rfl⟩ := ih
    exact ⟨0, hJ, rfl⟩
  | gets hget hr h ihget ih =>
    obtain ⟨_, hJ, rfl⟩ := ihget
    obtain ⟨_, hK, rfl⟩ := ih
    exact ⟨0, hJ.append hK, rfl⟩
  | getStopped hget hr he ih =>
    obtain ⟨_, hJ, rfl⟩ := ih
    exact ⟨0, hJ, rfl⟩

namespace Desk

variable {f : Factory ε α} {depth : Nat} {J : List (Deed ε α)}

/-- A request closes every growth it opens. -/
theorem Serves.closed {d d' : Desk α} {r : Request α} {e : Ending ε (Reply α)}
    (h : Serves f depth d r J e d') : Closed 0 J := by
  cases h with
  | handedOut hr h | notHandedOut hr h | grown hr h | notGrown hr h =>
    obtain ⟨_, hJ, rfl⟩ := h.closed
    exact hJ
  | given hr => exact .releaseDeeds _
  | settled hr => exact .nil

/-- **A list of requests closes every growth it opens.** -/
theorem Visits.closed {d d' : Desk α} {requests : List (Request α)}
    {es : List (Ending ε (Reply α))} (h : Visits f depth d requests J es d') : Closed 0 J := by
  induction h with
  | nil => exact .nil
  | cons h hs ih => exact h.closed.append ih

end Desk

/-! ## The story of a session -/

/-- The number of instances that some events say were added. -/
def Progress.announced (g : Progress) : Nat := (g.told.map fun e => (e.number? "count").getD 0).sum

/-- The number of instances that an event about a growth says were added. -/
def Deed.announced : Deed ε α → Nat
  | .reported e => if IsAbout e .growth then (e.number? "count").getD 0 else 0
  | _ => 0

/-- The number of instances that all events about growths say were added. -/
def announced (J : List (Deed ε α)) : Nat := (J.map Deed.announced).sum

/-- The number of instances added by growths that did not succeed. -/
def unannounced (J : List (Deed ε α)) : Nat :=
  (((growths J).filter fun g => !g.ending.isOk).map (·.added)).sum

theorem added_next (g : Progress) (d : Deed ε α) :
    (g.next d).added = g.added + occurrences (.counted .growth) [d] := by
  cases d with
  | counted t => cases t <;> simp [Progress.next, Deed.mark?]
  | reported e =>
    simp only [Progress.next]
    split <;> simp [Deed.mark?]
  | callEnded e | getEnded e => cases e <;> simp [Progress.next, Deed.mark?]
  | _ => simp [Progress.next, Deed.mark?]

theorem announced_next (g : Progress) (d : Deed ε α) :
    (g.next d).announced = g.announced + d.announced := by
  cases d with
  | counted t => cases t <;> rfl
  | reported e =>
    simp only [Progress.next, Deed.announced]
    split <;> simp [Progress.announced]
  | _ => rfl

theorem sum_occurrences (m : Mark) (J : List (Deed ε α)) :
    (J.map fun d => occurrences m [d]).sum = occurrences m J := by
  induction J with
  | nil => rfl
  | cons d J ih =>
    rw [List.map_cons, List.sum_cons, ih, occurrences_cons m d J, occurrences_cons, occurrences_nil]
    omega

/-- Exact growths have added what they announced, or did not succeed. -/
theorem sum_added_of_exact {ended : List (Growth ε)} (h : ∀ g ∈ ended, g.Exact) :
    (ended.map (·.added)).sum = (ended.map (·.announced)).sum +
      ((ended.filter fun g => !g.ending.isOk).map (·.added)).sum := by
  induction ended with
  | nil => rfl
  | cons g ended ih =>
    have hrest := ih fun g hg => h g (List.mem_cons_of_mem _ hg)
    obtain ⟨-, hdone, hstopped⟩ := h g List.mem_cons_self
    cases he : g.ending.isOk with
    | true =>
      obtain ⟨hadded, htold⟩ := hdone he
      have hannounced : g.announced = g.count.toNat := by
        obtain ⟨e, hg, hnumber⟩ := List.map_eq_singleton_iff.mp htold
        simp [Progress.announced, hg, hnumber]
      simp only [List.map_cons, List.sum_cons, List.filter_cons, he]
      simp [hrest, hadded, hannounced, Nat.add_assoc]
    | false =>
      have hannounced : g.announced = 0 := by simp [Progress.announced, (hstopped he).2]
      simp only [List.map_cons, List.sum_cons, List.filter_cons, he]
      simp [hrest, hannounced, Nat.add_left_comm]

/-- **What growths add** is what the events about them say, and what was added by those that did
not succeed. -/
theorem Closed.occurrences_growth {J : List (Deed ε α)} (h : Closed 0 J) :
    occurrences (.counted .growth) J = announced J + unannounced J := by
  obtain ⟨ended, hexact, hafter⟩ := h.books {}
  have hgrowths : growths J = ended := by
    rw [growths, hafter]
    rfl
  have hadded : (Books.after {} J).sum (·.added) = Books.sum (·.added) {} +
      (J.map fun d => occurrences (.counted .growth) [d]).sum :=
    Books.sum_after rfl added_next {} J
  have hannounced : (Books.after {} J).sum (·.announced) = Books.sum (·.announced) {} +
      (J.map Deed.announced).sum :=
    Books.sum_after rfl announced_next {} J
  rw [sum_occurrences, hafter] at hadded
  rw [hafter] at hannounced
  have hadded : (ended.map (·.added)).sum = occurrences (.counted .growth) J := by
    simpa [Books.sum] using hadded
  have hannounced : (ended.map (·.announced)).sum = announced J := by
    have hnothing : ({} : Progress).announced = 0 := rfl
    simpa [Books.sum, hnothing, announced] using hannounced
  rw [← hadded, ← hannounced, unannounced, hgrowths]
  exact sum_added_of_exact hexact

/-- Events and counters that tell the same story. All of this is about words, which wrap around. -/
structure Candid (kind : Kind) (initial : UInt64) (fill J : List (Deed ε α)) (p : Pool α) :
    Prop where
  /-- There is an event for every miss. -/
  misses : p.stats.misses = .ofNat (told .miss J)
  /-- There is an event for every error of the factory. -/
  factoryErrors : p.stats.factoryErrors = .ofNat (told .failure J)
  /-- Each of these events comes right after the counter was raised, and as many came before it as
  raises. -/
  raised : ∀ topic t, Announces topic t → ∀ before e after, J = before ++ .reported e :: after →
    IsAbout e topic → ∃ earlier, before = earlier ++ [.counted t] ∧
      told topic earlier = occurrences (.counted t) earlier
  /-- Every growth reports once that it has added what it was to add, or it has added less and
  reports nothing. -/
  exact : ∀ g ∈ growths J, g.Exact
  /-- No growth is open in the end, and nothing was added or reported outside of growths. -/
  closed : (({} : Books ε).after J).current = {} ∧ (({} : Books ε).after J).outer = []
  /-- The instances that were grown are those in the events, and those of growths that did not
  succeed. -/
  grown : p.stats.grown = .ofNat (announced J + unannounced J)
  /-- The pool is reported to be ready once, right after the initial growth. -/
  ready : told .ready J = 1 ∧ ∃ rest, J = fill ++ .reported (Report.ready kind initial) :: rest

/-- **Events and counters of a pool tell the same story** after every session, in either kind of
store and whatever the calls of its factory do with the pool. -/
theorem reports_candid (f : Factory ε α) (kind : Kind) (depth : Nat) (initial : UInt64)
    (requests : List (Request α)) (hbuild : (f.build kind depth initial).1 = .ok ()) :
    Candid kind initial (f.grow depth initial (.fresh (.empty kind))).2.journal.toList
      (session f kind depth initial requests).journal.toList
      (session f kind depth initial requests).state.pool := by
  have hcounters := (chronicle_session f kind depth initial requests).counters_eq
  have hpaired {topic : Topic} {t : Tally} (h : Announces topic t) :=
    session_of_grouped (grouped_paired h) f kind depth initial requests
  obtain ⟨J, K, d, h, -, hvisits, hsession⟩ := exists_session f kind depth initial requests
  have hfill : (f.grow depth initial (.fresh (.empty kind))).2.journal.toList = J := by
    have hgrow : f.grow depth initial (.fresh (.empty kind)) = _ :=
      h.work_eq (.fresh (.empty kind)) rfl
    rw [hgrow, journal_record]
    simp [Scene.fresh]
  have hjournal : (session f kind depth initial requests).journal.toList =
      J ++ .reported (Report.ready kind initial) :: K := by
    rw [hsession, hbuild]
    simp [readyDeeds]
  rw [hjournal] at hcounters hpaired ⊢
  rw [hfill]
  obtain ⟨_, hJ, rfl⟩ := h.closed
  have hK := hvisits.closed
  have hready : ({} : Books ε).after (J ++ .reported (Report.ready kind initial) :: K) =
      ({} : Books ε).after (J ++ K) := by
    simp [Books.next, Progress.next]
  have hannounced : announced (J ++ .reported (Report.ready kind initial) :: K) =
      announced (J ++ K) := by
    simp [announced, Deed.announced]
  have hgrowths : growths (J ++ .reported (Report.ready kind initial) :: K) = growths (J ++ K) :=
    congrArg Books.ended hready
  obtain ⟨ended, hexact, hafter⟩ := (hJ.append hK).books {}
  refine ⟨?_, ?_, fun topic t ht before e after heq he => ?_, ?_, ?_, ?_, ?_, K, rfl⟩
  · rw [(hpaired .miss).told_eq]
    exact (congrArg Counters.misses hcounters).trans (UInt64.zero_add _)
  · rw [(hpaired .failure).told_eq]
    exact (congrArg Counters.factoryErrors hcounters).trans (UInt64.zero_add _)
  · obtain ⟨earlier, hbefore, hearlier⟩ := (hpaired ht).of_report he heq
    exact ⟨earlier, hbefore, hearlier.told_eq⟩
  · rw [hgrowths, growths, hafter]
    exact hexact
  · rw [hready, hafter]
    exact ⟨rfl, rfl⟩
  · have hgrown := (congrArg Counters.grown hcounters).trans (UInt64.zero_add _)
    have hsum := (hJ.append hK).occurrences_growth
    rw [unannounced, hgrowths, hannounced, ← unannounced, ← hsum]
    refine hgrown.trans (congrArg UInt64.ofNat ?_)
    simp [Deed.mark?]
  · simp [hJ.unready, hK.unready, Deed.tells]

/-- A factory whose third call grows the pool, and whose fifth call fails. -/
def wavering : Plan where
  first := [.make, .make, .use none (some 1) false, .make, .fail "no more"]
  later := .make
  fallible := true
  opening := 1

/-- A growth that runs into both of these, and gets until there is a miss. -/
def waveringRequests : List (Request Tagged) := [.grow 3, .get, .get, .get, .get, .get]

/-- The growth adds two instances and reports nothing, but the one inside of it succeeds. -/
theorem reports_candid_wavering :
    (wavering.factory.build .stack 9 1).1 = .ok () ∧
    Candid .stack 1 (wavering.factory.grow 9 1 (.fresh (.empty .stack))).2.journal.toList
      (session wavering.factory .stack 9 1 waveringRequests).journal.toList
      (session wavering.factory .stack 9 1 waveringRequests).state.pool ∧
    ((growths (session wavering.factory .stack 9 1 waveringRequests).journal.toList).map
        fun g => (g.count, g.added, g.ending)) =
      [(1, 1, .ok ()), (1, 1, .ok ()), (3, 2, .error "no more")] ∧
    (session wavering.factory .stack 9 1 waveringRequests).state.pool.stats.grown = 4 := by
  have hbuild : (wavering.factory.build .stack 9 1).1 = .ok () := by decide
  exact ⟨hbuild, reports_candid wavering.factory .stack 9 1 waveringRequests hbuild,
    by decide +kernel, by decide +kernel⟩

end Pool

end ConverterKit
