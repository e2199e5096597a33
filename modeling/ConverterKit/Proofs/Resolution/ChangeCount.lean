import ConverterKit.Proofs.Resolution.Directories
import Mathlib.Data.Finset.Card
import Mathlib.Data.List.Infix

/-!
# The generation of a directory is an exact change count

A directory is asked to do four things: its host inserts and removes services and looks at them, and
resolvers ask it as a callback. After any run of such requests, from nothing or from a list, the
directory holds what was written last under every name, and its generation is the number of requests
that made the mapping a different function.

The count is in the definition of `alterations`, which compares the mappings before and after a
request and knows nothing of generations. That the two agree is the whole point: whoever remembers
an id together with a generation need not compare mappings.

A directory that was collected from a list starts counting at zero, and one into which the list was
inserted starts at the number of those insertions that changed something. `Shifted` keeps the two
together.

## Main definitions

* `Directory.Request`, `Directory.Reply`: what a directory is asked, and how it answers
* `Directory.after`, `Directory.replies`: the directory after some requests, and its answers
* `Directory.alterations`: how many requests change the mapping
* `Directory.lastWrite?`: what was written last under a name
* `Directory.Shifted`: two directories with the same services, one a constant ahead

## Main results

* `Directory.generation_after`: the generation counts the alterations
* `Directory.get?_after_ofList`: a name has the id that was written last
* `Directory.generation_counts_changes`: all of this at every moment of a run, as `ExactCount`
-/

namespace ConverterKit

namespace Resolution

namespace Directory

theorem Same.symm {d d' : Directory} (h : d.Same d') : d'.Same d := fun name => (h name).symm

/-! ## Requests -/

/-- What a directory can be asked. -/
inductive Request where
  /-- Give a service an id. -/
  | insert (name : String) (id : ServiceId)
  /-- Remove a service. -/
  | remove (name : String)
  /-- Look up a service. -/
  | get (name : String)
  /-- Answer an event, as a callback. -/
  | resolve (event : Event)

/-- How a directory answers a request. -/
inductive Reply where
  /-- The id that a name has, or had before. -/
  | id (id? : Option ServiceId)
  /-- What a callback says of an event, and the event as it leaves it. -/
  | answered (outcome : Outcome) (event : Event)
deriving DecidableEq

namespace Request

/-- The name a request is about. -/
def name : Request → String
  | .insert name _ => name
  | .remove name => name
  | .get name => name
  | .resolve event => event.name

/-- What a request writes under a name, if it writes there: an id, or that there is none. -/
def write? (name : String) : Request → Option (Option ServiceId)
  | .insert n id => if n = name then some (some id) else none
  | .remove n => if n = name then some none else none
  | .get _ => none
  | .resolve _ => none

/-- The reply to a request by someone who knows this of its name. -/
def reply (known? : Option ServiceId) : Request → Reply
  | .insert _ _ => .id known?
  | .remove _ => .id known?
  | .get _ => .id known?
  | .resolve event =>
    match known? with
    | some id => .answered .success (event.assign id)
    | none => .answered .failure event

end Request

/-- Answer a request. -/
def serve (d : Directory) : Request → Reply × Directory
  | .insert name id => (.id (d.insert name id).1, (d.insert name id).2)
  | .remove name => (.id (d.remove name).1, (d.remove name).2)
  | .get name => (.id (d.get? name), d)
  | .resolve event => (.answered (d.answer event).1 (d.answer event).2, d)

/-- The directory after some requests. -/
def after (d : Directory) (requests : List Request) : Directory :=
  requests.foldl (fun d r => (d.serve r).2) d

/-- The replies to some requests. -/
def replies : List Request → Directory → List Reply
  | [], _ => []
  | r :: requests, d => (d.serve r).1 :: replies requests (d.serve r).2

/-- How many of some requests make the mapping from names to ids a different function. -/
def alterations : List Request → Directory → Nat
  | [], _ => 0
  | r :: requests, d =>
    (if d.Same (d.serve r).2 then 0 else 1) + alterations requests (d.serve r).2

/-- What was written last under a name, if it was an id. -/
def lastWrite? (name : String) (history : List Request) : Option ServiceId :=
  (history.filterMap (Request.write? name)).getLast?.join

/-- The requests that insert a list of services, one after the other. -/
def insertions (services : List (String × ServiceId)) : List Request :=
  services.map fun entry => .insert entry.1 entry.2

@[simp] theorem after_nil (d : Directory) : d.after [] = d := rfl

@[simp] theorem after_cons (d : Directory) (r : Request) (requests : List Request) :
    d.after (r :: requests) = (d.serve r).2.after requests := rfl

@[simp] theorem after_append (d : Directory) (requests later : List Request) :
    d.after (requests ++ later) = (d.after requests).after later :=
  List.foldl_append

/-! ## What is there was written last -/

theorem lastWrite?_concat (name : String) (history : List Request) (r : Request) :
    lastWrite? name (history ++ [r]) = (r.write? name).getD (lastWrite? name history) := by
  rcases hw : r.write? name with _ | w
  · simp [lastWrite?, List.filterMap_append, hw]
  · simp [lastWrite?, List.filterMap_append, hw]

theorem get?_serve (d : Directory) (r : Request) (name : String) :
    (d.serve r).2.get? name = (r.write? name).getD (d.get? name) := by
  cases r with
  | insert n id =>
    rw [serve, get?_insert, Request.write?]
    by_cases h : n = name
    · rw [if_pos h, if_pos h, Option.getD_some]
    · rw [if_neg h, if_neg h, Option.getD_none]
  | remove n =>
    rw [serve, get?_remove, Request.write?]
    by_cases h : n = name
    · rw [if_pos h, if_pos h, Option.getD_some]
    · rw [if_neg h, if_neg h, Option.getD_none]
  | get | resolve => rfl

/-- A directory answers a request by what it has under the name. -/
theorem reply_serve (d : Directory) (r : Request) : (d.serve r).1 = r.reply (d.get? r.name) := by
  cases r with
  | insert | remove | get => rfl
  | resolve event =>
    rcases h : d.get? event.name with _ | id
    · simp only [serve, answer, Request.reply, Request.name, h]
    · simp only [serve, answer, Request.reply, Request.name, h]

/-- **A name has the id that was written last.** -/
theorem get?_after_empty (history : List Request) (name : String) :
    (empty.after history).get? name = lastWrite? name history := by
  induction history using List.reverseRecOn with
  | nil => rfl
  | append_singleton history r ih =>
    rw [after_append, after_cons, after_nil, get?_serve, lastWrite?_concat, ih]

/-! ## A constant ahead -/

/-- Two directories with the same services, of which the second has counted some more. -/
structure Shifted (ahead : UInt64) (d d' : Directory) : Prop where
  /-- The services are the same. -/
  services : d'.services = d.services
  /-- The second one is ahead. -/
  generation : d'.generation = d.generation + ahead

theorem Shifted.get? {ahead : UInt64} {d d' : Directory} (h : Shifted ahead d d') (name : String) :
    d'.get? name = d.get? name := by
  rw [Directory.get?, Directory.get?, h.services]

/-- What changes one of the directories changes the other. -/
theorem Shifted.serve {ahead : UInt64} {d d' : Directory} (h : Shifted ahead d d') (r : Request) :
    (d'.serve r).1 = (d.serve r).1 ∧ Shifted ahead (d.serve r).2 (d'.serve r).2 := by
  refine ⟨by rw [reply_serve, reply_serve, h.get?], ?_⟩
  have hnext : d'.generation + 1 = d.generation + 1 + ahead := by
    rw [h.generation]
    ac_rfl
  cases r with
  | insert name id =>
    refine ⟨congrArg (·.insert name id) h.services, ?_⟩
    simp only [Directory.serve, insert, h.get?]
    split
    · exact h.generation
    · exact hnext
  | remove name =>
    refine ⟨congrArg (·.erase name) h.services, ?_⟩
    simp only [Directory.serve, remove, h.get?]
    split
    · exact hnext
    · exact h.generation
  | get | resolve => exact h

theorem Shifted.after {ahead : UInt64} {d d' : Directory} (h : Shifted ahead d d')
    (requests : List Request) : Shifted ahead (d.after requests) (d'.after requests) := by
  induction requests generalizing d d' with
  | nil => exact h
  | cons r requests ih => exact ih (h.serve r).2

theorem Shifted.replies_eq {ahead : UInt64} {d d' : Directory} (h : Shifted ahead d d')
    (requests : List Request) : replies requests d' = replies requests d := by
  induction requests generalizing d d' with
  | nil => rfl
  | cons r requests ih => rw [replies, replies, (h.serve r).1, ih (h.serve r).2]

theorem services_after_insertions (d : Directory) (services : List (String × ServiceId)) :
    (d.after (insertions services)).services =
      services.foldl (fun m entry => m.insert entry.1 entry.2) d.services := by
  induction services generalizing d with
  | nil => rfl
  | cons entry services ih => exact ih (d.insert entry.1 entry.2).2

/-- **A directory into which a list was inserted is a constant ahead** of the one collected from
it. -/
theorem shifted_ofList (services : List (String × ServiceId)) :
    Shifted (empty.after (insertions services)).generation (ofList services)
      (empty.after (insertions services)) where
  services := services_after_insertions empty services
  generation := (UInt64.zero_add _).symm

/-- A directory collected from a list has what the list, and then the requests, wrote last. -/
theorem get?_after_ofList (services : List (String × ServiceId)) (requests : List Request)
    (name : String) : ((ofList services).after requests).get? name =
      lastWrite? name (insertions services ++ requests) := by
  rw [← get?_after_empty, after_append, ((shifted_ofList services).after requests).get?]

/-- The size of a directory is the number of names that have an id. -/
theorem size_eq_card (d : Directory) :
    ∃ names : Finset String, (∀ name, name ∈ names ↔ (d.get? name).isSome) ∧
      d.size = names.card := by
  refine ⟨(d.services.entries.map Prod.fst).toFinset, fun name => ?_, ?_⟩
  · rw [List.mem_toFinset, Option.isSome_iff_ne_none, get?, ne_eq, NameMap.find?_eq_none_iff,
      not_not]
  · rw [List.toFinset_card_of_nodup d.services.nodup, List.length_map]
    rfl

/-! ## The generation counts -/

theorem generation_edit (d : Directory) (e : Edit Unit) :
    (e.apply (fun _ => d) ()).generation =
      d.generation + if d.Same (e.apply (fun _ => d) ()) then 0 else 1 := by
  rw [e.generation_apply]
  by_cases h : e.alters () (fun _ => d) = true
  · obtain ⟨name, hne⟩ := Edit.alters_iff.mp h
    rw [if_pos h, if_neg fun hsame => hne (hsame name)]
  · have hsame : d.Same (e.apply (fun _ => d) ()) :=
      Edit.get?_apply_of_not_alters (by simpa using h)
    rw [if_neg h, if_pos hsame]

/-- **A request moves the generation on exactly if the mapping is another function afterwards.** -/
theorem generation_serve (d : Directory) (r : Request) :
    (d.serve r).2.generation = d.generation + if d.Same (d.serve r).2 then 0 else 1 := by
  cases r with
  | insert name id => exact d.generation_edit (.insert () name id)
  | remove name => exact d.generation_edit (.remove () name)
  | get name =>
    rw [if_pos (show d.Same (d.serve (.get name)).2 from Same.refl d)]
    exact (UInt64.add_zero _).symm
  | resolve event =>
    rw [if_pos (show d.Same (d.serve (.resolve event)).2 from Same.refl d)]
    exact (UInt64.add_zero _).symm

/-- **The generation counts the alterations.** -/
theorem generation_after (d : Directory) (requests : List Request) :
    (d.after requests).generation = d.generation + .ofNat (alterations requests d) := by
  induction requests generalizing d with
  | nil => exact (UInt64.add_zero _).symm
  | cons r requests ih =>
    rw [after_cons, ih, generation_serve, alterations, UInt64.ofNat_add, ← UInt64.add_assoc]
    congr 2
    split <;> rfl

theorem alterations_append (d : Directory) (requests later : List Request) :
    alterations (requests ++ later) d =
      alterations requests d + alterations later (d.after requests) := by
  induction requests generalizing d with
  | nil => exact (Nat.zero_add _).symm
  | cons r requests ih => rw [List.cons_append, alterations, alterations, ih, after_cons, add_assoc]

theorem same_after_of_alterations_eq_zero {d : Directory} {requests : List Request}
    (h : alterations requests d = 0) : d.Same (d.after requests) := by
  induction requests generalizing d with
  | nil => exact Same.refl d
  | cons r requests ih =>
    rw [alterations, Nat.add_eq_zero_iff] at h
    have hsame : d.Same (d.serve r).2 := by
      by_contra hne
      exact absurd h.1 (by rw [if_neg hne]; decide)
    exact hsame.trans (ih h.2)

section

variable {services : List (String × ServiceId)} {requests before : List Request}

/-- As long as there are few alterations the generation is their number. -/
theorem toNat_generation (hfew : alterations requests (ofList services) < 2 ^ 64)
    (hbefore : before <+: requests) :
    ((ofList services).after before).generation.toNat = alterations before (ofList services) := by
  obtain ⟨rest, rfl⟩ := hbefore
  have happend := (ofList services).alterations_append before rest
  have hgeneration : ((ofList services).after before).generation =
      0 + .ofNat (alterations before (ofList services)) := generation_after _ before
  rw [hgeneration, UInt64.zero_add, UInt64.toNat_ofNat']
  omega

/-- **Equal generations mean equal mappings**, of a moment and a later one. -/
theorem same_of_generation_eq {later : List Request}
    (hfew : alterations requests (ofList services) < 2 ^ 64) (hle : before <+: later)
    (hlater : later <+: requests)
    (heq : ((ofList services).after before).generation =
      ((ofList services).after later).generation) :
    ((ofList services).after before).Same ((ofList services).after later) := by
  have hcounts := congrArg UInt64.toNat heq
  rw [toNat_generation hfew (hle.trans hlater), toNat_generation hfew hlater] at hcounts
  obtain ⟨between, rfl⟩ := hle
  have happend := (ofList services).alterations_append before between
  rw [after_append]
  exact same_after_of_alterations_eq_zero (by omega)

end

/-- What a run of requests shows of a directory that had these services from the start. -/
structure ExactCount (services : List (String × ServiceId)) (requests : List Request) : Prop where
  /-- A request is answered by what was written last under its name. -/
  reply : ∀ before r, before ++ [r] <+: requests →
    (((ofList services).after before).serve r).1 =
      r.reply (lastWrite? r.name (insertions services ++ before))
  /-- A request moves the generation on by one if it makes the mapping another function, and
  otherwise not at all. -/
  step : ∀ before r, before ++ [r] <+: requests →
    ((ofList services).after (before ++ [r])).generation.toNat =
      ((ofList services).after before).generation.toNat +
        if ((ofList services).after before).Same ((ofList services).after (before ++ [r])) then 0
        else 1
  /-- The generation is the number of alterations since the start. -/
  count : ∀ before, before <+: requests →
    ((ofList services).after before).generation.toNat = alterations before (ofList services)
  /-- A name has the id that was written last. -/
  get? : ∀ before, before <+: requests → ∀ name,
    ((ofList services).after before).get? name = lastWrite? name (insertions services ++ before)
  /-- The size is the number of names with an id. -/
  size : ∀ before, before <+: requests → ∃ names : Finset String,
    (∀ name, name ∈ names ↔ (lastWrite? name (insertions services ++ before)).isSome) ∧
      ((ofList services).after before).size = names.card
  /-- Moments with the same generation have the same mapping. -/
  same : ∀ before before', before <+: requests → before' <+: requests →
    ((ofList services).after before).generation = ((ofList services).after before').generation →
      ((ofList services).after before).Same ((ofList services).after before')
  /-- A new directory into which the services were inserted gives the same answers. -/
  inserted : replies requests (empty.after (insertions services)) =
    replies requests (ofList services)
  /-- It has as many services at every moment and is a constant number of generations ahead. -/
  ahead : ∀ before, before <+: requests →
    ((empty.after (insertions services)).after before).size =
        ((ofList services).after before).size ∧
      ((empty.after (insertions services)).after before).generation =
        ((ofList services).after before).generation +
          (empty.after (insertions services)).generation

/-- **The generation of a directory is an exact change count**, whether the directory had services
from the start or none, in every run that alters it less than `2 ^ 64` times. -/
theorem generation_counts_changes (services : List (String × ServiceId)) (requests : List Request)
    (hfew : alterations requests (ofList services) < 2 ^ 64) : ExactCount services requests where
  reply before r _ := by rw [reply_serve, get?_after_ofList]
  step before r hr := by
    have hafter := toNat_generation hfew hr
    rw [alterations_append] at hafter
    rw [toNat_generation hfew ((List.prefix_append before [r]).trans hr), hafter, after_append]
    rfl
  count before hbefore := toNat_generation hfew hbefore
  get? before _ := get?_after_ofList services before
  size before _ := by
    obtain ⟨names, hnames, hsize⟩ := ((ofList services).after before).size_eq_card
    refine ⟨names, fun name => ?_, hsize⟩
    rw [hnames, get?_after_ofList]
  same before before' hbefore hbefore' heq := by
    rcases List.prefix_or_prefix_of_prefix hbefore hbefore' with hle | hle
    · exact same_of_generation_eq hfew hle hbefore' heq
    · exact (same_of_generation_eq hfew hle hbefore heq.symm).symm
  inserted := (shifted_ofList services).replies_eq requests
  ahead before _ := by
    have hshifted := (shifted_ofList services).after before
    exact ⟨congrArg NameMap.size hshifted.services, hshifted.generation⟩

/-- Services of which one is listed twice. -/
def roster : List (String × ServiceId) := [("A", 1), ("B", 2), ("A", 3)]

/-- Requests that change something three times: the id of "A" becomes another one, goes, and comes
back. -/
def turnover : List Request :=
  [.insert "A" 3, .insert "A" 4, .remove "C", .remove "A", .resolve { name := "A" },
    .insert "A" 4, .get "A"]

/-- After three changes the generation is three, and that of the directory with the same services
inserted is three ahead. -/
theorem generation_counts_changes_turnover :
    alterations turnover (ofList roster) < 2 ^ 64 ∧
    ((ofList roster).after turnover).get? "A" = some 4 ∧
    replies turnover (empty.after (insertions roster)) =
      [.id (some 3), .id (some 3), .id none, .id (some 4), .answered .failure { name := "A" },
        .id none, .id (some 4)] ∧
    ((ofList roster).after turnover).generation = 3 ∧
    ((empty.after (insertions roster)).after turnover).generation = 3 + 3 := by
  have hfew : alterations turnover (ofList roster) < 2 ^ 64 := by decide
  have hexact := generation_counts_changes roster turnover hfew
  have hgeneration : ((ofList roster).after turnover).generation = 3 := by
    rw [← UInt64.toNat_inj, hexact.count turnover List.prefix_rfl]
    decide
  refine ⟨hfew, ?_, hexact.inserted.trans (by decide), hgeneration, ?_⟩
  · rw [hexact.get? turnover List.prefix_rfl]
    decide
  · rw [(hexact.ahead turnover List.prefix_rfl).2, hgeneration]
    decide

end Directory

end Resolution

end ConverterKit
