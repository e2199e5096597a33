import ConverterKit.Proofs.Resolution.Sound
import ConverterKit.Resolution.Directory
import Mathlib.Algebra.Group.Nat.Defs
import Mathlib.Logic.Function.Basic
import Mathlib.Data.List.Pairwise

/-!
# Directories behind a resolver

A host that keeps directories has one under each handle, edits them as it likes, and registers them
as callbacks. The generation of a directory counts the edits that alter it, modulo `2 ^ 64`, so two
moments of a run with the same generation have the same services unless that many edits came
between.

## Main definitions

* `Directory.tell`, `Directory.Same`: what a directory tells, and when two of them tell the same
* `Resolution.Edit`: an insertion or a removal, and whether it alters a directory
* `Resolution.directories`: directories as callbacks, and edits as changes of their host
* `Resolution.changes`: how many moves of a run alter a directory

## Main results

* `Edit.alters_iff`: an edit alters a directory exactly if the services are others afterwards
* `Edit.generation_apply`: an edit moves the generation on exactly if it alters the directory
* `directories_determined`: what a directory tells is determined by its services
* `directories_steady`: a directory altered less than `2 ^ 64` times is steady
-/

namespace ConverterKit

namespace Resolution

variable {κ : Type}

/-- What a directory tells about a name. -/
def Directory.tell (d : Directory) (name : String) : Answer :=
  match d.get? name with
  | some id => (.success, some id)
  | none => (.failure, none)

theorem Directory.answer_eq_tell (d : Directory) (name : String) :
    ((d.answer { name }).1, (d.answer { name }).2.id?) = d.tell name := by
  simp only [Directory.answer, Directory.tell]
  cases d.get? name <;> rfl

theorem Directory.tell_eq_iff {d : Directory} {name : String} {id : ServiceId} :
    d.tell name = (.success, some id) ↔ d.get? name = some id := by
  cases h : d.get? name <;> simp [Directory.tell, h]

namespace Directory

/-- Two directories with the same services. -/
def Same (d d' : Directory) : Prop := ∀ name, d'.get? name = d.get? name

instance : DecidableRel Same := fun d d' =>
  decidable_of_iff (∀ name ∈ (d.services.entries ++ d'.services.entries).map Prod.fst,
      d'.get? name = d.get? name) <| by
    refine ⟨fun h name => ?_, fun h name _ => h name⟩
    by_cases hname : name ∈ (d.services.entries ++ d'.services.entries).map Prod.fst
    · exact h name hname
    · rw [List.map_append, List.mem_append, not_or] at hname
      rw [get?, get?, NameMap.find?_eq_none_iff.mpr hname.1, NameMap.find?_eq_none_iff.mpr hname.2]

theorem Same.refl (d : Directory) : d.Same d := fun _ => rfl

theorem Same.trans {d d' d'' : Directory} (h : d.Same d') (h' : d'.Same d'') : d.Same d'' :=
  fun name => (h' name).trans (h name)

theorem Same.tell {d d' : Directory} (h : d.Same d') (name : String) :
    d'.tell name = d.tell name := by
  rw [Directory.tell, Directory.tell, h name]

end Directory

/-- An edit of one of the directories. -/
inductive Edit (κ : Type) where
  /-- Give a service an id. -/
  | insert (k : κ) (name : String) (id : ServiceId)
  /-- Remove a service. -/
  | remove (k : κ) (name : String)
deriving DecidableEq

variable [DecidableEq κ]

namespace Edit

/-- The directories after an edit. -/
def apply (e : Edit κ) (host : κ → Directory) : κ → Directory :=
  match e with
  | .insert k name id => Function.update host k ((host k).insert name id).2
  | .remove k name => Function.update host k ((host k).remove name).2

/-- Whether an edit makes the id of some service of a directory another one. -/
def alters (e : Edit κ) (k : κ) (host : κ → Directory) : Bool :=
  match e with
  | .insert k' name id => k' = k ∧ (host k).get? name ≠ some id
  | .remove k' name => k' = k ∧ (host k).get? name ≠ none

theorem get?_apply_of_not_alters {e : Edit κ} {k : κ} {host : κ → Directory}
    (h : e.alters k host = false) (name : String) :
    (e.apply host k).get? name = (host k).get? name := by
  cases e with
  | insert k' other id =>
    by_cases hk : k' = k
    · subst hk
      have hid : (host k').get? other = some id := by simpa [alters] using h
      rw [apply, Function.update_self, Directory.get?_insert]
      split
      · next heq => rw [← heq, hid]
      · rfl
    · rw [apply, Function.update_of_ne (Ne.symm hk)]
  | remove k' other =>
    by_cases hk : k' = k
    · subst hk
      have hid : (host k').get? other = none := by simpa [alters] using h
      rw [apply, Function.update_self, Directory.get?_remove]
      split
      · next heq => rw [← heq, hid]
      · rfl
    · rw [apply, Function.update_of_ne (Ne.symm hk)]

/-- An edit alters a directory exactly if the services are others afterwards. -/
theorem alters_iff {e : Edit κ} {k : κ} {host : κ → Directory} :
    e.alters k host = true ↔ ∃ name, (e.apply host k).get? name ≠ (host k).get? name := by
  constructor
  · intro h
    cases e with
    | insert k' name id =>
      obtain ⟨rfl, hid⟩ : k' = k ∧ (host k).get? name ≠ some id := by simpa [alters] using h
      refine ⟨name, fun heq => hid ?_⟩
      rw [← heq, apply, Function.update_self, Directory.get?_insert, if_pos rfl]
    | remove k' name =>
      obtain ⟨rfl, hid⟩ : k' = k ∧ (host k).get? name ≠ none := by simpa [alters] using h
      refine ⟨name, fun heq => hid ?_⟩
      rw [← heq, apply, Function.update_self, Directory.get?_remove, if_pos rfl]
  · rintro ⟨name, hne⟩
    by_contra h
    exact hne (get?_apply_of_not_alters (by simpa using h) name)

/-- **The generation counts the edits that alter a directory.** -/
theorem generation_apply (e : Edit κ) (k : κ) (host : κ → Directory) :
    (e.apply host k).generation =
      (host k).generation + if e.alters k host then 1 else 0 := by
  cases e with
  | insert k' name id =>
    by_cases hk : k' = k
    · subst hk
      by_cases hid : (host k').get? name = some id <;>
        simp [apply, alters, Directory.insert, hid]
    · simp [apply, alters, hk, Function.update_of_ne (Ne.symm hk)]
  | remove k' name =>
    by_cases hk : k' = k
    · subst hk
      cases hid : (host k').get? name <;> simp [apply, alters, Directory.remove, hid]
    · simp [apply, alters, hk, Function.update_of_ne (Ne.symm hk)]

end Edit

/-- Directories as callbacks, and edits as what their host may do. -/
def directories (κ : Type) [DecidableEq κ] : Surroundings κ (κ → Directory) (Edit κ) where
  toCallbacks := .over (fun k host => some (host k).generation) fun k host e => (host k).answer e
  change := Edit.apply

/-- How many moves of a run alter a directory. -/
def changes (k : κ) : List (Move κ (Edit κ)) → (κ → Directory) → Nat
  | [], _ => 0
  | .change e :: moves, host =>
    (if e.alters k host then 1 else 0) + changes k moves (e.apply host)
  | _ :: moves, host => changes k moves host

theorem moments_directories_change (e : Edit κ) (moves : List (Move κ (Edit κ)))
    (host : κ → Directory) :
    (directories κ).moments (.change e :: moves) host =
      host :: (directories κ).moments moves (e.apply host) := rfl

/-- What a directory tells is determined by its services, and each answer takes one call. -/
theorem directories_tells (host : κ → Directory) (current k : κ) (name : String) :
    (directories κ).Tells id host current 1 k name (.ok ((host k).tell name)) := by
  have h := Callbacks.tells_over (fun k host => some (host k).generation)
    (fun k host e => (host k).answer e) host current k name
  rwa [Directory.answer_eq_tell] at h

theorem directories_determined :
    (directories κ).Determined id fun k host => (host k).tell where
  generation _ _ _ heq := congrArg _ heq
  change _ _ _ heq := congrArg (Edit.apply _) heq
  tells k host name := ⟨1, directories_tells host k k name⟩

/-- Any moment of a run lies some alterations after its start, and none means none. -/
theorem exists_generation_eq_of_mem_moments (k : κ) {moves : List (Move κ (Edit κ))}
    {host h : κ → Directory} (hh : h ∈ (directories κ).moments moves host) :
    ∃ n ≤ changes k moves host, (h k).generation = (host k).generation + UInt64.ofNat n ∧
      (n = 0 → ∀ name, (h k).get? name = (host k).get? name) := by
  induction moves generalizing host with
  | nil =>
    obtain rfl : h = host := by simpa [Surroundings.moments] using hh
    exact ⟨0, Nat.le_refl _, by simp, fun _ _ => rfl⟩
  | cons move moves ih =>
    cases move with
    | change e =>
      rw [moments_directories_change] at hh
      rcases List.mem_cons.mp hh with rfl | hh
      · exact ⟨0, Nat.zero_le _, by simp, fun _ _ => rfl⟩
      · obtain ⟨n, hn, hgen, hsame⟩ := ih hh
        have hgen' := e.generation_apply k host
        cases halters : e.alters k host with
        | true =>
          refine ⟨n + 1, ?_, ?_, by simp⟩
          · simp only [changes, halters, if_true]
            omega
          · rw [hgen, hgen', halters, if_pos rfl, UInt64.add_assoc, UInt64.ofNat_add,
              UInt64.add_comm (UInt64.ofNat n)]
            rfl
        | false =>
          refine ⟨n, ?_, ?_, fun h0 name => ?_⟩
          · simp only [changes, halters]
            simpa using hn
          · rw [hgen, hgen', halters]
            simp
          · rw [hsame h0 name]
            exact Edit.get?_apply_of_not_alters halters name
    | _ => exact ih hh

/-- If a directory has the same generation at both moments, it has the same services. -/
def Coherent (k : κ) (h h' : κ → Directory) : Prop :=
  (h k).generation = (h' k).generation → ∀ name, (h k).get? name = (h' k).get? name

instance (k : κ) : Std.Symm (Coherent k) where
  symm _ _ h heq name := (h heq.symm name).symm

/-- Any two moments of a run with fewer than `2 ^ 64` alterations are coherent. -/
theorem pairwise_coherent_moments {k : κ} {moves : List (Move κ (Edit κ))} {host : κ → Directory}
    (h : changes k moves host < 2 ^ 64) :
    ((directories κ).moments moves host).Pairwise (Coherent k) := by
  induction moves generalizing host with
  | nil => simp [Surroundings.moments]
  | cons move moves ih =>
    cases move with
    | change e =>
      rw [moments_directories_change]
      refine List.pairwise_cons.mpr ⟨fun h' hh' heq name => ?_, ih ?_⟩
      · have hmem : h' ∈ (directories κ).moments (.change e :: moves) host :=
          List.mem_cons_of_mem host hh'
        obtain ⟨n, hn, hgen, hsame⟩ := exists_generation_eq_of_mem_moments k hmem
        have h0 : UInt64.ofNat n = 0 := by simpa [hgen] using heq
        have hn0 : n = 0 := by
          have := congrArg UInt64.toNat h0
          simp only [UInt64.toNat_ofNat', UInt64.toNat_zero] at this
          omega
        exact (hsame hn0 name).symm
      · exact Nat.lt_of_le_of_lt (Nat.le_add_left _ _) h
    | _ => exact ih h

/-- **A directory altered less than `2 ^ 64` times is steady.** -/
theorem directories_steady {k : κ} {moves : List (Move κ (Edit κ))} {host : κ → Directory}
    (h : changes k moves host < 2 ^ 64) :
    (directories κ).Steady id (fun k host => (host k).tell)
      ((directories κ).moments moves host) k := by
  intro h₁ hh₁ h₂ hh₂ g hg₁ hg₂ name
  have hcoherent : Coherent k h₁ h₂ :=
    (pairwise_coherent_moments h).forall_of_forall (fun _ _ _ _ => rfl) hh₁ hh₂
  have hsame := hcoherent (Option.some.inj (hg₁.trans hg₂.symm)) name
  simp only [Directory.tell, id, hsame]

end Resolution

end ConverterKit
