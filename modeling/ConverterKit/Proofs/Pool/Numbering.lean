import ConverterKit.Proofs.Pool.Aloof

/-!
# Numbered instances

Some factories never fail, never use their pool and mark every instance with the number of the call
that made it. In the pool of such a factory one can take stock: the instances that are out and
those that are idle are together the instances of all the calls made so far, each of them once.
Getting an instance, releasing it and growing the pool keep it that way.

So when every get has been followed by a release, every instance ever made is idle, and the counters
say how many gets there were.

## Main definitions

* `Factory.Numbers`: a factory that marks its instances with the numbers of their calls
* `Numbered`: the instances that are out and the idle ones are all there are
* `Kept`: what is known of the pool of such a factory, with its journal
* `AllBack`: what is known when nothing is out

## Main results

* `Kept.get`, `Kept.release`, `Kept.grow`: whatever is done with the pool keeps it
* `Kept.allBack`: where every get was followed by a release, everything is back
-/

namespace ConverterKit

namespace Pool

variable {ε α β : Type}

/-! ## Factories that number their instances -/

/-- Every call of the factory makes an instance, marked with the number of the call. -/
def Factory.Numbers (f : Factory ε α) (number : α → Nat) : Prop :=
  ∀ n, ∃ a, f.script n = .make a ∧ number a = n

section

variable {f : Factory ε α} {number : α → Nat} {depth : Nat} {p : Pool α} {J K : List (Deed ε α)}

/-- Such a factory leaves its pool alone. -/
theorem Factory.Numbers.aloof (hf : f.Numbers number) : f.Aloof := by
  intro n
  obtain ⟨a, hscript, -⟩ := hf n
  rw [hscript]
  trivial

/-- **A call makes the instance with its number**, and nothing else happens. -/
theorem Factory.Numbers.make (hf : f.Numbers number) {e : Ending ε α}
    (h : Runs f (depth + 1) .make p J e) :
    ∃ a, e = .ok a ∧ number a = p.calls ∧ J = [.callBegan p.idle, .callEnded (.ok a)] := by
  obtain ⟨a, hscript, hnumber⟩ := hf p.calls
  obtain ⟨he, rfl⟩ := hf.aloof.make h
  obtain rfl : e = .ok a := by rw [he, Factory.outcome, hscript, Script.ending]
  exact ⟨a, rfl, hnumber, List.append_nil _⟩

/-! ## Taking stock -/

/-- The instances that are out, by their numbers, and the idle ones are together the instances of
all the calls made so far. -/
def Numbered (number : α → Nat) (out : List Nat) (p : Pool α) : Prop :=
  (out ++ p.idle.toList.map number).Perm (List.range p.calls)

namespace Numbered

variable {out : List Nat}

/-- In a pool without instances none is out. -/
theorem empty (number : α → Nat) (kind : Kind) : Numbered number [] (Pool.empty kind) := by
  show (([] : List Nat) ++ (Idle.empty kind).toList.map number).Perm (List.range 0)
  rw [Idle.toList_empty]
  exact .refl _

/-- The instances that are out are told apart by their numbers. -/
theorem nodup (h : Numbered number out p) : out.Nodup :=
  (List.nodup_append.mp (h.nodup_iff.mpr List.nodup_range)).1

/-- A new instance is out. -/
theorem made {a : α} (h : Numbered number out p) (ha : number a = p.calls) :
    Numbered number (number a :: out)
      (p.after [.callBegan p.idle, .callEnded (.ok a : Ending ε α)]) := by
  show (number a :: (out ++ p.idle.toList.map number)).Perm (List.range (p.calls + 1))
  rw [List.range_succ, ha]
  exact (List.Perm.cons _ h).trans (List.perm_append_singleton _ _).symm

/-- An idle instance that is served is out. -/
theorem served {a : α} {rest : Idle α} (h : Numbered number out p)
    (hidle : p.idle.pop? = some (a, rest)) :
    Numbered number (number a :: out) { p with idle := rest } := by
  have hperm := (Idle.perm_of_pop? hidle).map number
  refine List.Perm.trans ?_ h
  show (number a :: (out ++ rest.toList.map number)).Perm _
  exact List.perm_middle.symm.trans (hperm.symm.append_left out)

/-- An instance that joins the idle ones is no longer out. -/
theorem added {a : α} (h : Numbered number (number a :: out) p) :
    Numbered number out { p with idle := p.idle.push a } := by
  refine List.Perm.trans ?_ h
  show (out ++ (p.idle.push a).toList.map number).Perm
    (number a :: (out ++ p.idle.toList.map number))
  rw [Idle.toList_push, List.map_append, ← List.append_assoc]
  exact List.perm_append_singleton _ _

/-- **Adding new instances** leaves the same instances out. -/
theorem add (h : Numbered number out p) (hf : f.Numbers number) {n : Nat} {e : Ending ε Unit}
    (hruns : Runs f (depth + 1) (.add n) p J e) :
    e = .ok () ∧ Numbered number out (p.after J) := by
  induction n generalizing p J with
  | zero =>
    cases hruns
    exact ⟨rfl, h⟩
  | succ n ih =>
    cases hruns with
    | @added _ _ _ a J K _ hmake hrest =>
      obtain ⟨b, hb, hnumber, rfl⟩ := hf.make hmake
      obtain rfl := Ending.ok.inj hb
      have hadded : Numbered number out ((p.after [.callBegan p.idle, .callEnded (.ok a)]).after
          (additionDeeds a : List (Deed ε α))) := (h.made (ε := ε) hnumber).added
      obtain ⟨he, hnumbered⟩ := ih hadded hrest
      rw [after_append, after_append]
      exact ⟨he, hnumbered⟩
    | addStopped hmake hstop =>
      obtain ⟨a, rfl, -, -⟩ := hf.make hmake
      cases hstop

end Numbered

/-! ## Keeping a pool -/

/-- A chronicle is continued by a run that leaves nothing open. -/
theorem Chronicle.append {kind : Kind} {task : Task ε α β} {e : Ending ε β}
    (h : Chronicle kind J p) (hruns : Runs f depth task p K e)
    (hsettled : ∀ w, Conserved w → total w K = 0) : Chronicle kind (J ++ K) (p.after K) where
  pool_eq := by rw [after_append, ← h.pool_eq]
  supplies := supplies_append.mpr ⟨h.supplies, h.pool_eq ▸ hruns.supplies⟩
  total_eq_zero w hw := by rw [total_append, h.total_eq_zero w hw, hsettled w hw, add_zero]

/-- What is known of the pool of a factory that numbers its instances, with the journal of the pool
and the instances that are out. -/
structure Kept (number : α → Nat) (out : List Nat) (J : List (Deed ε α)) (p : Pool α) : Prop where
  /-- The journal tells the pool, and nothing is left open. -/
  chronicle : Chronicle p.kind J p
  /-- No call nested too deep. -/
  finished : occurrences .lapsed J = 0
  /-- No instance is lost. -/
  numbered : Numbered number out p

namespace Kept

variable {out out' : List Nat}

/-- A pool without instances is kept. -/
theorem empty (number : α → Nat) (kind : Kind) :
    Kept number [] ([] : List (Deed ε α)) (Pool.empty kind) where
  chronicle := by
    rw [show (Pool.empty kind : Pool α).kind = kind from Idle.kind_empty kind]
    exact ⟨rfl, trivial, fun _ _ => rfl⟩
  finished := rfl
  numbered := .empty number kind

/-- A pool is kept by what leaves nothing open, ends, and loses no instance. -/
theorem append {task : Task ε α β} {e : Ending ε β} (h : Kept number out J p)
    (hruns : Runs f depth task p K e) (hsettled : ∀ w, Conserved w → total w K = 0)
    (he : e ≠ .unfinished) (hnumbered : Numbered number out' (p.after K)) :
    Kept number out' (J ++ K) (p.after K) where
  chronicle := by
    rw [kind_after]
    exact h.chronicle.append hruns hsettled
  finished := by rw [occurrences_append, h.finished, hruns.not_lapsed he]
  numbered := hnumbered

/-- **A get hands out an instance**, which is then out as well. -/
theorem get (h : Kept number out J p) (hf : f.Numbers number) {e : Ending ε α}
    (hruns : Runs f (depth + 1) .get p K e) :
    ∃ a G, e = .ok a ∧ K = G ++ [.getEnded (.ok a)] ∧ (∀ d ∈ G, d.Quiet) ∧
      Kept number (number a :: out) (J ++ K) (p.after K) := by
  suffices hget : ∃ a, e = .ok a ∧ Numbered number (number a :: out) (p.after K) by
    obtain ⟨a, rfl, hnumbered⟩ := hget
    obtain ⟨G, hG, hquiet⟩ := hf.aloof.get hruns
    exact ⟨a, G, rfl, hG, hquiet, h.append hruns (fun w hw => hruns.settled hw) nofun hnumbered⟩
  cases hruns with
  | @hit _ _ a rest hidle =>
    refine ⟨a, rfl, ?_⟩
    simp only [after_cons, after_nil, next, hidle]
    exact h.numbered.served hidle
  | missed hidle hmake =>
    obtain ⟨a, rfl, ha, rfl⟩ := hf.make hmake
    exact ⟨a, rfl, h.numbered.made (ε := ε) ha⟩

/-- **A release takes an instance back.** -/
theorem release {a : α} (h : Kept number (number a :: out) J p) :
    Kept number out (J ++ releaseDeeds a) (p.after (releaseDeeds a : List (Deed ε α))) := by
  have hruns : Runs ⟨0, fun _ => .make a⟩ 0 (.release a) p (releaseDeeds a : List (Deed ε α))
    (.ok ()) := .released
  exact h.append hruns (fun w hw => hruns.settled hw) nofun h.numbered.added

/-- **A growth leaves the same instances out**, and it succeeds if the pool has room. -/
theorem grow (h : Kept number out J p) (hf : f.Numbers number) {count : UInt64}
    {e : Ending ε Unit} (hruns : Runs f (depth + 1) (.grow count) p K e) :
    (p.HasRoom f.instanceSize count → e = .ok ()) ∧ (∀ d ∈ K, d.Quiet) ∧
      Kept number out (J ++ K) (p.after K) := by
  suffices hgrow : (p.HasRoom f.instanceSize count → e = .ok ()) ∧ e ≠ .unfinished ∧
      Numbered number out (p.after K) by
    obtain ⟨hok, he, hnumbered⟩ := hgrow
    refine ⟨hok, hf.aloof.quiet_grow hruns, ?_⟩
    exact h.append hruns (fun w hw => hruns.settled hw) he hnumbered
  cases hruns with
  | grewByNone => exact ⟨fun _ => rfl, nofun, h.numbered⟩
  | growRefused hcount hroom => exact ⟨fun hroom' => absurd hroom' hroom, nofun, h.numbered⟩
  | grew hcount hroom hadd =>
    obtain ⟨rfl, hnumbered⟩ := h.numbered.add hf hadd
    refine ⟨fun _ => rfl, nofun, ?_⟩
    simp only [after_cons, after_append]
    exact hnumbered

/-- A pool is kept by the report that it is ready. -/
theorem ready (h : Kept number out J p) (kind : Kind) (initial : UInt64) :
    Kept number out (J ++ [.reported (Report.ready kind initial)]) p where
  chronicle := by
    refine ⟨?_, ?_, fun w hw => ?_⟩
    · rw [after_append, ← h.chronicle.pool_eq]
      rfl
    · refine supplies_append.mpr ⟨h.chronicle.supplies, supplies_of_not_served ?_ _⟩
      simp
    · rw [total_append, h.chronicle.total_eq_zero w hw, zero_add, total_cons, hw.ready]
      rfl
  finished := by rw [occurrences_append, h.finished]; rfl
  numbered := h.numbered

end Kept

/-! ## When nothing is out -/

/-- So many gets have been served, and everything is back. -/
structure AllBack (number : α → Nat) (gets : Nat) (p : Pool α) : Prop where
  /-- Every get was followed by a release. -/
  released : p.stats.released = .ofNat gets
  /-- Every get was a hit or a miss. -/
  hits_add_misses : p.stats.hits + p.stats.misses = .ofNat gets
  /-- As many instances are idle as were created. -/
  created : p.stats.created = .ofNat p.stats.available
  /-- As many instances are idle as there were factory calls. -/
  available : p.stats.available = p.calls
  /-- Every instance ever made is idle, once. -/
  idle : (p.idle.toList.map number).Perm (List.range p.calls)

/-- **Where every get was followed by a release**, everything is back. -/
theorem Kept.allBack (h : Kept number [] J p)
    (hreleased : occurrences .released J = occurrences .got J) :
    AllBack number (occurrences .got J) p := by
  have hbalanced : Balanced J p := h.chronicle.balanced h.finished
  have hreleases : p.stats.released = .ofNat (occurrences .got J) := by
    rw [hbalanced.released, hreleased]
  have hidle : (p.idle.toList.map number).Perm (List.range p.calls) := h.numbered
  refine ⟨hreleases, hbalanced.gets, ?_, ?_, hidle⟩
  · -- what is idle and the hits are what was made by growing and what came back
    have hstock := hbalanced.idle
    rw [hreleases, ← hbalanced.gets] at hstock
    have hsame : .ofNat p.stats.available + p.stats.hits = p.stats.created + p.stats.hits := by
      rw [hstock, hbalanced.created]
      ac_rfl
    exact ((UInt64.add_left_inj _).mp hsame).symm
  · have htallied : p.idle.Tallied := by
      rw [h.chronicle.pool_eq]
      exact tallied_after (Idle.tallied_empty _) J
    have hlength := hidle.length_eq
    rw [List.length_map, List.length_range] at hlength
    exact (Idle.available_eq htallied).trans hlength

end

end Pool

end ConverterKit
