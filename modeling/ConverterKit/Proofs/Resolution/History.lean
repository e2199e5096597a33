import ConverterKit.Proofs.Resolution.Course
import Mathlib.Data.List.DropRight
import Mathlib.Data.Set.Card

/-!
# The cache as a function of history

What a caching resolver keeps can be read off its journal, without following the cache through the
run. Look at the deeds since the registered callback was registered. A *success* is an id that the
callback told a resolve that had read a generation. The cache belongs to the *peak* of the
generations of all successes so far, and for each name it keeps the id of the latest success under
that generation, unless the name was forgotten since then: its *standing* id.

So it is known when the cache must be used and when it must not be, whatever generations the
callback reports.

## Main definitions

* `Success`, `successes`: ids told by the callback under a generation
* `peak`, `latest?`, `standing?`: what the journal says about the cache
* `IdCache.Tells`: a cache that is what the journal says

## Main results

* `IdCache.Tells.file`, `forget`, `clear`: one deed
* `exists_cache_after`: after any journal the cache is what the journal says
* `cache_is_history`: when a resolve is served and with which id, what is kept, and how much
-/

namespace ConverterKit

namespace NameMap

variable {α : Type}

/-- The size of a map is the number of names that have a value. -/
theorem size_eq_ncard (m : NameMap α) : m.size = {name | (m.find? name).isSome}.ncard := by
  have hset : {name | (m.find? name).isSome} =
      ((m.entries.map Prod.fst).toFinset : Set String) := by
    ext name
    rw [Set.mem_ofPred_eq, List.coe_toFinset, Set.mem_ofPred_eq, Option.isSome_iff_ne_none, ne_eq,
      find?_eq_none_iff, not_not]
  rw [hset, Set.ncard_coe_finset, List.toFinset_card_of_nodup m.nodup, List.length_map, size]

end NameMap

namespace Resolution

variable {κ H χ : Type}

/-! ## What the journal says -/

/-- An id that the callback told a resolve that had read a generation. -/
structure Success where
  /-- The name asked for. -/
  name : String
  /-- The generation read before the callback was invoked. -/
  generation : UInt64
  /-- The id. -/
  id : ServiceId
deriving DecidableEq

namespace Deed

/-- The success that a deed is the completion of. -/
def success? : Deed κ H → Option Success
  | .consulted _ name (some generation) .success (some id) => some { name, generation, id }
  | _ => none

/-- Whether a deed makes the resolver forget the id of a name. -/
def forgets (name : String) : Deed κ H → Bool
  | .invalidated other => other = name
  | .cleared => true
  | _ => false

theorem eq_consulted_of_success? {d : Deed κ H} {x : Success} (h : d.success? = some x) :
    ∃ k, d = .consulted k x.name (some x.generation) .success (some x.id) := by
  unfold success? at h
  split at h
  · obtain rfl := Option.some.inj h
    exact ⟨_, rfl⟩
  · exact absurd h nofun

theorem next_of_success? {d : Deed κ H} {x : Success} (h : d.success? = some x)
    (s : Session κ H) :
    s.next d = { s with resolver := s.resolver.file x.name x.id x.generation } := by
  obtain ⟨k, rfl⟩ := eq_consulted_of_success? h
  rfl

theorem next_consulted_of_none {k : κ} {name : String} {generation : Option UInt64}
    {outcome : Outcome} {id? : Option ServiceId}
    (h : (consulted k name generation outcome id? : Deed κ H).success? = none) (s : Session κ H) :
    s.next (.consulted k name generation outcome id?) = s := by
  rcases generation with _ | g <;> rcases outcome <;> rcases id? with _ | id <;>
    first | rfl | exact absurd h nofun

theorem forgets_of_success? {d : Deed κ H} {x : Success} (h : d.success? = some x)
    (name : String) : d.forgets name = false := by
  obtain ⟨k, rfl⟩ := eq_consulted_of_success? h
  rfl

end Deed

/-- The deeds since the registered callback was registered. -/
def sinceRegistered (J : List (Deed κ H)) : List (Deed κ H) :=
  J.rtakeWhile fun d => d.callback?.isNone

/-- The successes in a journal, in the order of their completion. -/
def successes (J : List (Deed κ H)) : List Success := J.filterMap Deed.success?

/-- The greatest generation of the successes so far, or zero if there are none. -/
def peak (J : List (Deed κ H)) : UInt64 :=
  ((successes J).map Success.generation).foldl max 0

/-- The id of the latest success for a name under a generation since the name was last forgotten. -/
def latest? (generation : UInt64) (name : String) (J : List (Deed κ H)) : Option ServiceId :=
  ((successes (J.rtakeWhile fun d => !d.forgets name)).filter fun x =>
    x.name = name ∧ x.generation = generation).getLast?.map Success.id

/-- The id of the latest success for a name under the greatest generation of all, if the name was
not forgotten since. -/
def standing? (J : List (Deed κ H)) (name : String) : Option ServiceId := latest? (peak J) name J

section

variable {J : List (Deed κ H)} {d : Deed κ H} {g : UInt64} {name : String}

theorem successes_concat (J : List (Deed κ H)) (d : Deed κ H) :
    successes (J ++ [d]) = successes J ++ d.success?.toList := by
  rw [successes, List.filterMap_append, successes]
  cases h : d.success? <;> simp [h]

theorem sinceRegistered_concat (J : List (Deed κ H)) (d : Deed κ H) :
    sinceRegistered (J ++ [d]) =
      if d.callback?.isNone then sinceRegistered J ++ [d] else [] :=
  List.rtakeWhile_concat _ J d

theorem peak_concat_of_none (h : d.success? = none) : peak (J ++ [d]) = peak J := by
  simp [peak, successes_concat, h]

theorem peak_concat_of_some {x : Success} (h : d.success? = some x) :
    peak (J ++ [d]) = if peak J ≤ x.generation then x.generation else peak J := by
  simp only [peak, successes_concat, h, Option.toList_some, List.map_append, List.map_cons,
    List.map_nil, List.foldl_append, List.foldl_cons, List.foldl_nil]
  rfl

theorem latest?_concat_of_forgets (h : d.forgets name = true) :
    latest? g name (J ++ [d]) = none := by
  rw [latest?, List.rtakeWhile_concat_neg _ _ _ (by simp [h])]
  rfl

theorem latest?_concat_of_none (h : d.forgets name = false) (hd : d.success? = none) :
    latest? g name (J ++ [d]) = latest? g name J := by
  rw [latest?, List.rtakeWhile_concat_pos _ _ _ (by simp [h]), successes_concat, hd]
  simp [latest?]

theorem latest?_concat_of_some {x : Success} (hd : d.success? = some x) :
    latest? g name (J ++ [d]) =
      if x.name = name ∧ x.generation = g then some x.id else latest? g name J := by
  rw [latest?, List.rtakeWhile_concat_pos _ _ _ (by simp [Deed.forgets_of_success? hd]),
    successes_concat, hd, List.filter_append]
  by_cases hx : x.name = name ∧ x.generation = g
  · simp [hx]
  · simp [hx, latest?]

/-- No success has a generation above the peak. -/
theorem generation_le_peak {x : Success} (hx : x ∈ successes J) : x.generation ≤ peak J := by
  induction J using List.reverseRecOn with
  | nil => exact absurd hx List.not_mem_nil
  | append_singleton J d ih =>
    rw [successes_concat] at hx
    cases hd : d.success? with
    | none =>
      rw [peak_concat_of_none hd]
      exact ih (by simpa [hd] using hx)
    | some y =>
      rw [peak_concat_of_some hd]
      rcases List.mem_append.mp hx with hx | hx
      · split
        · next hle => exact UInt64.le_trans (ih hx) hle
        · exact ih hx
      · obtain rfl : x = y := by simpa [hd] using hx
        split
        · exact UInt64.le_refl _
        · next hle => exact UInt64.le_of_lt (UInt64.not_le.mp hle)

/-- Under a generation above the peak there is no id. -/
theorem latest?_eq_none_of_peak_lt (h : peak J < g) : latest? g name J = none := by
  have hnil : ((successes (J.rtakeWhile fun d => !d.forgets name)).filter fun x =>
      x.name = name ∧ x.generation = g) = [] := by
    refine List.filter_eq_nil_iff.mpr fun x hx hxg => ?_
    have hmem : x ∈ successes J :=
      ((List.rtakeWhile_suffix _ J).sublist.filterMap _).subset hx
    have hgen : x.generation = g := by simpa using (of_decide_eq_true hxg).2
    have hle := generation_le_peak hmem
    rw [hgen] at hle
    exact absurd h (UInt64.not_lt.mpr hle)
  rw [latest?, hnil]
  rfl

/-- A standing id was told: its success is the completion of some deed. -/
theorem exists_mem_of_standing? {id : ServiceId} (h : standing? J name = some id) :
    ∃ k, .consulted k name (some (peak J)) .success (some id) ∈ J := by
  obtain ⟨x, hx, rfl⟩ := Option.map_eq_some_iff.mp h
  obtain ⟨hmem, hmatch⟩ := List.mem_filter.mp (List.mem_of_getLast? hx)
  obtain ⟨rfl, hgen⟩ : x.name = name ∧ x.generation = peak J := by simpa using hmatch
  obtain ⟨d, hd, hdx⟩ := List.mem_filterMap.mp hmem
  obtain ⟨k, rfl⟩ := Deed.eq_consulted_of_success? hdx
  exact ⟨k, hgen ▸ (List.rtakeWhile_suffix _ J).subset hd⟩

/-- A deed since the registration, with all deeds before it and all since. -/
theorem exists_append_of_mem_sinceRegistered (h : d ∈ sinceRegistered J) :
    ∃ past rest, J = past ++ d :: rest ∧ ∀ e ∈ rest, e.callback? = none := by
  obtain ⟨before, hbefore⟩ := List.rtakeWhile_suffix (fun d : Deed κ H => d.callback?.isNone) J
  obtain ⟨pre, rest, hsplit⟩ := List.append_of_mem h
  refine ⟨before ++ pre, rest, ?_, fun e he => ?_⟩
  · rw [← hbefore, List.append_assoc, ← hsplit]
    rfl
  · have hmem : e ∈ sinceRegistered J := by
      rw [hsplit]
      exact List.mem_append_right _ (List.mem_cons_of_mem d he)
    have hnone : e.callback?.isNone = true :=
      List.mem_rtakeWhile_imp (p := fun d : Deed κ H => d.callback?.isNone) hmem
    exact Option.isNone_iff_eq_none.mp hnone

end

/-! ## The cache is what the journal says -/

/-- A cache that is what a journal says. -/
structure IdCache.Tells (c : IdCache) (J : List (Deed κ H)) : Prop where
  /-- The generation of the cache is the greatest one of all successes. -/
  generation : c.generation = peak J
  /-- The ids kept are those that stand. -/
  find? : ∀ name, c.ids.find? name = standing? J name

namespace IdCache.Tells

variable {c : IdCache} {J : List (Deed κ H)} {d : Deed κ H}

theorem start : ({} : IdCache).Tells ([] : List (Deed κ H)) := ⟨rfl, fun _ => rfl⟩

/-- An id is filed as the journal says: it is the first one of a new peak, or stands in the place of
an older one, or comes too late. -/
theorem file (h : c.Tells J) {x : Success} (hd : d.success? = some x) :
    (c.file x.name x.id x.generation).Tells (J ++ [d]) := by
  have hpeak := peak_concat_of_some (J := J) hd
  have hlatest : ∀ g name, latest? g name (J ++ [d]) =
      if x.name = name ∧ x.generation = g then some x.id else latest? g name J := fun _ _ =>
    latest?_concat_of_some hd
  rw [← h.generation] at hpeak
  unfold IdCache.file
  split
  · next hold =>
    rw [if_neg (UInt64.not_le.mpr hold)] at hpeak
    refine ⟨hpeak.symm, fun name => ?_⟩
    rw [standing?, hpeak, hlatest, if_neg (fun hx => UInt64.ne_of_lt hold hx.2), h.find?, standing?,
      h.generation]
  · next hold =>
    rw [if_pos (UInt64.not_lt.mp hold)] at hpeak
    split
    · next hnew =>
      refine ⟨hpeak.symm, fun name => ?_⟩
      have hnone : latest? x.generation name J = none :=
        latest?_eq_none_of_peak_lt (by rwa [← h.generation])
      rw [standing?, hpeak, hlatest, hnone, NameMap.find?_insert]
      simp
    · next hnew =>
      have heq : c.generation = x.generation :=
        UInt64.le_antisymm (UInt64.not_lt.mp hold) (UInt64.not_lt.mp hnew)
      refine ⟨heq.trans hpeak.symm, fun name => ?_⟩
      rw [standing?, hpeak, hlatest, NameMap.find?_insert, h.find?, standing?, ← h.generation, heq]
      simp

/-- An id that is forgotten no longer stands, and the other ones do. -/
theorem forget (h : c.Tells J) (name : String) :
    (c.forget name).Tells (J ++ [(.invalidated name : Deed κ H)]) := by
  have hpeak : peak (J ++ [(.invalidated name : Deed κ H)]) = peak J := peak_concat_of_none rfl
  refine ⟨h.generation.trans hpeak.symm, fun other => ?_⟩
  rw [IdCache.forget, NameMap.find?_erase, standing?, hpeak]
  split
  · next heq => exact (latest?_concat_of_forgets (by simp [Deed.forgets, heq])).symm
  · next hne =>
    rw [latest?_concat_of_none (by simp [Deed.forgets, hne]) rfl]
    exact h.find? other

/-- After all ids are forgotten none stands, but the peak stays. -/
theorem clear (h : c.Tells J) : c.clear.Tells (J ++ [(.cleared : Deed κ H)]) := by
  have hpeak : peak (J ++ [(.cleared : Deed κ H)]) = peak J := peak_concat_of_none rfl
  refine ⟨h.generation.trans hpeak.symm, fun name => ?_⟩
  rw [standing?, latest?_concat_of_forgets rfl]
  rfl

/-- All other deeds change nothing. -/
theorem other (h : c.Tells J) (hforgets : ∀ name, d.forgets name = false)
    (hd : d.success? = none) : c.Tells (J ++ [d]) := by
  refine ⟨h.generation.trans (peak_concat_of_none hd).symm, fun name => ?_⟩
  rw [standing?, peak_concat_of_none hd, latest?_concat_of_none (hforgets name) hd]
  exact h.find? name

end IdCache.Tells

/-- **After any journal the cache is what the journal says.** -/
theorem exists_cache_after {s : Session κ H} (hs : s.resolver.cache? = some {})
    (J : List (Deed κ H)) :
    ∃ cache, (s.after J).resolver.cache? = some cache ∧ cache.Tells (sinceRegistered J) := by
  induction J using List.reverseRecOn with
  | nil => exact ⟨{}, hs, .start⟩
  | append_singleton J d ih =>
    obtain ⟨cache, hcache, htells⟩ := ih
    rw [sinceRegistered_concat, Session.after_append]
    show ∃ cache', ((s.after J).next d).resolver.cache? = some cache' ∧ _
    cases d with
    | registered k => exact ⟨{}, by simp [Session.next, Resolver.register, hcache], .start⟩
    | invalidated name =>
      exact ⟨cache.forget name, by simp [Session.next, Resolver.forget, hcache], htells.forget name⟩
    | cleared => exact ⟨cache.clear, by simp [Session.next, Resolver.clear, hcache], htells.clear⟩
    | consulted k name generation outcome id? =>
      cases hd : (Deed.consulted k name generation outcome id? : Deed κ H).success? with
      | some x =>
        refine ⟨cache.file x.name x.id x.generation, ?_, htells.file hd⟩
        simp [Deed.next_of_success? hd, Resolver.file, hcache]
      | none =>
        refine ⟨cache, ?_, htells.other (fun _ => rfl) hd⟩
        rwa [Deed.next_consulted_of_none hd]
    | _ => exact ⟨cache, hcache, htells.other (fun _ => rfl) rfl⟩

/-- A resolver goes on keeping ids, or not keeping any. -/
theorem isSome_cache?_after (s : Session κ H) (J : List (Deed κ H)) :
    (s.after J).resolver.cache?.isSome = s.resolver.cache?.isSome := by
  induction J using List.reverseRecOn with
  | nil => rfl
  | append_singleton J d ih =>
    rw [← ih, Session.after_append]
    show ((s.after J).next d).resolver.cache?.isSome = _
    unfold Session.next
    split <;> simp [Resolver.file, Resolver.forget, Resolver.clear, Resolver.register]

section

variable {w : Surroundings κ H χ} {depth : Nat} {moves : List (Move κ χ)} {host : H}
  {s : Scene (Session κ H) (Deed κ H)}

/-- In every scene of a run of a caching resolver the cache is what the journal says. -/
theorem Surroundings.Visits.exists_cache
    (hs : w.Visits depth moves (Session.start true host) s) :
    ∃ cache, s.state.resolver.cache? = some cache ∧
      cache.Tells (sinceRegistered s.journal.toList) := by
  obtain ⟨J, rfl, -⟩ := hs.exists_record (w.keeps_of_forall fun _ _ => trivial)
  obtain ⟨cache, hcache, htells⟩ :=
    exists_cache_after (s := (Session.start true host : Scene _ (Deed κ H)).state) rfl J
  rw [state_record, toList_journal_record]
  exact ⟨cache, hcache, htells⟩

/-- What a resolver whose cache is what the journal says serves to someone who read a generation. -/
theorem cached?_eq {r : Resolver κ} {cache : IdCache} {J : List (Deed κ H)}
    (hcache : r.cache? = some cache) (h : cache.Tells J) (name : String) (g? : Option UInt64) :
    r.cached? name g? = if g? = some (peak J) then standing? J name else none := by
  cases g? with
  | none => simp [Resolver.cached?, hcache]
  | some g =>
    simp only [Resolver.cached?, hcache, Option.bind_eq_bind, Option.bind_some,
      IdCache.lookup?, h.generation, h.find?, Option.some.injEq, eq_comm]

/-- What is served from the cache, if there is one, stands under the generation that was read. -/
theorem Surroundings.Visits.standing?_of_cached? {caching : Bool}
    (hs : w.Visits depth moves (Session.start caching host) s) {name : String} {g? : Option UInt64}
    {id : ServiceId} (hid : s.state.resolver.cached? name g? = some id) :
    g? = some (peak (sinceRegistered s.journal.toList)) ∧
      standing? (sinceRegistered s.journal.toList) name = some id := by
  cases caching with
  | true =>
    obtain ⟨cache, hcache, htells⟩ := hs.exists_cache
    rw [cached?_eq hcache htells] at hid
    split at hid
    · next hpeak => exact ⟨hpeak, hid⟩
    · exact absurd hid nofun
  | false =>
    obtain ⟨J, rfl, -⟩ := hs.exists_record (w.keeps_of_forall fun _ _ => trivial)
    have hcache : (record (Session.start false host) J).state.resolver.cache? = none := by
      rw [← Option.not_isSome_iff_eq_none, state_record, isSome_cache?_after]
      exact Bool.false_ne_true
    rw [Resolver.cached?, hcache] at hid
    exact absurd hid nofun

/-- **The cache is an exact function of history.** In every scene of a run in which the host is in
control, with a caching resolver and whatever its callbacks do: a name resolves to its standing id,
without the callback, exactly if the generation read is the peak and an id stands; in all other
cases the callback is invoked exactly once. The number of ids kept is the number of names with a
standing id, and the id that is forgotten is the one that stands. -/
theorem cache_is_history (w : Surroundings κ H χ) (depth : Nat) (moves : List (Move κ χ)) (host : H)
    (s : Scene (Session κ H) (Deed κ H)) (hs : w.Visits depth moves (Session.start true host) s) :
    let past := sinceRegistered s.journal.toList
    (∀ k, s.state.resolver.callback? = some k →
      let generation := w.generation k s.state.host
      (∀ name id, generation = some (peak past) → standing? past name = some id → ∀ invoke,
        Session.resolve w.toCallbacks invoke name s =
          (.ok (.ok id), record s (servedDeeds name generation id))) ∧
      ∀ name, ¬ (generation = some (peak past) ∧ (standing? past name).isSome) → ∀ invoke,
        Session.resolve w.toCallbacks invoke name s =
          (invoke k { name } >>= Session.close k name generation)
            (record s (openingDeeds k name generation))) ∧
    s.state.resolver.cachedCount = {name | (standing? past name).isSome}.ncard ∧
    ∀ name, (Session.invalidate name s).1 = .ok (standing? past name) := by
  intro past
  obtain ⟨cache, hcache, htells⟩ := hs.exists_cache
  have hcached := cached?_eq hcache htells
  refine ⟨fun k hk => ⟨fun name id hpeak hid invoke => ?_, fun name hnot invoke => ?_⟩, ?_,
    fun name => ?_⟩
  · refine resolve_of_some hk ?_
    rw [hcached, if_pos hpeak, hid]
  · refine resolve_of_cached?_none hk ?_
    rw [hcached]
    split
    · next hpeak =>
      rw [← Option.not_isSome_iff_eq_none]
      exact fun hid => hnot ⟨hpeak, hid⟩
    · rfl
  · rw [Resolver.cachedCount, hcache, Option.map_some, Option.getD_some, IdCache.size,
      NameMap.size_eq_ncard]
    simp only [htells.find?]
    rfl
  · show Ending.ok (s.state.resolver.kept? name) = _
    simp only [Resolver.kept?, hcache, Option.bind_eq_bind, Option.bind_some, htells.find?]
    rfl

/-- The id that was kept while the callback was being asked for another name is served as long as
the generation stays, and it is the only one kept: the one of the name asked first came too late. -/
theorem cache_is_history_fickle :
    (∀ invoke, Session.resolve fickle.toCallbacks invoke "B" fickleScene =
      (.ok (.ok 3), record fickleScene (servedDeeds "B" (some 7) 3))) ∧
    (∀ invoke, Session.resolve fickle.toCallbacks invoke "A" fickleScene =
      (invoke () { name := "A" } >>= Session.close () "A" (some 7))
        (record fickleScene (openingDeeds () "A" (some 7)))) ∧
    (Session.invalidate "A" fickleScene).1 = .ok none := by
  obtain ⟨hresolve, -, hinvalidate⟩ := cache_is_history fickle 2 fickleMoves none fickleScene
    (fickle.visits_after 2 fickleMoves _)
  obtain ⟨hserved, hasked⟩ := hresolve () rfl
  exact ⟨hserved "B" 3 rfl rfl, hasked "A" (fun h => absurd h.2 nofun), hinvalidate "A"⟩

end

end Resolution

end ConverterKit
