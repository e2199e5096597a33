import ConverterKit.Proofs.Resolution.Provenance
import ConverterKit.Proofs.Resolution.Transparency

/-!
# When superseded ids leave the cache

An id is *superseded* when the directory it came from has moved on to another generation. Such an id
is never served. Whether it is still in the cache is another matter: the cache is emptied when an id
of a newer generation is filed, and by nothing else. A resolve that succeeds leaves only ids of the
generation it read. A resolve that fails files nothing and leaves the cache as it found it, with all
superseded ids in it; they are counted, and forgetting one of them yields it.

## Main definitions

* `Current`: everything kept was told under one generation
* `NeverWraps`: a directory that changes so seldom that its generation counts all its changes
* `Behind`: a cache whose generation the registered directory has reached

## Main results

* `directories_resolve_cases`: the three ways of a resolve with a directory
* `behind_after`: the cache is never ahead of the registered directory
* `Surroundings.Visits.current_iff`: when everything kept was told under a generation
* `resolve_leaves_current_iff`: which resolves leave nothing superseded
* `superseded_id_stays`: one that does
-/

namespace ConverterKit

namespace Resolution

variable {κ H χ : Type}

/-! ## Ids told under one generation -/

/-- Every id kept was told by the registered callback after it had reported this generation. -/
def Current (c : Callbacks κ H) (start : Scene (Session κ H) (Deed κ H)) (k : κ)
    (generation : UInt64) (s : Scene (Session κ H) (Deed κ H)) : Prop :=
  ∀ name id, s.state.resolver.kept? name = some id →
    Testified c start s.journal.toList k name (some generation) (.success, some id)

/-- What was noted since no callback was registered any more was noted since the registration. -/
theorem sinceRegistered_append (J : List (Deed κ H)) {K : List (Deed κ H)}
    (hK : ∀ d ∈ K, d.callback? = none) : sinceRegistered (J ++ K) = sinceRegistered J ++ K := by
  induction K using List.reverseRecOn with
  | nil => rw [List.append_nil, List.append_nil]
  | append_singleton K d ih =>
    have hd : d.callback? = none := hK d (by simp)
    rw [← List.append_assoc, sinceRegistered_concat, hd, Option.isNone_none, if_pos rfl,
      ih fun e he => hK e (List.mem_append_left _ he), List.append_assoc]

/-- Nothing was told under a generation above the peak. -/
theorem Testified.generation_le_peak {c : Callbacks κ H} {start : Scene (Session κ H) (Deed κ H)}
    {J : List (Deed κ H)} {k : κ} {name : String} {g : UInt64} {id : ServiceId}
    (h : Testified c start J k name (some g) (.success, some id)) :
    g ≤ peak (sinceRegistered J) := by
  obtain ⟨past, rest, rfl, hrest, -⟩ := h
  have hnone : ∀ d ∈ Deed.consulted k name (some g) .success (some id) :: rest,
      d.callback? = none := by
    intro d hd
    rcases List.mem_cons.mp hd with rfl | hd
    · rfl
    · exact hrest d hd
  refine Resolution.generation_le_peak (x := { name, generation := g, id }) ?_
  rw [sinceRegistered_append past hnone]
  refine List.mem_filterMap.mpr ⟨.consulted k name (some g) .success (some id), ?_, rfl⟩
  exact List.mem_append_right _ List.mem_cons_self

/-- A resolver that keeps no ids keeps none for any name. -/
theorem Resolver.cachedCount_eq_zero_iff {r : Resolver κ} :
    r.cachedCount = 0 ↔ ∀ name, r.kept? name = none := by
  obtain ⟨callback?, _ | cache⟩ := r
  · exact ⟨fun _ _ => rfl, fun _ => rfl⟩
  · show cache.ids.entries.length = 0 ↔ ∀ name, cache.ids.find? name = none
    simp only [NameMap.find?_eq_none_iff]
    rw [List.length_eq_zero_iff, ← List.map_eq_nil_iff (f := Prod.fst),
      List.eq_nil_iff_forall_not_mem]

/-- **What is kept was told under one generation** exactly if nothing is kept or the cache belongs
to that generation, provided the cache is not ahead of it. -/
theorem Surroundings.Visits.current_iff {w : Surroundings κ H χ} {depth : Nat}
    {moves : List (Move κ χ)} {host : H} {s : Scene (Session κ H) (Deed κ H)}
    (hs : w.Visits depth moves (Session.start true host) s) {k : κ}
    (hk : s.state.resolver.callback? = some k) {cache : IdCache}
    (hcache : s.state.resolver.cache? = some cache) {g : UInt64} (hle : cache.generation ≤ g) :
    Current w.toCallbacks (Session.start true host) k g s ↔
      s.state.resolver.cachedCount = 0 ∨ cache.generation = g := by
  obtain ⟨cache', hcache', htells⟩ := hs.exists_cache
  obtain rfl := Option.some.inj (hcache.symm.trans hcache')
  have hkept : ∀ name, s.state.resolver.kept? name =
      standing? (sinceRegistered s.journal.toList) name := by
    intro name
    rw [← htells.find? name, Resolver.kept?, hcache]
    rfl
  constructor
  · intro hcurrent
    by_cases hzero : s.state.resolver.cachedCount = 0
    · exact .inl hzero
    · obtain ⟨name, hname⟩ := not_forall.mp (mt Resolver.cachedCount_eq_zero_iff.mpr hzero)
      obtain ⟨id, hid⟩ := Option.ne_none_iff_exists'.mp hname
      refine .inr (UInt64.le_antisymm hle ?_)
      rw [htells.generation]
      exact (hcurrent name id hid).generation_le_peak
  · rintro (hzero | rfl) name id hid
    · rw [Resolver.cachedCount_eq_zero_iff.mp hzero name] at hid
      cases hid
    · obtain ⟨J, rfl, hJ⟩ := hs.exists_record (w.keeps_of_forall fun _ _ => trivial)
      rw [hkept, toList_journal_record_start] at hid
      rw [state_record] at hk
      rw [htells.generation, toList_journal_record_start]
      exact hJ.testified_of_standing? hk hid

/-! ## Resolving with a directory -/

/-- Of what is noted when a callback has answered, only the answer itself changes anything. -/
theorem Session.after_closingDeeds (s : Session κ H) (r : Resolver κ) (k : κ) (name : String)
    (g? : Option UInt64) (a : Answer) :
    s.after (closingDeeds r k name g? a) = s.next (.consulted k name g? a.1 a.2) := by
  have hnews : ∀ u : Session κ H, u.after (newsDeeds r name g? a) = u := by
    intro u
    obtain ⟨_ | _, _ | id⟩ := a
    · rfl
    · simp only [newsDeeds, Session.after_cons]
      split
      · split <;> rfl
      · rfl
    · rfl
    · rfl
  rw [closingDeeds, Session.after_cons, Session.after_append, hnews]
  rfl

/-- How a resolve with a directory turns out. -/
inductive Turnout (s : Session κ (κ → Directory)) (k : κ) (name : String) :
    Except ConversionError ServiceId → Resolver κ → Prop where
  /-- It is served from the cache, which belongs to the generation read. -/
  | served {id : ServiceId} {cache : IdCache} (hcache : s.resolver.cache? = some cache)
      (hgeneration : cache.generation = (s.host k).generation) :
      Turnout s k name (.ok id) s.resolver
  /-- The directory knows the id, and it is filed under the generation read. -/
  | filed {id : ServiceId} (hid : (s.host k).get? name = some id) :
      Turnout s k name (.ok id) (s.resolver.file name id (s.host k).generation)
  /-- The directory does not know the name, and nothing is filed. -/
  | failed (hnone : (s.host k).get? name = none) :
      Turnout s k name (.error (.serviceNotFound name .callbackFailure)) s.resolver

section

variable [DecidableEq κ] {depth : Nat} {k : κ}
  {s : Scene (Session κ (κ → Directory)) (Deed κ (κ → Directory))}

/-- A resolve that is not served from the cache asks the directory, once. -/
theorem directories_resolve_of_cached?_none (hk : s.state.resolver.callback? = some k)
    {name : String}
    (hcached : s.state.resolver.cached? name (some (s.state.host k).generation) = none) :
    (directories κ).resolve (depth + 1) name s =
      (.ok (verdict name ((s.state.host k).tell name)),
        record s (openingDeeds k name (some (s.state.host k).generation) ++
          closingDeeds s.state.resolver k name (some (s.state.host k).generation)
            ((s.state.host k).tell name))) := by
  have hasked : (directories κ).resolve (depth + 1) name s =
      (Session.invoke (directories κ).toCallbacks (depth + 1) k { name } >>=
        Session.close k name (some (s.state.host k).generation))
          (record s (openingDeeds k name (some (s.state.host k).generation))) :=
    resolve_of_cached?_none hk hcached
  have hinvoke : ∀ u : Scene (Session κ (κ → Directory)) (Deed κ (κ → Directory)),
      Session.invoke (directories κ).toCallbacks (depth + 1) k { name } u =
        (.ok ((u.state.host k).answer { name }), u) := fun _ => rfl
  rw [hasked, Act.bind_of_ok (hinvoke _), ← Directory.answer_eq_tell, record_append]
  exact close_apply k name _ _ _ _

/-- **The three ways of a resolve with a directory.** -/
theorem directories_resolve_cases (depth : Nat) (hk : s.state.resolver.callback? = some k)
    (name : String) :
    ∃ result t, (directories κ).resolve (depth + 1) name s = (.ok result, t) ∧
      t.state.host = s.state.host ∧ Turnout s.state k name result t.state.resolver := by
  rcases hcached : s.state.resolver.cached? name (some (s.state.host k).generation) with _ | id
  · refine ⟨_, _, directories_resolve_of_cached?_none hk hcached, ?_⟩
    rw [state_record, Session.after_append, Session.after_closingDeeds]
    rcases hid : (s.state.host k).get? name with _ | id
    · have htell : (s.state.host k).tell name = (.failure, none) := by
        rw [Directory.tell, hid]
      rw [htell]
      exact ⟨rfl, .failed hid⟩
    · rw [Directory.tell_eq_iff.mpr hid]
      exact ⟨rfl, .filed hid⟩
  · refine ⟨_, _, resolve_of_some hk hcached, ?_⟩
    rw [state_record]
    refine ⟨rfl, ?_⟩
    rcases hcache : s.state.resolver.cache? with _ | cache
    · simp [Resolver.cached?, hcache] at hcached
    · refine .served hcache ?_
      by_contra hne
      simp [Resolver.cached?, hcache, IdCache.lookup?_of_ne hne] at hcached

end

/-! ## The cache is never ahead of its directory -/

/-- The generation of an id that is not older than the cache becomes that of the cache. -/
theorem IdCache.generation_file {c : IdCache} {name : String} {id : ServiceId} {g : UInt64}
    (h : c.generation ≤ g) : (c.file name id g).generation = g := by
  unfold IdCache.file
  rw [if_neg (UInt64.not_lt.mpr h)]
  split
  · rfl
  · next hnew => exact UInt64.le_antisymm h (UInt64.not_lt.mp hnew)

/-- The registered directory has reached the generation of the cache. -/
def Behind (s : Session κ (κ → Directory)) : Prop :=
  ∀ k cache, s.resolver.callback? = some k → s.resolver.cache? = some cache →
    cache.generation ≤ (s.host k).generation

/-- However a resolve turns out, the cache stays behind, and the callback is the same. -/
theorem Turnout.behind {s t : Session κ (κ → Directory)} {k : κ} {name : String}
    {result : Except ConversionError ServiceId} (h : Turnout s k name result t.resolver)
    (hhost : t.host = s.host) (hk : s.resolver.callback? = some k) (hs : Behind s) :
    Behind t ∧ t.resolver.callback? = some k := by
  obtain ⟨r, host⟩ := t
  obtain rfl : host = s.host := hhost
  cases h with
  | served | failed => exact ⟨hs, hk⟩
  | @filed id hid =>
    refine ⟨fun k' cache hk' hcache => ?_, hk⟩
    obtain rfl := Option.some.inj (hk.symm.trans hk')
    obtain ⟨old, hold, rfl⟩ := Option.map_eq_some_iff.mp hcache
    rw [IdCache.generation_file (hs k old hk hold)]
    exact UInt64.le_refl _

/-- A resolve that succeeds leaves a cache of the generation it has read, and one that fails leaves
the resolver as it was. -/
theorem Turnout.ok_or_error {s : Session κ (κ → Directory)} {k : κ} {name : String}
    {result : Except ConversionError ServiceId} {r : Resolver κ} (h : Turnout s k name result r)
    (hk : s.resolver.callback? = some k) (hs : Behind s) :
    ((∃ id, result = .ok id) ∧
        ∀ cache, r.cache? = some cache → cache.generation = (s.host k).generation) ∨
      ((∃ e, result = .error e) ∧ r = s.resolver) := by
  cases h with
  | @served id cache hcache hgeneration =>
    refine .inl ⟨⟨id, rfl⟩, fun cache' hcache' => ?_⟩
    obtain rfl := Option.some.inj (hcache.symm.trans hcache')
    exact hgeneration
  | @filed id hid =>
    refine .inl ⟨⟨id, rfl⟩, fun cache hcache => ?_⟩
    obtain ⟨old, hold, rfl⟩ := Option.map_eq_some_iff.mp hcache
    exact IdCache.generation_file (hs k old hk hold)
  | failed => exact .inr ⟨⟨_, rfl⟩, rfl⟩

variable [DecidableEq κ]

/-- The generation of the directory counts all its changes, those before the run and those in it,
without starting again at zero. -/
def NeverWraps (moves : List (Move κ (Edit κ))) (host : κ → Directory) (k : κ) : Prop :=
  (host k).generation.toNat + changes k moves host < 2 ^ 64

/-- An edit moves the generation on by one if it alters the directory, also as a number. -/
theorem NeverWraps.toNat_generation {e : Edit κ} {moves : List (Move κ (Edit κ))}
    {host : κ → Directory} {k : κ} (h : NeverWraps (.change e :: moves) host k) :
    (e.apply host k).generation.toNat =
      (host k).generation.toNat + if e.alters k host then 1 else 0 := by
  have hfew : (host k).generation.toNat + ((if e.alters k host then 1 else 0) +
      changes k moves (e.apply host)) < 2 ^ 64 := h
  rw [Edit.generation_apply]
  cases halters : e.alters k host with
  | false => simp
  | true =>
    simp only [halters, if_true] at hfew ⊢
    rw [UInt64.toNat_add, UInt64.toNat_one, Nat.mod_eq_of_lt (by omega)]

/-- What never wraps in a run does not wrap in the rest of it. -/
theorem NeverWraps.rest {e : Edit κ} {moves : List (Move κ (Edit κ))} {host : κ → Directory}
    {k : κ} (h : NeverWraps (.change e :: moves) host k) : NeverWraps moves (e.apply host) k := by
  have hfew : (host k).generation.toNat + ((if e.alters k host then 1 else 0) +
      changes k moves (e.apply host)) < 2 ^ 64 := h
  rw [NeverWraps, h.toNat_generation]
  omega

/-- Resolving a name keeps the cache behind and the callback as it is. -/
theorem behind_resolve (depth : Nat)
    {s : Scene (Session κ (κ → Directory)) (Deed κ (κ → Directory))} (hs : Behind s.state)
    (name : String) :
    let t := ((directories κ).resolve (depth + 1) name s).2.state
    Behind t ∧ t.resolver.callback? = s.state.resolver.callback? ∧ t.host = s.state.host := by
  intro t
  rcases hk : s.state.resolver.callback? with _ | k
  · have ht : t = s.state := by
      show (Session.resolve _ _ name s).2.state = _
      rw [resolve_of_none hk, state_record]
      rfl
    rw [ht]
    exact ⟨hs, hk, rfl⟩
  · obtain ⟨result, u, hu, hhost, hturnout⟩ := directories_resolve_cases depth hk name
    have ht : t = u.state := by
      show ((directories κ).resolve (depth + 1) name s).2.state = _
      rw [hu]
    rw [ht]
    exact ⟨(hturnout.behind hhost hk hs).1, (hturnout.behind hhost hk hs).2, hhost⟩

/-- **The cache stays behind the registered directory** through a run in which no directory
wraps. -/
theorem behind_after {depth : Nat} {moves : List (Move κ (Edit κ))}
    {s : Scene (Session κ (κ → Directory)) (Deed κ (κ → Directory))} (hs : Behind s.state)
    (hfew : ∀ k, s.state.resolver.callback? = some k ∨ k ∈ registered moves →
      NeverWraps moves s.state.host k) :
    Behind ((directories κ).after (depth + 1) moves s).state := by
  induction moves generalizing s with
  | nil => exact hs
  | cons move moves ih =>
    have hasked : ∀ name, move.name? = some name →
        Behind ((directories κ).after (depth + 1) (move :: moves) s).state := by
      intro name hname
      obtain ⟨hbehind, hcallback, hhost⟩ := behind_resolve depth hs name
      rw [← scene_perform_of_name? (directories κ) (depth + 1) hname s] at hbehind hcallback hhost
      refine ih hbehind fun k hk => ?_
      rw [hcallback] at hk
      rw [hhost]
      cases move with
      | resolve | lookup => exact hfew k hk
      | _ => cases hname
    cases move with
    | change e =>
      refine ih (s := ⟨{ s.state with host := e.apply s.state.host },
        s.journal.push (.changed (e.apply s.state.host))⟩) ?_ fun k hk => (hfew k hk).rest
      intro k cache hk hcache
      refine UInt64.le_trans (hs k cache hk hcache) (UInt64.le_iff_toNat_le.mpr ?_)
      show (s.state.host k).generation.toNat ≤ (e.apply s.state.host k).generation.toNat
      rw [(hfew k (.inl hk)).toNat_generation]
      exact Nat.le_add_right _ _
    | resolve name | lookup name => exact hasked name rfl
    | invalidate name =>
      refine ih (s := ⟨{ s.state with resolver := s.state.resolver.forget name },
        s.journal.push (.invalidated name)⟩) ?_ hfew
      intro k cache hk hcache
      obtain ⟨old, hold, rfl⟩ := Option.map_eq_some_iff.mp hcache
      exact hs k old hk hold
    | clear =>
      refine ih (s := ⟨{ s.state with resolver := s.state.resolver.clear },
        s.journal.push .cleared⟩) ?_ hfew
      intro k cache hk hcache
      obtain ⟨old, hold, rfl⟩ := Option.map_eq_some_iff.mp hcache
      exact hs k old hk hold
    | register k' =>
      refine ih (s := ⟨{ s.state with resolver := s.state.resolver.register k' },
        s.journal.push (.registered k')⟩) ?_ fun k hk => hfew k (.inr ?_)
      · intro k cache hk hcache
        obtain ⟨old, hold, rfl⟩ := Option.map_eq_some_iff.mp hcache
        exact UInt64.zero_le
      · rcases hk with hk | hk
        · obtain rfl : k' = k := Option.some.inj hk
          exact List.mem_cons_self
        · exact List.mem_cons_of_mem k' hk

/-! ## What resolves leave -/

section

variable {depth : Nat} {moves : List (Move κ (Edit κ))} {host : κ → Directory} {k : κ}
  {s t : Scene (Session κ (κ → Directory)) (Deed κ (κ → Directory))}

/-- An id kept by a cache of the generation that a resolve has read is the one the directory has for
the name. -/
theorem get?_of_kept? (hfew : ∀ k ∈ registered moves, changes k moves host < 2 ^ 64)
    (hs : s = (directories κ).after (depth + 1) moves (Session.start true host))
    (hk : s.state.resolver.callback? = some k) {name : String}
    {result : Except ConversionError ServiceId}
    (ht : (directories κ).resolve (depth + 1) name s = (.ok result, t)) {cache : IdCache}
    (hcache : t.state.resolver.cache? = some cache)
    (hgeneration : cache.generation = (s.state.host k).generation) {other : String} {id : ServiceId}
    (hid : t.state.resolver.kept? other = some id) : (s.state.host k).get? other = some id := by
  obtain ⟨⟨callback?, host'⟩, hsound, hready⟩ := directories_sound hfew depth true name
  rw [← hs] at hsound
  obtain rfl : callback? = some k := hsound.callback.symm.trans hk
  obtain rfl : s.state.host = host' := hsound.mapping_host
  obtain ⟨t', ht', hsound'⟩ :=
    hsound.resolve_eq directories_determined hready List.mem_cons_self
  obtain ⟨-, rfl⟩ := Prod.mk.inj (ht.symm.trans ht')
  have hhost : t.state.host = s.state.host := hsound'.mapping_host
  have hcached : t.state.resolver.cached? other
      ((directories κ).generation k t.state.host) = some id := by
    have hlookup : cache.lookup? other (t.state.host k).generation = some id := by
      rw [hhost, ← hgeneration, IdCache.lookup?_self]
      simpa [Resolver.kept?, hcache] using hid
    show t.state.resolver.cached? other (some (t.state.host k).generation) = some id
    simpa [Resolver.cached?, hcache] using hlookup
  exact Directory.tell_eq_iff.mp (hsound'.eq_of_cached? directories_determined.generation
    (hready.steady k (.inl rfl)) (hready.mem _ (Surroundings.mem_moments_start _ _ _)) hcached)

/-- **Which resolves leave nothing superseded.** In a run with directories whose generations count
all their changes, every resolve returns. Afterwards every id kept was told under the generation it
has read exactly if it succeeded, or nothing was kept before, or the cache belonged to that
generation already. Then only ids that the directory still has are counted and can be forgotten. A
resolve that fails leaves the resolver as it was. -/
theorem resolve_leaves_current_iff (moves : List (Move κ (Edit κ))) (host : κ → Directory)
    (depth : Nat) (hfew : ∀ k ∈ registered moves, NeverWraps moves host k)
    (s : Scene (Session κ (κ → Directory)) (Deed κ (κ → Directory)))
    (hs : s = (directories κ).after (depth + 1) moves (Session.start true host)) (k : κ)
    (hk : s.state.resolver.callback? = some k) (name : String) :
    ∃ result t cache, (directories κ).resolve (depth + 1) name s = (.ok result, t) ∧
      s.state.resolver.cache? = some cache ∧
      (Current (directories κ).toCallbacks (Session.start true host) k
          (s.state.host k).generation t ↔
        (∃ id, result = .ok id) ∨ s.state.resolver.cachedCount = 0 ∨
          cache.generation = (s.state.host k).generation) ∧
      (Current (directories κ).toCallbacks (Session.start true host) k
          (s.state.host k).generation t →
        ∀ other id, (Session.invalidate other t).1 = .ok (some id) →
          (s.state.host k).get? other = some id) ∧
      ∀ e, result = .error e → t.state.resolver = s.state.resolver := by
  have hbehind : Behind s.state := by
    rw [hs]
    refine behind_after ?_ fun k hk => ?_
    · intro k cache hk
      cases hk
    · rcases hk with hk | hk
      · cases hk
      · exact hfew k hk
  have hchanges : ∀ k ∈ registered moves, changes k moves host < 2 ^ 64 := fun k hk =>
    Nat.lt_of_le_of_lt (Nat.le_add_left _ _) (hfew k hk)
  obtain ⟨result, t, ht, hhost, hturnout⟩ := directories_resolve_cases depth hk name
  obtain ⟨hbehind', hk'⟩ := hturnout.behind hhost hk hbehind
  -- the scene after the resolve is that of a run with one more move
  have hvisits : (directories κ).Visits (depth + 1) (moves ++ [.resolve name])
      (Session.start true host) t := by
    have hafter : (directories κ).after (depth + 1) (moves ++ [.resolve name])
        (Session.start true host) = t := by
      rw [Surroundings.after, List.foldl_append, List.foldl_cons, List.foldl_nil]
      rw [Surroundings.after] at hs
      rw [← hs, Surroundings.perform_resolve _ _ _ ht]
    rw [← hafter]
    exact Surroundings.visits_after _ _ _ _
  obtain ⟨cache, hcache, -⟩ := (hs ▸ Surroundings.visits_after _ _ _ _ :
    (directories κ).Visits (depth + 1) moves (Session.start true host) s).exists_cache
  obtain ⟨cache', hcache', -⟩ := hvisits.exists_cache
  have hle : cache'.generation ≤ (s.state.host k).generation :=
    hhost ▸ hbehind' k cache' hk' hcache'
  have hcurrent := hvisits.current_iff hk' hcache' hle
  have hforget : ∀ other, (Session.invalidate other t).1 = .ok (t.state.resolver.kept? other) :=
    fun _ => rfl
  refine ⟨result, t, cache, ht, hcache, hcurrent.trans ?_, fun h other id hid => ?_, ?_⟩
  · rcases hturnout.ok_or_error hk hbehind with ⟨hok, hgeneration⟩ | ⟨⟨e, rfl⟩, heq⟩
    · exact iff_of_true (.inr (hgeneration cache' hcache')) (.inl hok)
    · rw [heq] at hcache' ⊢
      obtain rfl := Option.some.inj (hcache.symm.trans hcache')
      refine (or_iff_right ?_).symm
      rintro ⟨id, hid⟩
      cases hid
  · rw [hforget, Ending.ok.injEq] at hid
    refine get?_of_kept? hchanges hs hk ht hcache'
      ((hcurrent.mp h).resolve_left fun hzero => ?_) hid
    rw [Resolver.cachedCount_eq_zero_iff.mp hzero other] at hid
    cases hid
  · rintro e rfl
    rcases hturnout.ok_or_error hk hbehind with ⟨⟨id, hid⟩, -⟩ | ⟨-, heq⟩
    · cases hid
    · exact heq

end

/-- A directory of two services. -/
def paired : Unit → Directory := fun _ => .ofList [("A", 1), ("B", 2)]

/-- Both services are asked for, and then one of them is removed. -/
def removal : List (Move Unit (Edit Unit)) :=
  [.register (), .resolve "A", .resolve "B", .change (.remove () "A")]

/-- After the removal the other service resolves, and that leaves it alone in the cache. -/
theorem resolve_leaves_current_removal :
    (∀ k ∈ registered removal, NeverWraps removal paired k) ∧
      ∃ t, (directories Unit).resolve 1 "B"
          ((directories Unit).after 1 removal (Session.start true paired)) = (.ok (.ok 2), t) ∧
        Current (directories Unit).toCallbacks (Session.start true paired) () 1 t ∧
        ∀ id, (Session.invalidate "A" t).1 ≠ .ok (some id) := by
  have hfew : ∀ k ∈ registered removal, NeverWraps removal paired k := by
    intro k _
    show (paired k).generation.toNat + changes k removal paired < 2 ^ 64
    cases k
    decide
  obtain ⟨s, hs⟩ : ∃ s, s = (directories Unit).after 1 removal (Session.start true paired) :=
    ⟨_, rfl⟩
  have hk : s.state.resolver.callback? = some () := by rw [hs]; rfl
  have hgeneration : (s.state.host ()).generation = 1 := by rw [hs]; decide +kernel
  have hgone : (s.state.host ()).get? "A" = none := by rw [hs]; decide +kernel
  have hresult : ((directories Unit).resolve 1 "B" s).1 = .ok (.ok 2) := by
    rw [hs]
    decide +kernel
  obtain ⟨result, t, cache, ht, -, hcurrent, htrue, -⟩ :=
    resolve_leaves_current_iff removal paired 0 hfew s hs () hk "B"
  rw [ht] at hresult
  obtain rfl := Ending.ok.inj hresult
  have hleft := hcurrent.mpr (.inl ⟨2, rfl⟩)
  refine ⟨hfew, t, hs ▸ ht, hgeneration ▸ hleft, fun id hid => ?_⟩
  exact Option.some_ne_none _ ((htrue hleft "A" id hid).symm.trans hgone)

/-- **A superseded id stays.** After the removal the service that is gone does not resolve any more,
but its id is still counted, and it is still there to be forgotten. -/
theorem superseded_id_stays :
    ∃ t, (directories Unit).resolve 1 "A"
        ((directories Unit).after 1 removal (Session.start true paired)) =
          (.ok (.error (.serviceNotFound "A" .callbackFailure)), t) ∧
      ¬Current (directories Unit).toCallbacks (Session.start true paired) ()
        (t.state.host ()).generation t ∧
      t.state.resolver.cachedCount = 2 ∧
      (Session.invalidate "A" t).1 = .ok (some 1) ∧
      (t.state.host ()).get? "A" = none := by
  obtain ⟨s, hs⟩ : ∃ s, s = (directories Unit).after 1 removal (Session.start true paired) :=
    ⟨_, rfl⟩
  obtain ⟨t, ht⟩ : ∃ t, t = ((directories Unit).resolve 1 "A" s).2 := ⟨_, rfl⟩
  have hresult : ((directories Unit).resolve 1 "A" s).1 =
      .ok (.error (.serviceNotFound "A" .callbackFailure)) := by
    rw [hs]
    decide +kernel
  have hcount : t.state.resolver.cachedCount = 2 := by rw [ht, hs]; decide +kernel
  have hold : t.state.resolver.cache?.map IdCache.generation = some 0 := by
    rw [ht, hs]
    decide +kernel
  have hnew : (t.state.host ()).generation = 1 := by rw [ht, hs]; decide +kernel
  have hvisits : (directories Unit).Visits 1 (removal ++ [.resolve "A"])
      (Session.start true paired) t := by
    rw [ht, hs]
    exact Surroundings.visits_after _ _ (removal ++ [.resolve "A"]) _
  obtain ⟨cache, hcache, hzero⟩ := Option.map_eq_some_iff.mp hold
  have hcurrent := hvisits.current_iff (k := ()) (by rw [ht, hs]; rfl) hcache (g := 1)
    (by rw [hzero]; decide)
  refine ⟨t, ?_, fun h => ?_, hcount, by rw [ht, hs]; decide +kernel,
    by rw [ht, hs]; decide +kernel⟩
  · rw [← hs, ht, ← hresult]
  · rw [hnew, hcurrent, hcount, hzero] at h
    exact absurd h (by decide)

end Resolution

end ConverterKit
