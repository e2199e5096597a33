import ConverterKit.Proofs.Resolution.Directories
import Mathlib.Order.Filter.AtTopBot.Basic
import Mathlib.Order.Filter.Finite

/-!
# The cache is transparent

The cache of a resolver saves questions and is otherwise invisible: with or without it, every
resolve and every lookup of a run is answered alike. What both of them answer is what an *oracle*
resolver answers, which has no cache, no journal and no limit of nesting, and looks the truth up.

## Main definitions

* `Oracle`, `Oracle.next`, `Oracle.reply?`: the oracle

## Main results

* `Sound.perform`: a move is answered like the oracle answers it, and keeps soundness
* `Sound.answers_eq`, `Sound.after`: the same for runs
* `cache_transparent`: a run is answered alike with and without a cache; directories are among the
  callbacks for which this is so, and their names resolve to what they are mapped to at that moment
-/

namespace ConverterKit

namespace Resolution

variable {κ H χ M : Type}

/-! ## The oracle -/

/-- A resolver that looks the truth up: all it needs is the registered callback and the host. -/
structure Oracle (κ H : Type) where
  /-- The callback, if one is registered. -/
  callback? : Option κ
  /-- The host. -/
  host : H

namespace Oracle

/-- The true result for a name. -/
def result (mapping : H → M) (truth : κ → M → String → Answer) (i : Oracle κ H) (name : String) :
    Except ConversionError ServiceId :=
  match i.callback? with
  | some k => verdict name (truth k (mapping i.host) name)
  | none => .error (.serviceNotFound name .noCallback)

/-- The oracle after a move. -/
def next (w : Surroundings κ H χ) (i : Oracle κ H) : Move κ χ → Oracle κ H
  | .change c => { i with host := w.change c i.host }
  | .register k => { i with callback? := some k }
  | _ => i

/-- The reply to a move that asks the id of a name. -/
def reply? (mapping : H → M) (truth : κ → M → String → Answer) (i : Oracle κ H) :
    Move κ χ → Option Reply
  | .resolve name => some (.resolved (i.result mapping truth name))
  | .lookup name => some (.ofLookup (i.result mapping truth name))
  | _ => none

/-- The replies to the moves of a run that ask the id of a name. -/
def replies (w : Surroundings κ H χ) (mapping : H → M) (truth : κ → M → String → Answer) :
    List (Move κ χ) → Oracle κ H → List Reply
  | [], _ => []
  | move :: moves, i =>
    (i.reply? mapping truth move).toList ++ replies w mapping truth moves (i.next w move)

end Oracle

/-! ## Sound resolvers and the oracle -/

section

variable {w : Surroundings κ H χ} {mapping : H → M} {truth : κ → M → String → Answer}
  {hosts : List H} {i : Oracle κ H} {depth : Nat} {s : Scene (Session κ H) (Deed κ H)}

/-- A session that is sound for the callback and the host of an oracle. -/
abbrev SoundFor (w : Surroundings κ H χ) (mapping : H → M) (truth : κ → M → String → Answer)
    (hosts : List H) (i : Oracle κ H) (s : Session κ H) : Prop :=
  Sound w.toCallbacks mapping truth hosts i.callback? (mapping i.host) s

/-- The callbacks that are registered in a run. -/
def registered (moves : List (Move κ χ)) : List κ := moves.filterMap Move.callback?

/-- The names that are asked for in a run. -/
def asked (moves : List (Move κ χ)) : List String := moves.filterMap Move.name?

/-- Throughout a run that starts like this, callbacks are steady over the given moments, and tell
about all names asked for within the given depth. -/
structure Ready (w : Surroundings κ H χ) (mapping : H → M) (truth : κ → M → String → Answer)
    (hosts : List H) (depth : Nat) (moves : List (Move κ χ)) (i : Oracle κ H) : Prop where
  /-- The moments of the run are among the given ones. -/
  mem : ∀ h ∈ w.moments moves i.host, h ∈ hosts
  /-- Callbacks are steady. -/
  steady : ∀ k, i.callback? = some k ∨ k ∈ registered moves → w.Steady mapping truth hosts k
  /-- Asking a callback ends. -/
  tells : ∀ k, i.callback? = some k ∨ k ∈ registered moves → ∀ h ∈ hosts, ∀ name ∈ asked moves,
    ∃ n ≤ depth, w.Tells mapping (mapping h) k n k name (.ok (truth k (mapping h) name))

/-- A run that is ready is ready after its first move. -/
theorem Ready.next {move : Move κ χ} {moves : List (Move κ χ)}
    (h : Ready w mapping truth hosts depth (move :: moves) i) :
    Ready w mapping truth hosts depth moves (i.next w move) := by
  have hcallback : ∀ k, (i.next w move).callback? = some k ∨ k ∈ registered moves →
      i.callback? = some k ∨ k ∈ registered (move :: moves) := by
    rintro k (hk | hk)
    · cases move with
      | register k' =>
        obtain rfl : k' = k := Option.some.inj hk
        exact .inr List.mem_cons_self
      | _ => exact .inl hk
    · obtain ⟨m, hm, heq⟩ := List.mem_filterMap.mp hk
      exact .inr (List.mem_filterMap.mpr ⟨m, List.mem_cons_of_mem _ hm, heq⟩)
  have hasked : ∀ name ∈ asked moves, name ∈ asked (move :: moves) := by
    intro name hname
    obtain ⟨m, hm, heq⟩ := List.mem_filterMap.mp hname
    exact List.mem_filterMap.mpr ⟨m, List.mem_cons_of_mem _ hm, heq⟩
  refine ⟨fun host hhost => h.mem host ?_, fun k hk => h.steady k (hcallback k hk),
    fun k hk host hhost name hname =>
      h.tells k (hcallback k hk) host hhost name (hasked name hname)⟩
  cases move with
  | change c => exact List.mem_cons_of_mem _ hhost
  | _ => exact hhost

/-! ## One move -/

/-- A sound resolver resolves a name to the true result. -/
theorem Sound.resolve_eq (hw : w.Determined mapping truth) {moves : List (Move κ χ)}
    (hready : Ready w mapping truth hosts depth moves i) {name : String}
    (hname : name ∈ asked moves)
    (h : SoundFor w mapping truth hosts i s.state) :
    ∃ t, w.resolve depth name s = (.ok (i.result mapping truth name), t) ∧
      SoundFor w mapping truth hosts i t.state := by
  have hhost : i.host ∈ hosts := hready.mem _ (w.mem_moments_start _ _)
  obtain ⟨_ | k, host⟩ := i
  · exact Sound.resolve_of_none h depth name
  · obtain ⟨n, hn, ha⟩ := hready.tells k (.inl rfl) host hhost name hname
    exact Sound.resolve hw.toDetermined (hready.steady k (.inl rfl)) hhost hn ha h

/-- **A move is answered like the oracle answers it**, and a sound session stays sound. -/
theorem Sound.perform (hw : w.Determined mapping truth) {move : Move κ χ} {moves : List (Move κ χ)}
    (hready : Ready w mapping truth hosts depth (move :: moves) i)
    (h : SoundFor w mapping truth hosts i s.state) :
    ∃ r t, w.perform depth move s = (.ok r, t) ∧
      (i.reply? mapping truth move = if move.name?.isSome then some r else none) ∧
      SoundFor w mapping truth hosts (i.next w move) t.state := by
  cases move with
  | change c =>
    have hmapping : mapping (w.change c s.state.host) = mapping (w.change c i.host) :=
      hw.change c _ _ h.mapping_host
    refine ⟨_, _, w.perform_change depth s c, rfl, ?_⟩
    have hsound := Sound.setHost h (w.change c s.state.host)
    rwa [hmapping] at hsound
  | resolve name =>
    obtain ⟨t, ht, hsound⟩ := h.resolve_eq hw hready List.mem_cons_self
    exact ⟨_, t, w.perform_resolve depth s ht, rfl, hsound⟩
  | lookup name =>
    obtain ⟨t, ht, hsound⟩ := h.resolve_eq hw hready List.mem_cons_self
    exact ⟨_, t, w.perform_lookup depth s ht, rfl, hsound⟩
  | invalidate name =>
    exact ⟨_, _, w.perform_invalidate depth s name, rfl, Sound.forget h name⟩
  | clear => exact ⟨_, _, w.perform_clear depth s, rfl, Sound.clear h⟩
  | register k => exact ⟨_, _, w.perform_register depth s k, rfl, Sound.register h k⟩

/-! ## Runs -/

/-- **A sound resolver answers like the oracle** throughout a run, with a cache or without. -/
theorem Sound.answers_eq (hw : w.Determined mapping truth) {moves : List (Move κ χ)}
    (hready : Ready w mapping truth hosts depth moves i)
    (h : SoundFor w mapping truth hosts i s.state) :
    w.answers depth moves s = (i.replies w mapping truth moves).map .ok := by
  induction moves generalizing i s with
  | nil => rfl
  | cons move moves ih =>
    obtain ⟨r, t, ht, hr, hsound⟩ := h.perform hw hready
    simp only [Surroundings.answers, ht, Oracle.replies, hr, ih hready.next hsound]
    split <;> rfl

/-- A run leaves a sound session sound, for the oracle at that moment. -/
theorem Sound.after (hw : w.Determined mapping truth) {moves : List (Move κ χ)}
    (hready : Ready w mapping truth hosts depth moves i)
    (h : SoundFor w mapping truth hosts i s.state) :
    ∃ j, Ready w mapping truth hosts depth ([] : List (Move κ χ)) j ∧
      SoundFor w mapping truth hosts j (w.after depth moves s).state := by
  induction moves generalizing i s with
  | nil => exact ⟨i, hready, h⟩
  | cons move moves ih =>
    obtain ⟨r, t, ht, -, hsound⟩ := h.perform hw hready
    have hafter : w.after depth (move :: moves) s = w.after depth moves t := by
      simp only [Surroundings.after, List.foldl_cons, ht]
    rw [hafter]
    exact ih hready.next hsound

/-- For the callbacks, hosts and names of a run there is a depth within which everything asked is
told. -/
theorem exists_depth (hw : w.Determined mapping truth) (ks : List κ) (hosts : List H)
    (names : List String) :
    ∃ bound, ∀ depth, bound ≤ depth → ∀ k ∈ ks, ∀ h ∈ hosts, ∀ name ∈ names,
      ∃ n ≤ depth, w.Tells mapping (mapping h) k n k name (.ok (truth k (mapping h) name)) := by
  refine Filter.eventually_atTop.mp ?_
  refine (Filter.eventually_all_finite ks.finite_toSet).mpr fun k _ => ?_
  refine (Filter.eventually_all_finite hosts.finite_toSet).mpr fun h _ => ?_
  refine (Filter.eventually_all_finite names.finite_toSet).mpr fun name _ => ?_
  obtain ⟨n, hn⟩ := hw.tells k h name
  exact (Filter.eventually_ge_atTop n).mono fun depth hdepth => ⟨n, hdepth, hn⟩

/-- A run from a new resolver is ready at some depth, if callbacks are steady over its moments. -/
theorem exists_ready (hw : w.Determined mapping truth) {moves : List (Move κ χ)} {host : H}
    (hsteady : ∀ k ∈ registered moves, w.Steady mapping truth (w.moments moves host) k) :
    ∃ bound, ∀ depth, bound ≤ depth →
      Ready w mapping truth (w.moments moves host) depth moves ⟨none, host⟩ := by
  obtain ⟨bound, hbound⟩ := exists_depth hw (registered moves) (w.moments moves host) (asked moves)
  refine ⟨bound, fun depth hdepth => ⟨fun _ hh => hh, ?_, ?_⟩⟩
  · rintro k (hk | hk)
    · exact absurd hk (by simp)
    · exact hsteady k hk
  · rintro k (hk | hk)
    · exact absurd hk (by simp)
    · exact hbound depth hdepth k hk

end

/-! ## Transparency -/

/-- Directories tell about any name within one call. -/
theorem directories_ready [DecidableEq κ] {moves : List (Move κ (Edit κ))} {host : κ → Directory}
    (h : ∀ k ∈ registered moves, changes k moves host < 2 ^ 64) (depth : Nat) :
    Ready (directories κ) id (fun k host => (host k).tell) ((directories κ).moments moves host)
      (depth + 1) moves ⟨none, host⟩ := by
  refine ⟨fun _ hh => hh, ?_, fun k _ host _ name _ =>
    ⟨1, by omega, directories_tells host k k name⟩⟩
  rintro k (hk | hk)
  · exact absurd hk (by simp)
  · exact directories_steady (h k hk)

/-- After any run of directories the resolver is sound, and another name can be asked for. -/
theorem directories_sound [DecidableEq κ] {moves : List (Move κ (Edit κ))}
    {host : κ → Directory} (h : ∀ k ∈ registered moves, changes k moves host < 2 ^ 64)
    (depth : Nat) (caching : Bool) (name : String) :
    ∃ i, SoundFor (directories κ) id (fun k host => (host k).tell)
        ((directories κ).moments moves host) i
        ((directories κ).after (depth + 1) moves (Session.start caching host)).state ∧
      Ready (directories κ) id (fun k host => (host k).tell) ((directories κ).moments moves host)
        (depth + 1) [Move.resolve name] i := by
  obtain ⟨i, hready, hsound⟩ := Sound.after directories_determined (directories_ready h depth)
    (Sound.start caching host)
  exact ⟨i, hsound, hready.mem, hready.steady, fun k _ host _ name _ =>
    ⟨1, by omega, directories_tells host k k name⟩⟩

/-- After any run a name resolves to what the registered directory tells at that moment. -/
theorem directories_resolve_eq [DecidableEq κ] {moves : List (Move κ (Edit κ))}
    {host : κ → Directory} (h : ∀ k ∈ registered moves, changes k moves host < 2 ^ 64)
    (depth : Nat) (caching : Bool) {s : Scene (Session κ (κ → Directory)) (Deed κ (κ → Directory))}
    (hs : s = (directories κ).after (depth + 1) moves (Session.start caching host)) {k : κ}
    (hk : s.state.resolver.callback? = some k) (name : String) :
    ∃ t, (directories κ).resolve (depth + 1) name s =
      (.ok (verdict name ((s.state.host k).tell name)), t) := by
  obtain ⟨i, hsound, hready⟩ := directories_sound h depth caching name
  rw [← hs] at hsound
  have hi : i.callback? = some k := hsound.callback.symm.trans hk
  have hhost : s.state.host = i.host := hsound.mapping_host
  obtain ⟨t, ht, -⟩ := hsound.resolve_eq directories_determined hready List.mem_cons_self
  refine ⟨t, ht.trans ?_⟩
  simp only [Oracle.result, hi, hhost, id]

/-- After any run a name resolves to an id exactly if the registered directory maps it to that id at
that moment. -/
theorem directories_resolve_iff [DecidableEq κ] {moves : List (Move κ (Edit κ))}
    {host : κ → Directory} (h : ∀ k ∈ registered moves, changes k moves host < 2 ^ 64)
    (depth : Nat) (caching : Bool) {s : Scene (Session κ (κ → Directory)) (Deed κ (κ → Directory))}
    (hs : s = (directories κ).after (depth + 1) moves (Session.start caching host)) {k : κ}
    (hk : s.state.resolver.callback? = some k) (name : String) (serviceId : ServiceId) :
    ((directories κ).resolve (depth + 1) name s).1 = .ok (.ok serviceId) ↔
      (s.state.host k).get? name = some serviceId := by
  obtain ⟨t, ht⟩ := directories_resolve_eq h depth caching hs hk name
  rw [ht, ← Directory.tell_eq_iff, ← verdict_eq_ok_iff name, Ending.ok.injEq]

/-- After any run a lookup finds an id exactly if the registered directory maps the name to that id
at that moment, and fails exactly if the name is not mapped. -/
theorem directories_lookup_iff [DecidableEq κ] {moves : List (Move κ (Edit κ))}
    {host : κ → Directory} (h : ∀ k ∈ registered moves, changes k moves host < 2 ^ 64)
    (depth : Nat) (caching : Bool) {s : Scene (Session κ (κ → Directory)) (Deed κ (κ → Directory))}
    (hs : s = (directories κ).after (depth + 1) moves (Session.start caching host)) {k : κ}
    (hk : s.state.resolver.callback? = some k) (name : String) :
    (∀ serviceId, ((directories κ).lookup (depth + 1) name s).1 = .ok (.success, some serviceId) ↔
        (s.state.host k).get? name = some serviceId) ∧
      (((directories κ).lookup (depth + 1) name s).1 = .ok (.failure, none) ↔
        (s.state.host k).get? name = none) := by
  obtain ⟨t, ht⟩ := directories_resolve_eq h depth caching hs hk name
  have hlookup : (directories κ).lookup (depth + 1) name s =
      (.ok ((s.state.host k).tell name), t) := by
    rw [Callbacks.lookup, Act.bind_of_ok ht]
    rcases hget : (s.state.host k).get? name with _ | serviceId <;>
      simp only [Directory.tell, hget] <;> rfl
  rw [hlookup]
  rcases hget : (s.state.host k).get? name with _ | serviceId <;> simp [Directory.tell, hget]

/-- **The cache is transparent.** Callbacks whose generation and answers are determined by the
mapping of the host, and which tell the same whenever they report the same generation, answer every
resolve and every lookup of a run alike with and without a cache, and always do answer. Directories
altered less than `2 ^ 64` times are such callbacks, and with them a resolve or a lookup answers
with an id exactly if the name is mapped to that id at that moment, and a lookup fails exactly if it
is not mapped; so are callbacks without a generation. -/
theorem cache_transparent :
    (∀ {κ H χ M : Type} (w : Surroundings κ H χ) (mapping : H → M)
        (truth : κ → M → String → Answer) (moves : List (Move κ χ)) (host : H),
      w.Determined mapping truth →
      (∀ k ∈ registered moves, w.Steady mapping truth (w.moments moves host) k) →
      ∃ bound, ∀ depth, bound ≤ depth →
        w.answers depth moves (Session.start true host) =
            w.answers depth moves (Session.start false host) ∧
          ∀ e ∈ w.answers depth moves (Session.start true host), e.isOk = true) ∧
    (∀ {κ : Type} [DecidableEq κ] (moves : List (Move κ (Edit κ))) (host : κ → Directory),
      (∀ k ∈ registered moves, changes k moves host < 2 ^ 64) →
      (directories κ).Determined id (fun k host => (host k).tell) ∧
        (∀ k ∈ registered moves, (directories κ).Steady id (fun k host => (host k).tell)
          ((directories κ).moments moves host) k) ∧
        ∀ depth caching s,
          s = (directories κ).after (depth + 1) moves (Session.start caching host) →
          ∀ k, s.state.resolver.callback? = some k → ∀ name,
            (∀ serviceId, ((directories κ).resolve (depth + 1) name s).1 = .ok (.ok serviceId) ↔
              (s.state.host k).get? name = some serviceId) ∧
            (∀ serviceId,
              ((directories κ).lookup (depth + 1) name s).1 = .ok (.success, some serviceId) ↔
                (s.state.host k).get? name = some serviceId) ∧
            (((directories κ).lookup (depth + 1) name s).1 = .ok (.failure, none) ↔
              (s.state.host k).get? name = none)) ∧
    (∀ {κ M χ : Type} (reply : κ → M → Event → Outcome × Event) (change : χ → M → M),
      let w : Surroundings κ M χ := ⟨.over (fun _ _ => none) reply, change⟩
      let truth k m name := ((reply k m { name }).1, (reply k m { name }).2.id?)
      w.Determined id truth ∧ ∀ hosts k, w.Steady id truth hosts k) := by
  refine ⟨fun w mapping truth moves host hw hsteady => ?_, fun {κ} _ moves host h => ?_,
    fun reply change => ⟨⟨⟨fun _ _ _ _ => rfl, fun k h name => ?_⟩, fun c _ _ heq => ?_⟩, ?_⟩⟩
  · obtain ⟨bound, hbound⟩ := exists_ready hw hsteady
    refine ⟨bound, fun depth hdepth => ?_⟩
    have hanswers : ∀ caching, w.answers depth moves (Session.start caching host) =
        (Oracle.replies w mapping truth moves ⟨none, host⟩).map .ok := fun caching =>
      Sound.answers_eq hw (hbound depth hdepth) (Sound.start caching host)
    refine ⟨(hanswers true).trans (hanswers false).symm, fun e he => ?_⟩
    rw [hanswers true] at he
    obtain ⟨r, -, rfl⟩ := List.mem_map.mp he
    rfl
  · exact ⟨directories_determined, fun k hk => directories_steady (h k hk),
      fun depth caching s hs k hk name =>
        ⟨directories_resolve_iff h depth caching hs hk name,
          directories_lookup_iff h depth caching hs hk name⟩⟩
  · exact ⟨1, Callbacks.tells_over _ reply h k k name⟩
  · exact congrArg (change c) heq
  · intro hosts k h _ h' _ g hg
    exact absurd hg (by simp [Callbacks.over])

/-- A service is renumbered and removed between the questions for it. -/
def renumbering : List (Move Unit (Edit Unit)) :=
  [.register (), .resolve "A", .resolve "A", .change (.insert () "A" 2), .lookup "A", .clear,
    .change (.remove () "A"), .resolve "A"]

/-- The directory before the service is renumbered. -/
def numbered : Unit → Directory := fun _ => .ofList [("A", 1)]

/-- The cache is transparent while a service is renumbered and removed, and after that the name does
not resolve to an id and a lookup fails. -/
theorem cache_transparent_renumbering :
    (∀ k ∈ registered renumbering, changes k renumbering numbered < 2 ^ 64) ∧
      (∃ bound, ∀ depth, bound ≤ depth →
        (directories Unit).answers depth renumbering (Session.start true numbered) =
            (directories Unit).answers depth renumbering (Session.start false numbered) ∧
          ∀ e ∈ (directories Unit).answers depth renumbering (Session.start true numbered),
            e.isOk = true) ∧
      (∀ serviceId, ((directories Unit).resolve 1 "A"
        ((directories Unit).after 1 renumbering (Session.start true numbered))).1 ≠
          .ok (.ok serviceId)) ∧
      ((directories Unit).lookup 1 "A"
        ((directories Unit).after 1 renumbering (Session.start true numbered))).1 =
          .ok (.failure, none) := by
  have hchanges : ∀ k ∈ registered renumbering, changes k renumbering numbered < 2 ^ 64 := by
    decide
  obtain ⟨hdetermined, hsteady, hanswers⟩ := cache_transparent.2.1 renumbering numbered hchanges
  obtain ⟨hresolve, -, hlookup⟩ := hanswers 0 true _ rfl () rfl "A"
  have hnone : (((directories Unit).after 1 renumbering
      (Session.start true numbered)).state.host ()).get? "A" = none := by decide
  refine ⟨hchanges, cache_transparent.1 _ id _ renumbering numbered hdetermined hsteady,
    fun serviceId h => ?_, hlookup.mpr hnone⟩
  exact Option.some_ne_none _ (((hresolve serviceId).mp h).symm.trans hnone)

end Resolution

end ConverterKit
