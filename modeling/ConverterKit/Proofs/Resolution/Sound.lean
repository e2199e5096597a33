import ConverterKit.Proofs.Resolution.Truth

/-!
# Resolvers that tell the truth

A callback is *determined* when its generation and what it tells are functions of the mapping of its
host, and *steady* over some moments when at those with the same generation it tells the same. A
resolver with such a callback is *sound* when each id it keeps was true at some moment with the
generation of the cache. Soundness survives everything that can be done with a resolver, including
what callbacks do with it while they are being asked, and a sound resolver tells the truth.

## Main definitions

* `Callbacks.Determined`, `Callbacks.Steady`: what is asked of callbacks
* `Sound`: what holds of the resolver

## Main results

* `Sound.file`: an id may be kept under the generation under which it is true
* `Sound.resolve`: resolving tells the truth and keeps the resolver sound
-/

namespace ConverterKit

namespace Resolution

variable {κ H χ M β : Type}

/-- An id in the cache after filing is the one filed, under its generation, or was there before,
under the same generation as now. -/
theorem IdCache.of_find?_file {c : IdCache} {name other : String} {id id' : ServiceId} {g : UInt64}
    (h : (c.file name id g).ids.find? other = some id') :
    (name = other ∧ id = id' ∧ (c.file name id g).generation = g) ∨
      (c.ids.find? other = some id' ∧ (c.file name id g).generation = c.generation) := by
  unfold IdCache.file at h ⊢
  split
  case isTrue hlt =>
    rw [if_pos hlt] at h
    exact .inr ⟨h, rfl⟩
  case isFalse hlt =>
    rw [if_neg hlt] at h
    split
    case isTrue hnew =>
      rw [if_pos hnew, NameMap.find?_insert] at h
      split at h
      · next heq => exact .inl ⟨heq, Option.some.inj h, rfl⟩
      · exact absurd h (by simp)
    case isFalse hnew =>
      have hg : c.generation = g :=
        UInt64.le_antisymm (UInt64.not_lt.mp hlt) (UInt64.not_lt.mp hnew)
      rw [if_neg hnew, NameMap.find?_insert] at h
      split at h
      · next heq => exact .inl ⟨heq, Option.some.inj h, hg⟩
      · exact .inr ⟨h, rfl⟩

/-! ## Resolvers that keep only what is vouched for -/

section Sound

variable (c : Callbacks κ H) (mapping : H → M) (truth : κ → M → String → Answer) (hosts : List H)

/-- The generation of each callback and what it tells are determined by the mapping of the host. -/
structure Callbacks.Determined : Prop where
  /-- Hosts with the same mapping have the same generation. -/
  generation : ∀ k h h', mapping h = mapping h' → c.generation k h = c.generation k h'
  /-- Each callback tells the truth, which is a function of the mapping. -/
  tells : ∀ k h name, ∃ n, c.Tells mapping (mapping h) k n k name (.ok (truth k (mapping h) name))

/-- Callbacks determined by a mapping, and changes whose effect on the mapping is determined by
it. -/
structure Surroundings.Determined (w : Surroundings κ H χ) : Prop
    extends Callbacks.Determined w.toCallbacks mapping truth where
  /-- Hosts with the same mapping have the same mapping after the same change. -/
  change : ∀ c h h', mapping h = mapping h' → mapping (w.change c h) = mapping (w.change c h')

/-- At all moments at which the callback reports the same generation it tells the same. -/
def Callbacks.Steady (k : κ) : Prop :=
  ∀ h ∈ hosts, ∀ h' ∈ hosts, ∀ g, c.generation k h = some g → c.generation k h' = some g →
    ∀ name, truth k (mapping h) name = truth k (mapping h') name

/-- At some moment the callback reported this generation and told this id. -/
def Callbacks.Vouches (k : κ) (g : UInt64) (name : String) (id : ServiceId) : Prop :=
  ∃ h ∈ hosts, c.generation k h = some g ∧ truth k (mapping h) name = (.success, some id)

/-- A session with this callback and this mapping in which every id kept is vouched for. -/
structure Sound (k? : Option κ) (m : M) (s : Session κ H) : Prop where
  /-- The callback that is registered. -/
  callback : s.resolver.callback? = k?
  /-- The mapping of the host. -/
  mapping_host : mapping s.host = m
  /-- The registered callback vouches for every id kept. -/
  kept : ∀ cache, s.resolver.cache? = some cache → ∀ name id, cache.ids.find? name = some id →
    ∃ k, k? = some k ∧ c.Vouches mapping truth hosts k cache.generation name id

variable {c mapping truth hosts} {k : κ} {k? : Option κ} {m : M} {s : Session κ H}

theorem Sound.start (cacheServiceIds : Bool) (host : H) :
    Sound c mapping truth hosts none (mapping host) (Session.start cacheServiceIds host).state := by
  refine ⟨rfl, rfl, fun cache hcache name id hid => ?_⟩
  cases cacheServiceIds with
  | false => simp [Session.start, Scene.fresh, Resolver.new] at hcache
  | true =>
    obtain rfl : ({} : IdCache) = cache := by
      simpa [Session.start, Scene.fresh, Resolver.new] using hcache
    simp at hid

theorem Sound.forget (h : Sound c mapping truth hosts k? m s) (name : String) :
    Sound c mapping truth hosts k? m { s with resolver := s.resolver.forget name } := by
  refine ⟨h.callback, h.mapping_host, fun cache hcache other id hid => ?_⟩
  obtain ⟨old, hold, rfl⟩ := Option.map_eq_some_iff.mp hcache
  refine h.kept old hold other id ?_
  rw [IdCache.forget, NameMap.find?_erase] at hid
  split at hid
  · exact absurd hid (by simp)
  · exact hid

theorem Sound.clear (h : Sound c mapping truth hosts k? m s) :
    Sound c mapping truth hosts k? m { s with resolver := s.resolver.clear } := by
  refine ⟨h.callback, h.mapping_host, fun cache hcache name id hid => ?_⟩
  obtain ⟨old, _, rfl⟩ := Option.map_eq_some_iff.mp hcache
  exact absurd hid (by simp [IdCache.clear])

theorem Sound.setHost (h : Sound c mapping truth hosts k? m s) (host : H) :
    Sound c mapping truth hosts k? (mapping host) { s with host } :=
  ⟨h.callback, rfl, h.kept⟩

theorem Sound.register (h : Sound c mapping truth hosts k? m s) (k : κ) :
    Sound c mapping truth hosts (some k) m { s with resolver := s.resolver.register k } := by
  refine ⟨rfl, h.mapping_host, fun cache hcache name id hid => ?_⟩
  obtain ⟨old, _, rfl⟩ := Option.map_eq_some_iff.mp hcache
  exact absurd hid (by simp)

/-- An id that is vouched for may be kept, whatever the cache makes of its generation. -/
theorem Sound.file (h : Sound c mapping truth hosts (some k) m s) {name : String} {id : ServiceId}
    {g : UInt64} (hv : c.Vouches mapping truth hosts k g name id) :
    Sound c mapping truth hosts (some k) m { s with resolver := s.resolver.file name id g } := by
  refine ⟨h.callback, h.mapping_host, fun cache hcache other id' hid => ?_⟩
  obtain ⟨old, hold, rfl⟩ := Option.map_eq_some_iff.mp hcache
  rcases IdCache.of_find?_file hid with ⟨rfl, rfl, hg⟩ | ⟨hid, hg⟩
  · exact ⟨k, rfl, by rw [hg]; exact hv⟩
  · rw [hg]
    exact h.kept old hold other id' hid

/-! ## Resolving -/

/-- What is in the cache is the truth as soon as its generation has been read. -/
theorem Sound.eq_of_cached? {host : H} (hgen : ∀ k h h', mapping h = mapping h' →
      c.generation k h = c.generation k h')
    (hsteady : c.Steady mapping truth hosts k) (hhost : host ∈ hosts)
    (h : Sound c mapping truth hosts (some k) (mapping host) s) {name : String} {id : ServiceId}
    (hid : s.resolver.cached? name (c.generation k s.host) = some id) :
    truth k (mapping host) name = (.success, some id) := by
  cases hcache : s.resolver.cache? with
  | none => simp [Resolver.cached?, hcache] at hid
  | some cache =>
    cases hg : c.generation k s.host with
    | none => simp [Resolver.cached?, hcache, hg] at hid
    | some g =>
      have hlookup : cache.lookup? name g = some id := by
        simpa [Resolver.cached?, hcache, hg] using hid
      by_cases heq : cache.generation = g
      · rw [← heq, IdCache.lookup?_self] at hlookup
        obtain ⟨k', hk', h', hh', hg', htrue⟩ := h.kept cache hcache name id hlookup
        obtain rfl := Option.some.inj hk'
        rw [← htrue]
        refine hsteady host hhost h' hh' g ?_ (heq ▸ hg') name
        rw [hgen k host s.host h.mapping_host.symm, hg]
      · rw [IdCache.lookup?_of_ne heq] at hlookup
        exact absurd hlookup (by simp)

/-- Filing an id is all that remembering does to a session. -/
theorem Session.remember_apply (name : String) (id : ServiceId) (g : UInt64)
    (s : Scene (Session κ H) (Deed κ H)) :
    ∃ J, Session.remember name id g s =
      (.ok (), ⟨{ s.state with resolver := s.state.resolver.file name id g }, J⟩) := by
  obtain ⟨⟨⟨callback?, cache?⟩, host⟩, journal⟩ := s
  cases cache? with
  | none => exact ⟨journal, rfl⟩
  | some cache =>
    by_cases hlt : cache.generation < g
    · exact ⟨journal.push (.reported (Report.directoryChanged g cache.size)), by
        simp [Session.remember, Act.bind_apply, hlt, Session.report, Session.onResolver]⟩
    · exact ⟨journal, by simp [Session.remember, Act.bind_apply, hlt, Session.onResolver]⟩

variable {host : H}

/-- A sound resolver makes the verdict of what it is told, and stays sound if that is the truth. -/
theorem Sound.conclude {s : Scene (Session κ H) (Deed κ H)} (hhost : host ∈ hosts)
    (h : Sound c mapping truth hosts (some k) (mapping host) s.state) {name : String} {a : Answer}
    (ha : truth k (mapping host) name = a) :
    ∃ t, Session.conclude name (c.generation k host) a.1 a.2 s = (.ok (verdict name a), t) ∧
      Sound c mapping truth hosts (some k) (mapping host) t.state := by
  match a, ha with
  | (.failure, _), _ => exact ⟨_, rfl, h⟩
  | (.success, none), _ => exact ⟨_, rfl, h⟩
  | (.success, some id), ha =>
    cases hg : c.generation k host with
    | none => exact ⟨_, rfl, h⟩
    | some g =>
      let s' : Scene (Session κ H) (Deed κ H) :=
        ⟨s.state, s.journal.push (.reported (Report.resolved name id))⟩
      obtain ⟨J, hJ⟩ := Session.remember_apply name id g s'
      refine ⟨⟨{ s.state with resolver := s.state.resolver.file name id g }, J⟩, ?_,
        h.file ⟨host, hhost, hg, ha⟩⟩
      exact Act.bind_of_ok (f := fun _ => pure (Except.ok id)) hJ

/-- **Resolving tells the truth.** Whether it is served from the cache or by the callback, a sound
resolver answers with the verdict of the truth, provided the callback, asked in a sound session,
tells the truth and leaves the session sound. -/
theorem Sound.resolve_of_invoke {s : Scene (Session κ H) (Deed κ H)} {invoke : Session.Invoke κ H}
    (hgen : ∀ k h h', mapping h = mapping h' → c.generation k h = c.generation k h')
    (hsteady : c.Steady mapping truth hosts k) (hhost : host ∈ hosts) {name : String}
    (hinvoke : ∀ s, Sound c mapping truth hosts (some k) (mapping host) s.state →
      ∃ e t, invoke k { name } s = (.ok e, t) ∧ (e.1, e.2.id?) = truth k (mapping host) name ∧
        Sound c mapping truth hosts (some k) (mapping host) t.state)
    (h : Sound c mapping truth hosts (some k) (mapping host) s.state) :
    ∃ t, Session.resolve c invoke name s =
        (.ok (verdict name (truth k (mapping host) name)), t) ∧
      Sound c mapping truth hosts (some k) (mapping host) t.state := by
  -- the notes before and after `find` leave the session alone
  suffices hfind : ∀ s : Scene (Session κ H) (Deed κ H),
      Sound c mapping truth hosts (some k) (mapping host) s.state →
      ∃ t, Session.find c invoke name s =
          (.ok (verdict name (truth k (mapping host) name)), t) ∧
        Sound c mapping truth hosts (some k) (mapping host) t.state by
    obtain ⟨t, ht, hsound⟩ := hfind ⟨s.state, s.journal.push (.began name)⟩ h
    refine ⟨⟨t.state, t.journal.push (.ended name (verdict name (truth k (mapping host) name)))⟩,
      ?_, hsound⟩
    simp only [Session.resolve, Act.bind_apply, Act.note_apply, ht, Act.pure_apply]
  intro s h
  have hg : c.generation k s.state.host = c.generation k host := hgen k _ _ h.mapping_host
  cases hcached : s.state.resolver.cached? name (c.generation k s.state.host) with
  | some id =>
    have htrue := h.eq_of_cached? hgen hsteady hhost hcached
    refine ⟨⟨s.state, s.journal.push (.served name (c.generation k s.state.host) id)⟩, ?_, h⟩
    rw [(verdict_eq_ok_iff name).mpr htrue]
    simp only [Session.find, Act.bind_apply, Act.state_apply, h.callback, hcached, Act.note_apply,
      Act.pure_apply]
  | none =>
    obtain ⟨e, t, ht, he, hsound⟩ :=
      hinvoke ⟨s.state, s.journal.push (.consulting k name (c.generation k s.state.host))⟩ h
    obtain ⟨t', ht', hsound'⟩ := Sound.conclude (s := ⟨t.state, t.journal.push
      (.consulted k name (c.generation k s.state.host) e.1 e.2.id?)⟩) hhost hsound he.symm
    refine ⟨t', ?_, hsound'⟩
    rw [← hg] at ht'
    rw [← he, ← ht']
    simp [Session.find, Session.consult, Act.bind_apply, h.callback, hcached, ht]

/-- Code of the host's ends as it is said to, given that what it asks is answered so, and leaves a
sound session sound. -/
theorem Sound.play {invoke : Session.Invoke κ H}
    {known : String → Upshot ConversionError ServiceId → Prop}
    {told : κ → String → Except String Answer → Prop} {good : Except String β → Prop}
    {p : Program κ H β} (hp : p.Yields mapping (mapping host) known told good)
    (hresolve : ∀ name u, known name u → ∀ s : Scene (Session κ H) (Deed κ H),
      Sound c mapping truth hosts (some k) (mapping host) s.state →
      ∃ t, Act.rescue (Session.resolve c invoke name) s = (.ok u, t) ∧
        Sound c mapping truth hosts (some k) (mapping host) t.state)
    (hask : ∀ k' name u, told k' name u → ∀ s : Scene (Session κ H) (Deed κ H),
      Sound c mapping truth hosts (some k) (mapping host) s.state →
      ∃ e t, Act.rescue (invoke k' { name }) s = (.ok e, t) ∧ telling e = u ∧
        Sound c mapping truth hosts (some k) (mapping host) t.state)
    {s : Scene (Session κ H) (Deed κ H)}
    (h : Sound c mapping truth hosts (some k) (mapping host) s.state) :
    ∃ e t, Act.rescue (p.play c invoke) s = (.ok e, t) ∧ good e ∧
      Sound c mapping truth hosts (some k) (mapping host) t.state := by
  induction p generalizing s with
  | finish b => exact ⟨.ok b, s, rfl, hp, h⟩
  | panic message => exact ⟨.error message, s, rfl, hp, h⟩
  | readHost next ih => exact ih s.state.host (hp _ h.mapping_host) h
  | writeHost host' next ih =>
    exact ih hp.2 (s := ⟨{ s.state with host := host' }, s.journal.push (.changed host')⟩)
      (hp.1 ▸ h.setHost host')
  | resolve name next ih =>
    obtain ⟨u, hu, hnext⟩ := hp
    obtain ⟨t, ht, hsound⟩ := hresolve name u hu s h
    obtain ⟨e, t', ht', he, hsound'⟩ := ih u hnext hsound
    exact ⟨e, t', (Act.rescue_bind_of_ok ht).trans ht', he, hsound'⟩
  | invalidate name next ih =>
    exact ih _ (hp _) (s := ⟨{ s.state with resolver := s.state.resolver.forget name },
      s.journal.push (.invalidated name)⟩) (h.forget name)
  | clear next ih =>
    exact ih hp (s := ⟨{ s.state with resolver := s.state.resolver.clear },
      s.journal.push .cleared⟩) h.clear
  | status next ih => exact ih _ (hp _) h
  | ask k' name next ih =>
    obtain ⟨u, hu, hnext⟩ := hp
    obtain ⟨e, t, ht, rfl, hsound⟩ := hask k' name u hu s h
    obtain ⟨e', t', ht', he', hsound'⟩ := ih (telling e) hnext hsound
    exact ⟨e', t', (Act.rescue_bind_of_ok ht).trans ht', he', hsound'⟩

/-- A callback that tells an answer does not panic. -/
theorem Sound.answer_of_rescue {a : Act (Session κ H) (Deed κ H) Empty (Outcome × Event)}
    {s : Scene (Session κ H) (Deed κ H)} {answer : Answer}
    (h : ∃ e t, Act.rescue a s = (.ok e, t) ∧ telling e = .ok answer ∧
      Sound c mapping truth hosts (some k) (mapping host) t.state) :
    ∃ e t, a s = (.ok e, t) ∧ (e.1, e.2.id?) = answer ∧
      Sound c mapping truth hosts (some k) (mapping host) t.state := by
  obtain ⟨e | e, t, ht, he, hsound⟩ := h
  · cases he
  · exact ⟨e, t, Act.rescue_eq_ok_iff.mp ht, Except.ok.inj he, hsound⟩

/-- A callback that is asked in a sound session tells what it tells without a cache. -/
theorem Sound.invoke (hc : c.Determined mapping truth) (hsteady : c.Steady mapping truth hosts k)
    (hhost : host ∈ hosts) {n depth : Nat} (hn : n ≤ depth) {k' : κ} {name : String}
    {u : Except String Answer} (hu : c.Tells mapping (mapping host) k n k' name u)
    {s : Scene (Session κ H) (Deed κ H)}
    (h : Sound c mapping truth hosts (some k) (mapping host) s.state) :
    ∃ e t, Act.rescue (Session.invoke c depth k' { name }) s = (.ok e, t) ∧ telling e = u ∧
      Sound c mapping truth hosts (some k) (mapping host) t.state := by
  induction n generalizing depth k' name u s with
  | zero => exact hu.elim
  | succ n ih =>
    obtain ⟨depth, rfl⟩ : ∃ d, depth = d + 1 := ⟨depth - 1, by omega⟩
    have hn' : n ≤ depth := by omega
    refine Sound.play (Callbacks.tells_succ.mp hu) ?_ (fun k' name u hu s h => ih hn' hu h) h
    rintro name _ ⟨u, hu, rfl⟩ s h
    -- the registered callback tells the truth, so it has not panicked
    obtain ⟨_, htruth⟩ := hc.tells k host name
    obtain rfl := htruth.unique hu
    obtain ⟨t, ht, hsound⟩ := Sound.resolve_of_invoke hc.generation hsteady hhost
      (fun s h => Sound.answer_of_rescue (ih hn' hu h)) h
    exact ⟨t, Act.rescue_eq_ok_iff.mpr ht, hsound⟩

/-- **Resolving tells the truth** and leaves a sound session sound, in any session in which
callbacks may nest deep enough. -/
theorem Sound.resolve (hc : c.Determined mapping truth) (hsteady : c.Steady mapping truth hosts k)
    (hhost : host ∈ hosts) {n depth : Nat} (hn : n ≤ depth) {name : String}
    (hu : c.Tells mapping (mapping host) k n k name (.ok (truth k (mapping host) name)))
    {s : Scene (Session κ H) (Deed κ H)}
    (h : Sound c mapping truth hosts (some k) (mapping host) s.state) :
    ∃ t, c.resolve depth name s = (.ok (verdict name (truth k (mapping host) name)), t) ∧
      Sound c mapping truth hosts (some k) (mapping host) t.state :=
  Sound.resolve_of_invoke hc.generation hsteady hhost
    (fun _ h => Sound.answer_of_rescue (Sound.invoke hc hsteady hhost hn hu h)) h

/-- A resolver without a callback answers that it has none. -/
theorem Sound.resolve_of_none {s : Scene (Session κ H) (Deed κ H)}
    (h : Sound c mapping truth hosts none m s.state) (depth : Nat) (name : String) :
    ∃ t, c.resolve depth name s = (.ok (.error (.serviceNotFound name .noCallback)), t) ∧
      Sound c mapping truth hosts none m t.state := by
  refine ⟨⟨s.state, ((s.journal.push (.began name)).push (.reported (Report.noCallback name))).push
    (.ended name (.error (.serviceNotFound name .noCallback)))⟩, ?_, h⟩
  simp only [Callbacks.resolve, Session.resolve, Session.find, Session.report, Act.bind_apply,
    Act.note_apply, Act.state_apply, h.callback, Act.pure_apply]

end Sound

end Resolution

end ConverterKit
