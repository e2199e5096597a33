import ConverterKit.Proofs.Resolution.Superseded

/-!
# Failed resolutions leave no trace

A resolve or a lookup that fails may be left out of a run, or any number of them, and nobody can
tell: all other steps are answered alike, and the callback is invoked by the same steps. This is
said of callbacks that leave the resolver alone and depend on a mapping of the host only, not on how
often they are asked. The rest of the host, such as a count of questions, is theirs.

What such a callback does to a session can be said without looking at the session: a resolve from a
resolver and a mapping always ends in the same way, with the same invocations and the same resolver
after it. If it fails, that is the resolver from before.

A resolver whose callback always fails is, but for the cause it states, one without a callback.

## Main definitions

* `Callbacks.Replies`: what a callback replies that leaves the resolver alone
* `Surroundings.Apart`: callbacks and changes that depend on a mapping of the host only
* `Surroundings.Invokes`: which callbacks a resolve invokes, whatever these do
* `Step`, `Sight`, `Surroundings.sights`: the steps of a run and what can be seen of them
* `Unserved`: what can be seen of a step of a resolver that has no ids

## Main results

* `Callbacks.truthful_invoke`: what invoking such a callback does
* `Surroundings.Apart.exists_resolves`: what a resolve does
* `failures_leave_no_trace`: failed resolves and lookups may be left out
-/

namespace ConverterKit

namespace Resolution

variable {κ H χ M : Type}

/-! ## Callbacks that leave the resolver alone -/

/-- Over a host with the mapping `m` the program replies this, or panics, without using the
resolver, and leaves the mapping alone. -/
def Program.Replies (mapping : H → M) (m : M) (told : κ → String → Ending Empty Answer → Prop)
    (reply : Ending Empty Answer) : Program κ H (Outcome × Event) → Prop
  | .finish (outcome, event) => reply = .ok (outcome, event.id?)
  | .panic message => reply = .panicked message
  | .readHost next => ∀ h, mapping h = m → (next h).Replies mapping m told reply
  | .writeHost h next => mapping h = m ∧ next.Replies mapping m told reply
  | .ask k name next =>
    (∃ a, told k name (.ok a) ∧ (next (.ok a)).Replies mapping m told reply) ∨
      ∃ message, told k name (.panicked message) ∧
        (next (.error message)).Replies mapping m told reply
  | .resolve _ _ | .invalidate _ _ | .clear _ | .status _ => False

/-- What a callback replies about a name over a host with the mapping `m`, with callbacks nested in
one another at most `n` deep. -/
def Callbacks.Replies (c : Callbacks κ H) (mapping : H → M) (m : M) :
    Nat → κ → String → Ending Empty Answer → Prop
  | 0, _, _, _ => False
  | n + 1, k, name, reply => (c.answer k { name }).Replies mapping m (c.Replies mapping m n) reply

/-- The callback a deed invokes for the resolver, and the name it is asked for. -/
def Deed.invoked? : Deed κ H → Option (κ × String)
  | .consulting k name _ => some (k, name)
  | _ => none

/-- The callbacks that the resolver invokes, in this order. -/
def invoked (J : List (Deed κ H)) : List (κ × String) := J.filterMap Deed.invoked?

/-- Nothing happens but changes of the host, and its mapping stays `m`. -/
def Hosted (mapping : H → M) (m : M) (J : List (Deed κ H)) : Prop :=
  ∀ d ∈ J, ∃ h, d = .changed h ∧ mapping h = m

namespace Hosted

variable {mapping : H → M} {m : M} {J K : List (Deed κ H)}

theorem nil : Hosted mapping m ([] : List (Deed κ H)) := nofun

theorem append (hJ : Hosted mapping m J) (hK : Hosted mapping m K) : Hosted mapping m (J ++ K) :=
  fun d hd => (List.mem_append.mp hd).elim (hJ d) (hK d)

theorem changed {h : H} (hm : mapping h = m) :
    Hosted mapping m [(.changed h : Deed κ H)] := fun _ hd =>
  ⟨h, List.mem_singleton.mp hd, hm⟩

/-- The resolver and the mapping stay. -/
theorem after (hJ : Hosted mapping m J) {s : Session κ H} (hs : mapping s.host = m) :
    (s.after J).resolver = s.resolver ∧ mapping (s.after J).host = m := by
  induction J generalizing s with
  | nil => exact ⟨rfl, hs⟩
  | cons d J ih =>
    obtain ⟨h, rfl, hm⟩ := hJ d List.mem_cons_self
    exact @ih (fun d hd => hJ d (List.mem_cons_of_mem _ hd)) { s with host := h } hm

theorem invoked_eq (hJ : Hosted mapping m J) : invoked J = [] := by
  refine List.filterMap_eq_nil_iff.mpr fun d hd => ?_
  obtain ⟨h, rfl, -⟩ := hJ d hd
  rfl

end Hosted

/-- An invocation that ended like this has given this reply. -/
inductive Gives : Ending Empty (Outcome × Event) → Ending Empty Answer → Prop where
  /-- It gave the event back, with an outcome. -/
  | answer (outcome : Outcome) (event : Event) :
      Gives (.ok (outcome, event)) (.ok (outcome, event.id?))
  /-- It panicked. -/
  | panicked (message : String) : Gives (.panicked message) (.panicked message)

/-- A way of invoking callbacks that gives the replies that are told, from every scene with this
mapping, and does nothing else but change the host behind the mapping. -/
def Truthful (mapping : H → M) (m : M) (told : κ → String → Ending Empty Answer → Prop)
    (invoke : Session.Invoke κ H) : Prop :=
  ∀ k name reply, told k name reply → ∀ s, mapping s.state.host = m →
    ∃ e J, invoke k { name } s = (e, record s J) ∧ Gives e reply ∧ Hosted mapping m J

/-- **A program that leaves the resolver alone** does what it replies. -/
theorem Program.Replies.play_eq {mapping : H → M} {m : M}
    {told : κ → String → Ending Empty Answer → Prop} {reply : Ending Empty Answer}
    {p : Program κ H (Outcome × Event)} (h : p.Replies mapping m told reply) (c : Callbacks κ H)
    {invoke : Session.Invoke κ H} (hinvoke : Truthful mapping m told invoke)
    (s : Scene (Session κ H) (Deed κ H)) (hs : mapping s.state.host = m) :
    ∃ e J, p.play c invoke s = (e, record s J) ∧ Gives e reply ∧ Hosted mapping m J := by
  induction p generalizing s with
  | finish b =>
    obtain rfl : reply = .ok (b.1, b.2.id?) := h
    exact ⟨.ok b, [], rfl, .answer b.1 b.2, .nil⟩
  | panic message =>
    obtain rfl : reply = .panicked message := h
    exact ⟨.panicked message, [], rfl, .panicked message, .nil⟩
  | readHost next ih => exact ih _ (h s.state.host hs) s hs
  | writeHost host next ih =>
    obtain ⟨e, J, hplay, he, hJ⟩ := ih h.2 (record s [.changed host]) h.1
    refine ⟨e, [.changed host] ++ J, ?_, he, (Hosted.changed h.1).append hJ⟩
    rw [record_append, ← hplay]
    rfl
  | ask k name next ih =>
    -- whether the callback that is asked answers or panics, the program goes on
    obtain ⟨u, J, heq, hnext, hJ⟩ : ∃ u J, Act.rescue (invoke k { name }) s = (.ok u, record s J) ∧
        (next (telling u)).Replies mapping m told reply ∧ Hosted mapping m J := by
      rcases h with ⟨a, ha, h⟩ | ⟨message, ha, h⟩
      · obtain ⟨_, J, heq, ⟨outcome, event⟩, hJ⟩ := hinvoke k name _ ha s hs
        exact ⟨.ok (outcome, event), J, Act.rescue_eq_ok_iff.mpr heq, h, hJ⟩
      · obtain ⟨_, J, heq, ⟨⟩, hJ⟩ := hinvoke k name _ ha s hs
        exact ⟨.error message, J, Act.rescue_eq_error_iff.mpr heq, h, hJ⟩
    have hmapping : mapping (record s J).state.host = m := by
      rw [state_record]
      exact (hJ.after hs).2
    obtain ⟨e, K, hplay, he, hK⟩ := ih _ hnext (record s J) hmapping
    refine ⟨e, J ++ K, ?_, he, hJ.append hK⟩
    rw [record_append, ← hplay]
    exact Act.bind_of_ok heq
  | resolve | invalidate | clear | status => exact h.elim

/-- **Invoking a callback that leaves the resolver alone** gives its reply. -/
theorem Callbacks.truthful_invoke (c : Callbacks κ H) (mapping : H → M) (m : M) (n : Nat) :
    Truthful mapping m (c.Replies mapping m n) (Session.invoke c n) := by
  induction n with
  | zero => exact fun _ _ _ h => h.elim
  | succ n ih => exact fun k name reply h s hs => h.play_eq c ih s hs

/-! ## What a resolve does -/

/-- Callbacks that leave the resolver alone and depend on a mapping of the host only, and changes
whose effect on the mapping is determined by it. -/
structure Surroundings.Apart (w : Surroundings κ H χ) (mapping : H → M) (depth : Nat) : Prop where
  /-- Hosts with the same mapping have the same generation. -/
  generation : ∀ k h h', mapping h = mapping h' → w.generation k h = w.generation k h'
  /-- Hosts with the same mapping have the same mapping after the same change. -/
  change : ∀ c h h', mapping h = mapping h' → mapping (w.change c h) = mapping (w.change c h')
  /-- What is replied depends on the mapping, which stays. -/
  replies : ∀ k h name, ∃ reply, w.Replies mapping (mapping h) depth k name reply

/-- Resolving the name in this scene invokes these callbacks, whatever they do: none, so that it
does the same with any others, or the registered one, which is invoked once and whose answer
decides. -/
inductive Surroundings.Invokes (w : Surroundings κ H χ) (name : String)
    (s : Scene (Session κ H) (Deed κ H)) : List (κ × String) → Prop where
  /-- No callback is invoked. -/
  | none (h : ∀ invoke invoke', Session.resolve w.toCallbacks invoke name s =
      Session.resolve w.toCallbacks invoke' name s) : Invokes w name s []
  /-- The registered callback is invoked once. -/
  | once {k : κ} (hk : s.state.resolver.callback? = some k)
      (h : ∀ invoke, Session.resolve w.toCallbacks invoke name s =
        (invoke k { name } >>= Session.close k name (w.generation k s.state.host))
          (record s (openingDeeds k name (w.generation k s.state.host)))) :
      Invokes w name s [(k, name)]

/-- A resolve with this resolver and this mapping ends like this, with these invocations, and leaves
that resolver and the same mapping. -/
def Surroundings.Resolves (w : Surroundings κ H χ) (mapping : H → M) (depth : Nat) (r : Resolver κ)
    (m : M) (name : String) (e : Ending Empty (Except ConversionError ServiceId))
    (calls : List (κ × String)) (r' : Resolver κ) : Prop :=
  ∀ s, s.state.resolver = r → mapping s.state.host = m →
    ∃ J, w.resolve depth name s = (e, record s J) ∧ (invoked J = calls ∧ w.Invokes name s calls) ∧
      (s.state.after J).resolver = r' ∧ mapping (s.state.after J).host = m

/-- The resolver once its callback has answered. -/
def Resolver.answered (r : Resolver κ) (name : String) : Option UInt64 → Answer → Resolver κ
  | some g, (.success, some id) => r.file name id g
  | _, _ => r

theorem invoked_closingDeeds (r : Resolver κ) (k : κ) (name : String) (g? : Option UInt64)
    (a : Answer) : invoked (closingDeeds r k name g? a : List (Deed κ H)) = [] := by
  refine List.filterMap_eq_nil_iff.mpr fun d hd => ?_
  rcases List.mem_cons.mp hd with rfl | hd
  · rfl
  rcases List.mem_append.mp hd with hd | hd
  · obtain ⟨e, rfl⟩ : ∃ e, d = .reported e := by
      obtain ⟨_ | _, _ | id⟩ := a
      · exact ⟨_, List.mem_singleton.mp hd⟩
      · rcases List.mem_cons.mp hd with rfl | hd
        · exact ⟨_, rfl⟩
        · split at hd
          · split at hd
            · exact ⟨_, List.mem_singleton.mp hd⟩
            · cases hd
          · cases hd
      · exact ⟨_, List.mem_singleton.mp hd⟩
      · exact ⟨_, List.mem_singleton.mp hd⟩
    rfl
  · obtain rfl := List.mem_singleton.mp hd
    rfl

section

variable {w : Surroundings κ H χ} {mapping : H → M} {depth : Nat} {r : Resolver κ} {k : κ}
  {name : String}

/-- Without a callback a resolve fails, and nothing else happens. -/
theorem resolves_of_none (m : M) (hr : r.callback? = none) :
    w.Resolves mapping depth r m name (.ok (.error (.serviceNotFound name .noCallback))) [] r := by
  rintro s rfl hm
  refine ⟨unansweredDeeds name, resolve_of_none hr, ⟨rfl, .none fun invoke invoke' => ?_⟩, rfl, hm⟩
  rw [resolve_of_none hr, resolve_of_none hr]

namespace Surroundings.Apart

variable {h : H}

/-- An id that may be used is used, and nothing else happens. -/
theorem resolves_of_cached (hw : w.Apart mapping depth) {id : ServiceId}
    (hr : r.callback? = some k) (hid : r.cached? name (w.generation k h) = some id) :
    w.Resolves mapping depth r (mapping h) name (.ok (.ok id)) [] r := by
  rintro s rfl hm
  rw [← hw.generation k _ _ hm] at hid
  refine ⟨servedDeeds name (w.generation k s.state.host) id, resolve_of_some hr hid,
    ⟨rfl, .none fun invoke invoke' => ?_⟩, rfl, hm⟩
  rw [resolve_of_some hr hid, resolve_of_some hr hid]

/-- A callback that answers is invoked once, and its answer decides. -/
theorem resolves_of_answer (hw : w.Apart mapping depth) {a : Answer} (hr : r.callback? = some k)
    (hid : r.cached? name (w.generation k h) = none)
    (ha : w.Replies mapping (mapping h) depth k name (.ok a)) :
    w.Resolves mapping depth r (mapping h) name (.ok (verdict name a)) [(k, name)]
      (r.answered name (w.generation k h) a) := by
  rintro s rfl hm
  rw [← hw.generation k _ _ hm] at hid ⊢
  obtain ⟨_, J, hinvoke, ⟨outcome, event⟩, hJ⟩ := w.truthful_invoke mapping (mapping h) depth k
    name _ ha (record s (openingDeeds k name (w.generation k s.state.host))) hm
  obtain ⟨hresolver, hmapping⟩ := hJ.after (s := s.state) hm
  refine ⟨openingDeeds k name (w.generation k s.state.host) ++
    (J ++ closingDeeds s.state.resolver k name (w.generation k s.state.host)
      (outcome, event.id?)), ?_, ⟨?_, .once hr fun _ => resolve_of_cached?_none hr hid⟩, ?_⟩
  · refine (resolve_of_cached?_none hr hid).trans ((Act.bind_of_ok hinvoke).trans ?_)
    rw [close_apply, record_append, record_append]
    simp only [state_record, openingDeeds, Session.after_cons, Session.after_nil, Session.next,
      hresolver]
  · have hJ' := hJ.invoked_eq
    have hclosing := invoked_closingDeeds (H := H) s.state.resolver k name
      (w.generation k s.state.host) (outcome, event.id?)
    simp only [invoked, List.filterMap_append] at hJ' hclosing ⊢
    rw [hJ', hclosing]
    rfl
  · have hopened (K : List (Deed κ H)) : s.state.after
        (openingDeeds k name (w.generation k s.state.host) ++ K) = s.state.after K := by
      rw [Session.after_append]
      rfl
    rw [hopened, Session.after_append, Session.after_closingDeeds, ← hresolver]
    cases w.generation k s.state.host <;> cases outcome <;> cases event.id? <;>
      exact ⟨rfl, hmapping⟩

/-- A callback that panics is invoked once, and that is all. -/
theorem resolves_of_panicked (hw : w.Apart mapping depth) {message : String}
    (hr : r.callback? = some k) (hid : r.cached? name (w.generation k h) = none)
    (ha : w.Replies mapping (mapping h) depth k name (.panicked message)) :
    w.Resolves mapping depth r (mapping h) name (.panicked message) [(k, name)] r := by
  rintro s rfl hm
  rw [← hw.generation k _ _ hm] at hid
  obtain ⟨_, J, hinvoke, ⟨⟩, hJ⟩ := w.truthful_invoke mapping (mapping h) depth k
    name _ ha (record s (openingDeeds k name (w.generation k s.state.host))) hm
  refine ⟨openingDeeds k name (w.generation k s.state.host) ++ J, ?_,
    ⟨?_, .once hr fun _ => resolve_of_cached?_none hr hid⟩, ?_⟩
  · refine (resolve_of_cached?_none hr hid).trans ?_
    rw [record_append]
    simp only [Act.bind_apply, hinvoke]
  · have hJ' := hJ.invoked_eq
    simp only [invoked, List.filterMap_append] at hJ' ⊢
    rw [hJ']
    rfl
  · rw [Session.after_append]
    exact hJ.after (s := s.state) hm

/-- An answer that makes a failure leaves the resolver as it is. -/
theorem answered_of_error {g? : Option UInt64} {a : Answer} {error : ConversionError}
    (ha : verdict name a = .error error) : r.answered name g? a = r := by
  obtain ⟨_ | _, _ | id⟩ := a <;> cases g? <;> first | rfl | cases ha

/-- **What a resolve does** is determined by the resolver and the mapping. If it fails, it leaves
the resolver as it is, and has invoked the callback once if there is one. -/
theorem exists_resolves (hw : w.Apart mapping depth) (r : Resolver κ) (h : H) (name : String) :
    ∃ e calls r', w.Resolves mapping depth r (mapping h) name e calls r' ∧
      ∀ error, e = .ok (.error error) →
        r' = r ∧ calls = (r.callback?.map fun k => (k, name)).toList := by
  rcases hr : r.callback? with _ | k
  · exact ⟨_, _, _, resolves_of_none (mapping h) hr, fun _ _ => ⟨rfl, rfl⟩⟩
  rcases hid : r.cached? name (w.generation k h) with _ | id
  · obtain ⟨reply, hreply⟩ := hw.replies k h name
    cases reply with
    | ok a =>
      exact ⟨_, _, _, hw.resolves_of_answer hr hid hreply, fun error herror =>
        ⟨answered_of_error (Ending.ok.inj herror), rfl⟩⟩
    | panicked message =>
      exact ⟨_, _, _, hw.resolves_of_panicked hr hid hreply, nofun⟩
    | error | unfinished =>
      -- no invocation gives such a reply
      obtain ⟨_, _, _, ⟨⟩, _⟩ := w.truthful_invoke mapping (mapping h) depth k name _ hreply
        (.fresh ⟨r, h⟩) rfl
  · exact ⟨_, _, _, hw.resolves_of_cached hr hid, nofun⟩

end Surroundings.Apart

end

/-! ## Steps and what can be seen of them -/

/-- One step of a run. -/
inductive Step (κ χ : Type) where
  /-- Make a move. -/
  | move (x : Move κ χ)
  /-- Ask the resolver how many ids it keeps. -/
  | count

/-- The name a step asks the id of, if it asks for one. -/
def Step.name? : Step κ χ → Option String
  | .move x => x.name?
  | .count => none

/-- What can be seen of a step. -/
inductive Sight (κ : Type) where
  /-- How a move is answered, and what the resolver invokes meanwhile. -/
  | answered (reply : Ending Empty Reply) (calls : List (κ × String))
  /-- The number of ids that are kept. -/
  | counted (n : Nat)

namespace Sight

/-- Whether a name turned out to have no id. -/
def failed : Sight κ → Bool
  | .answered (.ok (.resolved (.error _))) _ => true
  | .answered (.ok (.found .failure _)) _ => true
  | _ => false

/-- What the resolver invoked. -/
def calls : Sight κ → List (κ × String)
  | .answered _ calls => calls
  | .counted _ => []

/-- What passes an id on as a success has failed only if the resolve under it has. -/
theorem exists_error_of_failed {f : Except ConversionError ServiceId → Reply}
    {e : Ending Empty (Except ConversionError ServiceId)} {calls : List (κ × String)}
    (hf : ∀ id, (answered (.ok (f (.ok id))) calls).failed = false)
    (h : (answered (e.map f) calls).failed = true) : ∃ error, e = .ok (.error error) := by
  cases e with
  | ok result =>
    cases result with
    | error error => exact ⟨error, rfl⟩
    | ok id => exact absurd h (by simp [Ending.map, hf id])
  | _ => cases h

end Sight

namespace Surroundings

variable (w : Surroundings κ H χ) (depth : Nat)

/-- The scene after a step. -/
def go : Step κ χ → Scene (Session κ H) (Deed κ H) → Scene (Session κ H) (Deed κ H)
  | .move x, s => (w.perform depth x s).2
  | .count, s => s

/-- What can be seen of a step. -/
def see : Step κ χ → Scene (Session κ H) (Deed κ H) → Sight κ
  | .move x, s =>
    .answered (w.perform depth x s).1
      (invoked ((w.perform depth x s).2.journal.toList.drop s.journal.toList.length))
  | .count, s => .counted s.state.resolver.cachedCount

/-- What can be seen of a run. -/
def sights : List (Step κ χ) → Scene (Session κ H) (Deed κ H) → List (Sight κ)
  | [], _ => []
  | step :: steps, s => w.see depth step s :: sights steps (w.go depth step s)

variable {w depth} {s : Scene (Session κ H) (Deed κ H)}

theorem perform_resolve_eq {name : String} {e : Ending Empty (Except ConversionError ServiceId)}
    {t : Scene (Session κ H) (Deed κ H)} (h : w.resolve depth name s = (e, t)) :
    w.perform depth (.resolve name) s = (e.map .resolved, t) := by
  cases e with
  | ok => exact w.perform_resolve depth s h
  | _ => simp only [perform, Act.bind_apply, h, Ending.map]

theorem perform_lookup_eq {name : String} {e : Ending Empty (Except ConversionError ServiceId)}
    {t : Scene (Session κ H) (Deed κ H)} (h : w.resolve depth name s = (e, t)) :
    w.perform depth (.lookup name) s = (e.map .ofLookup, t) := by
  cases e with
  | ok => exact w.perform_lookup depth s h
  | _ => simp only [perform, Callbacks.lookup, Act.bind_apply, h, Ending.map]

/-- What can be seen of a move that adds these deeds. -/
theorem see_of_perform {x : Move κ χ} {e : Ending Empty Reply} {J : List (Deed κ H)}
    (h : w.perform depth x s = (e, record s J)) :
    w.see depth (.move x) s = .answered e (invoked J) ∧
      (w.go depth (.move x) s).state = s.state.after J := by
  simp only [see, go, h, toList_journal_record, List.drop_left, state_record, and_self]

/-- From every scene with this resolver and this mapping, this can be seen of the step, and it
leaves that resolver and that mapping. -/
def Shows (w : Surroundings κ H χ) (mapping : H → M) (depth : Nat) (r : Resolver κ) (m : M)
    (step : Step κ χ) (sight : Sight κ) (r' : Resolver κ) (m' : M) : Prop :=
  ∀ s, s.state.resolver = r → mapping s.state.host = m → w.see depth step s = sight ∧
    (w.go depth step s).state.resolver = r' ∧ mapping (w.go depth step s).state.host = m'

variable {mapping : H → M} {r r' : Resolver κ} {m : M} {name : String}
  {e : Ending Empty (Except ConversionError ServiceId)} {calls : List (κ × String)}

theorem Resolves.shows_resolve (h : w.Resolves mapping depth r m name e calls r') :
    w.Shows mapping depth r m (.move (.resolve name)) (.answered (e.map .resolved) calls) r'
      m := by
  intro s hr hm
  obtain ⟨J, hresolve, ⟨rfl, -⟩, hresolver, hmapping⟩ := h s hr hm
  obtain ⟨hsee, hgo⟩ := see_of_perform (perform_resolve_eq hresolve)
  exact ⟨hsee, hgo ▸ hresolver, hgo ▸ hmapping⟩

theorem Resolves.shows_lookup (h : w.Resolves mapping depth r m name e calls r') :
    w.Shows mapping depth r m (.move (.lookup name)) (.answered (e.map .ofLookup) calls) r'
      m := by
  intro s hr hm
  obtain ⟨J, hresolve, ⟨rfl, -⟩, hresolver, hmapping⟩ := h s hr hm
  obtain ⟨hsee, hgo⟩ := see_of_perform (perform_lookup_eq hresolve)
  exact ⟨hsee, hgo ▸ hresolver, hgo ▸ hmapping⟩

theorem shows_invalidate (name : String) :
    w.Shows mapping depth r m (.move (.invalidate name))
      (.answered (.ok (.forgotten (r.kept? name))) []) (r.forget name) m := by
  rintro s rfl rfl
  obtain ⟨hsee, hgo⟩ :=
    see_of_perform (J := [.invalidated name]) (w.perform_invalidate depth s name)
  exact ⟨hsee, congrArg Session.resolver hgo, congrArg (fun s => mapping s.host) hgo⟩

theorem shows_clear :
    w.Shows mapping depth r m (.move .clear) (.answered (.ok .done) []) r.clear m := by
  rintro s rfl rfl
  obtain ⟨hsee, hgo⟩ := see_of_perform (J := [.cleared]) (w.perform_clear depth s)
  exact ⟨hsee, congrArg Session.resolver hgo, congrArg (fun s => mapping s.host) hgo⟩

theorem shows_register (k : κ) :
    w.Shows mapping depth r m (.move (.register k)) (.answered (.ok .done) []) (r.register k)
      m := by
  rintro s rfl rfl
  obtain ⟨hsee, hgo⟩ := see_of_perform (J := [.registered k]) (w.perform_register depth s k)
  exact ⟨hsee, congrArg Session.resolver hgo, congrArg (fun s => mapping s.host) hgo⟩

theorem shows_count :
    w.Shows mapping depth r m .count (.counted r.cachedCount) r m := by
  rintro s rfl rfl
  exact ⟨rfl, rfl, rfl⟩

theorem Apart.shows_change (hw : w.Apart mapping depth) (h : H) (c : χ) :
    w.Shows mapping depth r (mapping h) (.move (.change c)) (.answered (.ok .done) []) r
      (mapping (w.change c h)) := by
  rintro s rfl hm
  obtain ⟨hsee, hgo⟩ := see_of_perform (J := [.changed (w.change c s.state.host)])
    (w.perform_change depth s c)
  refine ⟨hsee, (congrArg Session.resolver hgo).trans rfl, ?_⟩
  exact (congrArg (fun s => mapping s.host) hgo).trans (hw.change c _ _ hm)

/-- **What can be seen of a step** is determined by the resolver and the mapping, and so are those
it leaves. If a name turns out to have no id, they stay as they are, and the callback was invoked
once if there is one. -/
theorem Apart.exists_shows (hw : w.Apart mapping depth) (step : Step κ χ) (r : Resolver κ) (h : H) :
    ∃ sight r' h', w.Shows mapping depth r (mapping h) step sight r' (mapping h') ∧
      (sight.failed = true → r' = r ∧ mapping h' = mapping h ∧ ∃ name, step.name? = some name ∧
        sight.calls = (r.callback?.map fun k => (k, name)).toList) := by
  rcases step with (c | name | name | name | _ | k) | _
  · exact ⟨_, _, _, hw.shows_change h c, nofun⟩
  · obtain ⟨e, calls, r', hresolves, hfails⟩ := hw.exists_resolves r h name
    refine ⟨_, _, h, hresolves.shows_resolve, fun hfailed => ?_⟩
    obtain ⟨error, rfl⟩ := Sight.exists_error_of_failed (fun _ => rfl) hfailed
    obtain ⟨rfl, rfl⟩ := hfails error rfl
    exact ⟨rfl, rfl, name, rfl, rfl⟩
  · obtain ⟨e, calls, r', hresolves, hfails⟩ := hw.exists_resolves r h name
    refine ⟨_, _, h, hresolves.shows_lookup, fun hfailed => ?_⟩
    obtain ⟨error, rfl⟩ := Sight.exists_error_of_failed (fun _ => rfl) hfailed
    obtain ⟨rfl, rfl⟩ := hfails error rfl
    exact ⟨rfl, rfl, name, rfl, rfl⟩
  · exact ⟨_, _, h, shows_invalidate name, nofun⟩
  · exact ⟨_, _, h, shows_clear, nofun⟩
  · exact ⟨_, _, h, shows_register k, nofun⟩
  · exact ⟨_, _, h, shows_count, nofun⟩

end Surroundings

/-- **What is seen to be invoked is invoked**, and nothing else: the calls that can be seen of a
step that asks for a name are those of resolving the name. -/
theorem Surroundings.Apart.invokes {w : Surroundings κ H χ} {mapping : H → M} {depth : Nat}
    (hw : w.Apart mapping depth) (s : Scene (Session κ H) (Deed κ H)) {step : Step κ χ}
    {name : String} (hname : step.name? = some name) :
    w.Invokes name s (w.see depth step s).calls := by
  obtain ⟨e, calls, r', hresolves, -⟩ := hw.exists_resolves s.state.resolver s.state.host name
  obtain ⟨-, -, ⟨-, hinvokes⟩, -⟩ := hresolves s rfl rfl
  rcases step with (c | other | other | other | _ | k) | _
  · cases hname
  · obtain rfl : other = name := Option.some.inj hname
    obtain ⟨hsee, -⟩ := hresolves.shows_resolve s rfl rfl
    rwa [hsee]
  · obtain rfl : other = name := Option.some.inj hname
    obtain ⟨hsee, -⟩ := hresolves.shows_lookup s rfl rfl
    rwa [hsee]
  all_goals cases hname

/-! ## Leaving out what failed -/

/-- Those of a list that are marked. -/
def selected {α : Type} (l : List (α × Bool)) : List α := (l.filter (·.2)).map (·.1)

/-- Two scenes with the same resolver and the same mapping. -/
structure Agree (mapping : H → M) (s t : Scene (Session κ H) (Deed κ H)) : Prop where
  resolver : s.state.resolver = t.state.resolver
  mapping : mapping s.state.host = mapping t.state.host

namespace Surroundings.Apart

variable {w : Surroundings κ H χ} {mapping : H → M} {depth : Nat}
  {s t : Scene (Session κ H) (Deed κ H)}

/-- Scenes that agree cannot be told apart by a step, and agree after it. -/
theorem agree (hw : w.Apart mapping depth) (h : Agree mapping s t) (step : Step κ χ) :
    w.see depth step s = w.see depth step t ∧
      Agree mapping (w.go depth step s) (w.go depth step t) := by
  obtain ⟨sight, r', h', hshows, -⟩ := hw.exists_shows step t.state.resolver t.state.host
  obtain ⟨hsee, hresolver, hmapping⟩ := hshows s h.resolver h.mapping
  obtain ⟨hsee', hresolver', hmapping'⟩ := hshows t rfl rfl
  exact ⟨hsee.trans hsee'.symm, hresolver.trans hresolver'.symm, hmapping.trans hmapping'.symm⟩

/-- A step that failed leaves a scene that agrees with the one before it, and has invoked the
callback once if there is one. -/
theorem agree_of_failed (hw : w.Apart mapping depth) {step : Step κ χ}
    (h : (w.see depth step s).failed = true) :
    Agree mapping (w.go depth step s) s ∧ ∃ name, step.name? = some name ∧
      (w.see depth step s).calls = (s.state.resolver.callback?.map fun k => (k, name)).toList := by
  obtain ⟨sight, r', h', hshows, hfails⟩ := hw.exists_shows step s.state.resolver s.state.host
  obtain ⟨rfl, rfl, hmapping⟩ := hshows s rfl rfl
  obtain ⟨hresolver, hmapping', hcalls⟩ := hfails h
  exact ⟨⟨hresolver, hmapping.trans hmapping'⟩, hcalls⟩

/-- **Steps that failed may be left out**, in a scene that agrees with the one of the whole run. -/
theorem sights_selected (hw : w.Apart mapping depth) (steps : List (Step κ χ × Bool))
    (h : Agree mapping s t)
    (hfailed : ∀ p ∈ (w.sights depth (steps.map (·.1)) s).zip (steps.map (·.2)),
      p.2 = false → p.1.failed = true) :
    selected ((w.sights depth (steps.map (·.1)) s).zip (steps.map (·.2))) =
      w.sights depth (selected steps) t := by
  induction steps generalizing s t with
  | nil => rfl
  | cons p steps ih =>
    obtain ⟨step, kept⟩ := p
    have hhead := hfailed (w.see depth step s, kept) List.mem_cons_self
    have hrest := fun p hp => hfailed p (List.mem_cons_of_mem _ hp)
    cases kept with
    | true =>
      obtain ⟨hsee, hgo⟩ := hw.agree h step
      exact congrArg₂ List.cons hsee (ih hgo hrest)
    | false =>
      obtain ⟨hgo, -⟩ := hw.agree_of_failed (hhead rfl)
      exact ih ⟨hgo.resolver.trans h.resolver, hgo.mapping.trans h.mapping⟩ hrest

end Surroundings.Apart

/-! ## Resolvers without ids -/

/-- What can be seen of a step of a resolver that has no ids and gets none, for such a cause. -/
inductive Unserved (cause : MissingCause → Prop) : Step κ χ → Sight κ → Prop where
  | change (c : χ) : Unserved cause (.move (.change c)) (.answered (.ok .done) [])
  | resolve {name : String} {why : MissingCause} {calls : List (κ × String)} (hwhy : cause why) :
      Unserved cause (.move (.resolve name))
        (.answered (.ok (.resolved (.error (.serviceNotFound name why)))) calls)
  | lookup {name : String} {calls : List (κ × String)} :
      Unserved cause (.move (.lookup name)) (.answered (.ok (.found .failure none)) calls)
  | invalidate (name : String) :
      Unserved cause (.move (.invalidate name)) (.answered (.ok (.forgotten none)) [])
  | clear : Unserved cause (.move .clear) (.answered (.ok .done) [])
  | count : Unserved cause .count (.counted 0)

namespace Resolver

variable {r : Resolver κ}

theorem cachedCount_forget (h : r.cachedCount = 0) (name : String) :
    (r.forget name).cachedCount = 0 := by
  rw [cachedCount_eq_zero_iff] at h ⊢
  intro other
  have hother := h other
  obtain ⟨callback?, _ | cache⟩ := r
  · rfl
  · have hfind : (cache.ids.erase name).find? other = none := by
      rw [NameMap.find?_erase]
      split
      · rfl
      · exact hother
    exact hfind

theorem cachedCount_clear (r : Resolver κ) : r.clear.cachedCount = 0 := by
  obtain ⟨callback?, _ | cache⟩ := r <;> rfl

/-- A resolver that keeps no ids has none to use. -/
theorem cached?_of_cachedCount (h : r.cachedCount = 0) (name : String) (g? : Option UInt64) :
    r.cached? name g? = none := by
  have hkept := cachedCount_eq_zero_iff.mp h name
  obtain ⟨callback?, _ | cache⟩ := r
  · rfl
  · have hfind : cache.ids.find? name = none := hkept
    cases g? with
    | none => rfl
    | some g =>
      show cache.lookup? name g = none
      rw [IdCache.lookup?, hfind, ite_self]

end Resolver

namespace Surroundings.Apart

variable {w : Surroundings κ H χ} {mapping : H → M} {depth : Nat}

/-- A resolver that keeps no ids, and whose resolves fail as long as it keeps none, never gets
any. -/
theorem unserved (hw : w.Apart mapping depth) {cause : MissingCause → Prop} {k? : Option κ}
    (hfails : ∀ r h name, r.callback? = k? → r.cachedCount = 0 → ∃ why calls, cause why ∧
      w.Resolves mapping depth r (mapping h) name (.ok (.error (.serviceNotFound name why))) calls
        r)
    {steps : List (Step κ χ)} (hsteps : ∀ k, .move (.register k) ∉ steps)
    {s : Scene (Session κ H) (Deed κ H)} (hk : s.state.resolver.callback? = k?)
    (hzero : s.state.resolver.cachedCount = 0) :
    List.Forall₂ (Unserved cause) steps (w.sights depth steps s) := by
  induction steps generalizing s with
  | nil => exact .nil
  | cons step steps ih =>
    have hrest := fun k hmem => hsteps k (List.mem_cons_of_mem _ hmem)
    -- one step is as it should be, and leaves a resolver of the same kind
    have hcons {sight : Sight κ} {r' : Resolver κ} {m' : M}
        (h : w.Shows mapping depth s.state.resolver (mapping s.state.host) step sight r' m')
        (hsight : Unserved cause step sight) (hk' : r'.callback? = k?)
        (hzero' : r'.cachedCount = 0) :
        List.Forall₂ (Unserved cause) (step :: steps) (w.sights depth (step :: steps) s) := by
      obtain ⟨rfl, rfl, -⟩ := h s rfl rfl
      exact .cons hsight (ih hrest hk' hzero')
    rcases step with (c | name | name | name | _ | k) | _
    · exact hcons (hw.shows_change _ c) (.change c) hk hzero
    · obtain ⟨why, calls, hwhy, hresolves⟩ := hfails _ s.state.host name hk hzero
      exact hcons hresolves.shows_resolve (.resolve hwhy) hk hzero
    · obtain ⟨why, calls, hwhy, hresolves⟩ := hfails _ s.state.host name hk hzero
      exact hcons hresolves.shows_lookup .lookup hk hzero
    · have hforgets : w.Shows mapping depth s.state.resolver (mapping s.state.host)
          (.move (.invalidate name)) (.answered (.ok (.forgotten none)) [])
          (s.state.resolver.forget name) (mapping s.state.host) := by
        rw [← Resolver.cachedCount_eq_zero_iff.mp hzero name]
        exact shows_invalidate name
      exact hcons hforgets (.invalidate name) hk (Resolver.cachedCount_forget hzero name)
    · exact hcons shows_clear .clear hk (Resolver.cachedCount_clear _)
    · exact absurd List.mem_cons_self (hsteps k)
    · have hcounts : w.Shows mapping depth s.state.resolver (mapping s.state.host) .count
          (.counted 0) s.state.resolver (mapping s.state.host) := by
        rw [← hzero]
        exact shows_count
      exact hcons hcounts .count hk hzero

/-- A resolver without a callback has no ids. -/
theorem unserved_of_none (hw : w.Apart mapping depth) {steps : List (Step κ χ)}
    (hsteps : ∀ k, .move (.register k) ∉ steps) (caching : Bool) (host : H) :
    List.Forall₂ (Unserved (· = .noCallback)) steps
      (w.sights depth steps (Session.start caching host)) := by
  refine hw.unserved (fun r h name hr _ => ?_) hsteps rfl (by cases caching <;> rfl)
  exact ⟨.noCallback, _, rfl, resolves_of_none (mapping h) hr⟩

/-- A resolver whose callback always fails has no ids. -/
theorem unserved_of_failing (hw : w.Apart mapping depth) {k : κ}
    (hk : ∀ h name, ∃ a, w.Replies mapping (mapping h) depth k name (.ok a) ∧
      ∀ id, a ≠ (.success, some id))
    {steps : List (Step κ χ)} (hsteps : ∀ k, .move (.register k) ∉ steps) (caching : Bool)
    (host : H) :
    List.Forall₂ (Unserved (· ≠ .noCallback)) steps
      (w.sights depth steps (w.go depth (.move (.register k)) (Session.start caching host))) := by
  refine hw.unserved (fun r h name (hr : r.callback? = some k) hzero => ?_) hsteps rfl
    (by cases caching <;> rfl)
  obtain ⟨a, hreply, ha⟩ := hk h name
  obtain ⟨why, hwhy, hverdict⟩ : ∃ why, why ≠ .noCallback ∧
      verdict name a = .error (.serviceNotFound name why) := by
    obtain ⟨_ | _, _ | id⟩ := a
    · exact ⟨.missingId, nofun, rfl⟩
    · exact absurd rfl (ha id)
    · exact ⟨.callbackFailure, nofun, rfl⟩
    · exact ⟨.callbackFailure, nofun, rfl⟩
  have hresolves := hw.resolves_of_answer hr (Resolver.cached?_of_cachedCount hzero name _) hreply
  rw [answered_of_error hverdict, hverdict] at hresolves
  exact ⟨why, _, hwhy, hresolves⟩

end Surroundings.Apart

/-- **Failed resolutions leave no trace.** Any resolves and lookups that fail may be left out of a
run, and everything else looks the same, the calls included, which are just the invocations that a
resolve makes; each failed one has invoked the callback once if there was one. A resolver whose
callback always fails looks like one without a callback, with or without a cache, except for the
cause of its failures; it never keeps an id. -/
theorem failures_leave_no_trace {w : Surroundings κ H χ} {mapping : H → M} {depth : Nat}
    (hw : w.Apart mapping depth) :
    (∀ s (steps : List (Step κ χ × Bool)),
      (∀ p ∈ (w.sights depth (steps.map (·.1)) s).zip (steps.map (·.2)),
        p.2 = false → p.1.failed = true) →
      selected ((w.sights depth (steps.map (·.1)) s).zip (steps.map (·.2))) =
        w.sights depth (selected steps) s) ∧
    (∀ s step name, step.name? = some name → w.Invokes name s (w.see depth step s).calls) ∧
    (∀ s step, (w.see depth step s).failed = true → ∃ name, step.name? = some name ∧
      (w.see depth step s).calls = (s.state.resolver.callback?.map fun k => (k, name)).toList) ∧
    ∀ k, (∀ h name, ∃ a, w.Replies mapping (mapping h) depth k name (.ok a) ∧
        ∀ id, a ≠ (.success, some id)) →
      ∀ steps : List (Step κ χ), (∀ k, .move (.register k) ∉ steps) →
        ∀ caching caching' host host',
          List.Forall₂ (Unserved (· = .noCallback)) steps
            (w.sights depth steps (Session.start caching host)) ∧
          List.Forall₂ (Unserved (· ≠ .noCallback)) steps
            (w.sights depth steps
              (w.go depth (.move (.register k)) (Session.start caching' host'))) := by
  refine ⟨fun s steps => hw.sights_selected steps ⟨rfl, rfl⟩,
    fun s step name hname => hw.invokes s hname,
    fun s step hfailed => (hw.agree_of_failed hfailed).2,
    fun k hk steps hsteps caching caching' host host' => ⟨?_, ?_⟩⟩
  · exact hw.unserved_of_none hsteps caching host
  · exact hw.unserved_of_failing hk hsteps caching' host'

/-- Callbacks that count the questions in the host: a directory, and one that never says an id.
Services are removed from the directory. -/
def counting : Surroundings Bool (Directory × Nat) String where
  generation _ h := some h.1.generation
  answer k e := .readHost fun h =>
    .writeHost (h.1, h.2 + 1) (.finish (if k then h.1.answer e else (.success, e)))
  change name h := ((h.1.remove name).2, h.2)

/-- The count has no influence on what is replied. -/
theorem counting_apart : counting.Apart Prod.fst 1 where
  generation _ _ _ hm := congrArg (fun d : Directory => some d.generation) hm
  change name _ _ hm := congrArg (fun d : Directory => (d.remove name).2) hm
  replies k h name := by
    cases k with
    | true =>
      refine ⟨.ok (h.1.tell name), fun h' hm => ⟨hm, ?_⟩⟩
      rw [← hm]
      exact congrArg Ending.ok (h'.1.answer_eq_tell name).symm
    | false => exact ⟨.ok (.success, none), fun h' hm => ⟨hm, rfl⟩⟩

/-- A caching resolver whose host has a service and has not been asked yet. -/
def unasked : Scene (Session Bool (Directory × Nat)) (Deed Bool (Directory × Nat)) :=
  Session.start true (.ofList [("A", 1)], 0)

/-- A run in which two questions fail; these are not marked. -/
def troubled : List (Step Bool String × Bool) :=
  [(.move (.register true), true), (.move (.resolve "A"), true), (.move (.resolve "B"), false),
    (.count, true), (.move (.resolve "A"), true), (.move (.change "A"), true),
    (.move (.lookup "A"), false), (.count, true), (.move (.invalidate "A"), true)]

/-- The run looks the same without the two questions, although the count of questions differs. With
the callback that never says an id it looks as if there were none. -/
theorem failures_leave_no_trace_counting :
    counting.Apart Prod.fst 1 ∧
    (∀ p ∈ (counting.sights 1 (troubled.map (·.1)) unasked).zip (troubled.map (·.2)),
      p.2 = false → p.1.failed = true) ∧
    selected ((counting.sights 1 (troubled.map (·.1)) unasked).zip (troubled.map (·.2))) =
      counting.sights 1 (selected troubled) unasked ∧
    List.Forall₂ (Unserved (· ≠ .noCallback)) (troubled.tail.map (·.1))
      (counting.sights 1 (troubled.tail.map (·.1))
        (counting.go 1 (.move (.register false)) unasked)) := by
  have hfailed : ∀ p ∈ (counting.sights 1 (troubled.map (·.1)) unasked).zip (troubled.map (·.2)),
      p.2 = false → p.1.failed = true := by decide +kernel
  have hsilent (h : Directory × Nat) (name : String) :
      ∃ a, counting.Replies Prod.fst h.1 1 false name (.ok a) ∧ ∀ id, a ≠ (.success, some id) :=
    ⟨(.success, none), fun h' hm => ⟨hm, rfl⟩, nofun⟩
  have hsteps : ∀ k, Step.move (.register k) ∉ troubled.tail.map (·.1) := by simp [troubled]
  obtain ⟨hselected, -, -, hunserved⟩ := failures_leave_no_trace counting_apart
  exact ⟨counting_apart, hfailed, hselected unasked troubled hfailed,
    (hunserved false hsilent _ hsteps true true (.ofList [], 0) _).2⟩

end Resolution

end ConverterKit
