import ConverterKit.Proofs.Resolution.Journal
import Mathlib.Data.List.Induction

/-!
# The course of a run

During a run the host is in control between the moves, and while its callbacks are being asked. In
all those scenes, however deep in callbacks that ask for further names, the state is what the
journal says, and each deed in the journal was *justified* when it was noted: the host changed in a
way that is allowed, and what a callback is said to have answered it has answered when it was
invoked.

## Scope

Callbacks report their generation by a look at the host. A callback that does something else when it
is asked for its generation does it just before it is asked, since a resolve does nothing before;
and a generation that moves on when it is read is a change of the host after the resolve.

## Main definitions

* `Program.Visits`, `Surroundings.Visits`: the scenes in which the host is in control
* `Program.Keeps`: code of the host's that changes the host in allowed ways only
* `Invoked`: a callback was invoked and has answered
* `Justified`: a journal each of whose deeds is justified by those before it

## Main results

* `Program.Visits.reaches`, `Surroundings.Visits.exists_record`: scenes in which the host is in
  control have a justified journal, and their state is what the journal says
-/

namespace ConverterKit

namespace Resolution

variable {κ H χ β : Type}

/-! ## Scenes in which the host is in control -/

/-- The scenes in which the host is in control while code of the host's runs that may nest to the
given depth: at each of its steps, and at each step of the callbacks it brings about. -/
inductive Program.Visits (c : Callbacks κ H) : Nat → {β : Type} → Program κ H β →
    Scene (Session κ H) (Deed κ H) → Scene (Session κ H) (Deed κ H) → Prop where
  /-- At a step. -/
  | here {n : Nat} {β : Type} {p : Program κ H β} {s : Scene (Session κ H) (Deed κ H)} :
      Visits c n p s s
  /-- After a look at the host. -/
  | readHost {n : Nat} {β : Type} {next : H → Program κ H β}
      {s t : Scene (Session κ H) (Deed κ H)} (h : Visits c n (next s.state.host) s t) :
      Visits c n (.readHost next) s t
  /-- After a change of the host. -/
  | writeHost {n : Nat} {β : Type} {host : H} {next : Program κ H β}
      {s t : Scene (Session κ H) (Deed κ H)} (h : Visits c n next (record s [.changed host]) t) :
      Visits c n (.writeHost host next) s t
  /-- In the callback that is invoked for a name. -/
  | resolving {n : Nat} {β : Type} {name : String}
      {next : Upshot ConversionError ServiceId → Program κ H β}
      {s t : Scene (Session κ H) (Deed κ H)} {k : κ} (hk : s.state.resolver.callback? = some k)
      (hid : s.state.resolver.cached? name (c.generation k s.state.host) = none)
      (h : Visits c n (c.answer k { name })
        (record s (openingDeeds k name (c.generation k s.state.host))) t) :
      Visits c (n + 1) (.resolve name next) s t
  /-- After a name was resolved, or a panic was caught. -/
  | resolved {n : Nat} {β : Type} {name : String}
      {next : Upshot ConversionError ServiceId → Program κ H β}
      {s t u : Scene (Session κ H) (Deed κ H)} {upshot : Upshot ConversionError ServiceId}
      (hresolve : Act.rescue (c.resolve n name) s = (.ok upshot, u))
      (h : Visits c n (next upshot) u t) : Visits c n (.resolve name next) s t
  /-- After an id was forgotten. -/
  | invalidated {n : Nat} {β : Type} {name : String} {next : Option ServiceId → Program κ H β}
      {s t : Scene (Session κ H) (Deed κ H)}
      (h : Visits c n (next (s.state.resolver.kept? name)) (record s [.invalidated name]) t) :
      Visits c n (.invalidate name next) s t
  /-- After all ids were forgotten. -/
  | cleared {n : Nat} {β : Type} {next : Program κ H β} {s t : Scene (Session κ H) (Deed κ H)}
      (h : Visits c n next (record s [.cleared]) t) : Visits c n (.clear next) s t
  /-- After a look at the resolver. -/
  | status {n : Nat} {β : Type} {next : Status → Program κ H β}
      {s t : Scene (Session κ H) (Deed κ H)} (h : Visits c n (next s.state.resolver.status) s t) :
      Visits c n (.status next) s t
  /-- In a callback that is asked directly. -/
  | asking {n : Nat} {β : Type} {k : κ} {name : String}
      {next : Except String Answer → Program κ H β} {s t : Scene (Session κ H) (Deed κ H)}
      (h : Visits c n (c.answer k { name }) s t) : Visits c (n + 1) (.ask k name next) s t
  /-- After a callback was asked directly, or its panic was caught. -/
  | asked {n : Nat} {β : Type} {k : κ} {name : String}
      {next : Except String Answer → Program κ H β} {s t u : Scene (Session κ H) (Deed κ H)}
      {upshot : Except String (Outcome × Event)}
      (hask : Act.rescue (Session.invoke c n k { name }) s = (.ok upshot, u))
      (h : Visits c n (next (telling upshot)) u t) : Visits c n (.ask k name next) s t

/-- The scenes in which the host is in control during a run: between the moves, and in the callbacks
that are invoked for the names it asks for. -/
inductive Surroundings.Visits (w : Surroundings κ H χ) (depth : Nat) : List (Move κ χ) →
    Scene (Session κ H) (Deed κ H) → Scene (Session κ H) (Deed κ H) → Prop where
  /-- Before the first move, and after the last one. -/
  | here {moves : List (Move κ χ)} {s : Scene (Session κ H) (Deed κ H)} : Visits w depth moves s s
  /-- While the first move asks for a name. -/
  | within {move : Move κ χ} {moves : List (Move κ χ)} {s t : Scene (Session κ H) (Deed κ H)}
      {name : String} (hname : move.name? = some name)
      (h : (Program.resolve name .finish).Visits w.toCallbacks depth s t) :
      Visits w depth (move :: moves) s t
  /-- Later. -/
  | later {move : Move κ χ} {moves : List (Move κ χ)} {s t : Scene (Session κ H) (Deed κ H)}
      (h : Visits w depth moves (w.perform depth move s).2 t) : Visits w depth (move :: moves) s t

/-- The scene that a run leaves is one in which the host is in control. -/
theorem Surroundings.visits_after (w : Surroundings κ H χ) (depth : Nat) (moves : List (Move κ χ))
    (s : Scene (Session κ H) (Deed κ H)) : w.Visits depth moves s (w.after depth moves s) := by
  induction moves generalizing s with
  | nil => exact .here
  | cons move moves ih => exact .later (ih _)

/-! ## Allowed changes -/

/-- The program, run over this host, changes the host in allowed ways only. What it learns from
others it cannot know in advance, nor what they do to the host. -/
def Program.Keeps (allowed : H → H → Prop) : Program κ H β → H → Prop
  | .finish _, _ => True
  | .panic _, _ => True
  | .readHost next, host => (next host).Keeps allowed host
  | .writeHost host' next, host => allowed host host' ∧ next.Keeps allowed host'
  | .resolve _ next, _ => ∀ upshot host, (next upshot).Keeps allowed host
  | .invalidate _ next, host => ∀ id?, (next id?).Keeps allowed host
  | .clear next, host => next.Keeps allowed host
  | .status next, host => ∀ s, (next s).Keeps allowed host
  | .ask _ _ next, _ => ∀ upshot host, (next upshot).Keeps allowed host

/-- Callbacks that change the host in allowed ways only. -/
def Callbacks.Keeps (c : Callbacks κ H) (allowed : H → H → Prop) : Prop :=
  ∀ k name host, (c.answer k { name }).Keeps allowed host

/-- Callbacks, and changes, that change the host in allowed ways only. -/
structure Surroundings.Keeps (w : Surroundings κ H χ) (allowed : H → H → Prop) : Prop where
  /-- The callbacks keep to what is allowed. -/
  answer : w.toCallbacks.Keeps allowed
  /-- The host keeps to it on its own. -/
  change : ∀ x host, allowed host (w.change x host)

/-- Where everything is allowed every program keeps to it. -/
theorem Program.keeps_of_forall {allowed : H → H → Prop} (h : ∀ host host', allowed host host')
    (p : Program κ H β) (host : H) : p.Keeps allowed host := by
  induction p generalizing host with
  | finish | panic => trivial
  | readHost next ih => exact ih host host
  | writeHost host' next ih => exact ⟨h host host', ih host'⟩
  | resolve name next ih => exact fun upshot host => ih upshot host
  | invalidate name next ih => exact fun id? => ih id? host
  | clear next ih => exact ih host
  | status next ih => exact fun s => ih s host
  | ask k name next ih => exact fun upshot host => ih upshot host

theorem Surroundings.keeps_of_forall {allowed : H → H → Prop}
    (h : ∀ host host', allowed host host') (w : Surroundings κ H χ) : w.Keeps allowed :=
  ⟨fun _ _ host => Program.keeps_of_forall h _ host, fun _ host => h host _⟩

/-- A program that keeps to what is allowed can be followed by another one. -/
theorem Program.Keeps.andThen {γ : Type} {allowed : H → H → Prop} {p : Program κ H β}
    {f : β → Program κ H γ} {host : H} (hp : p.Keeps allowed host)
    (hf : ∀ b host, (f b).Keeps allowed host) : (p.andThen f).Keeps allowed host := by
  induction p generalizing host with
  | finish b => exact hf b host
  | panic => trivial
  | readHost next ih => exact ih host hp
  | writeHost host' next ih => exact ⟨hp.1, ih hp.2⟩
  | resolve name next ih => exact fun upshot host => ih upshot (hp upshot host)
  | invalidate name next ih => exact fun id? => ih id? (hp id?)
  | clear next ih => exact ih hp
  | status next ih => exact fun s => ih s (hp s)
  | ask k name next ih => exact fun upshot host => ih upshot (hp upshot host)

/-! ## Justified journals -/

/-- The callback that a deed registers. -/
def Deed.callback? : Deed κ H → Option κ
  | .registered k => some k
  | _ => none

section

variable (c : Callbacks κ H) (allowed : H → H → Prop) (start : Scene (Session κ H) (Deed κ H))

/-- In the run from `start` that has just noted these deeds, the callback `k` was invoked for a name
and has given this answer: outcome, and slot of the event it was invoked with. It was the registered
callback, it reported this generation just before, and no other one was registered meanwhile. -/
inductive Invoked (k : κ) (name : String) :
    List (Deed κ H) → Option UInt64 → Answer → Prop where
  | answered {past during : List (Deed κ H)} {depth : Nat} {outcome : Outcome} {event : Event}
      (hk : (start.state.after past).resolver.callback? = some k)
      (hduring : ∀ d ∈ during, d.callback? = none)
      (hinvoke : Session.invoke c depth k { name }
          (record start
            (past ++ openingDeeds k name (c.generation k (start.state.after past).host))) =
        (.ok (outcome, event), record start
          (past ++ openingDeeds k name (c.generation k (start.state.after past).host) ++ during))) :
      Invoked k name
        (past ++ openingDeeds k name (c.generation k (start.state.after past).host) ++ during)
        (c.generation k (start.state.after past).host) (outcome, event.id?)

/-- What justifies a deed after the deeds `J`. -/
def Admissible (J : List (Deed κ H)) : Deed κ H → Prop
  | .changed host => allowed (start.state.after J).host host
  | .consulted k name generation outcome id? =>
    Invoked c start k name J generation (outcome, id?)
  | _ => True

/-- Each deed is justified by those before it. -/
inductive Justified : List (Deed κ H) → Prop where
  | nil : Justified []
  | snoc {J : List (Deed κ H)} {d : Deed κ H} (h : Justified J)
      (hd : Admissible c allowed start J d) : Justified (J ++ [d])

variable {c allowed start} in
theorem Justified.of_concat {J : List (Deed κ H)} {d : Deed κ H}
    (h : Justified c allowed start (J ++ [d])) :
    Justified c allowed start J ∧ Admissible c allowed start J d := by
  generalize hL : J ++ [d] = L at h
  cases h with
  | nil => exact absurd hL (by simp)
  | snoc h hd =>
    obtain ⟨rfl, heq⟩ := List.append_inj' hL rfl
    obtain rfl := List.singleton_inj.mp heq
    exact ⟨h, hd⟩

variable {c allowed start} in
/-- Each deed of a justified journal was admissible when it was noted. -/
theorem Justified.admissible {past rest : List (Deed κ H)} {d : Deed κ H}
    (h : Justified c allowed start (past ++ d :: rest)) : Admissible c allowed start past d := by
  induction rest using List.reverseRecOn with
  | nil => exact h.of_concat.2
  | append_singleton rest e ih =>
    rw [← List.cons_append, ← List.append_assoc] at h
    exact ih h.of_concat.1

/-- A journal goes on with justified deeds, none of which registers a callback. -/
structure Advance (J J' : List (Deed κ H)) : Prop where
  /-- All deeds are justified. -/
  justified : Justified c allowed start J'
  /-- The new deeds come after the old ones and register nothing. -/
  append : ∃ K, J' = J ++ K ∧ ∀ d ∈ K, d.callback? = none

variable {c allowed start} {J J' J'' : List (Deed κ H)} {n : Nat}

theorem Advance.refl (h : Justified c allowed start J) : Advance c allowed start J J :=
  ⟨h, [], by simp, by simp⟩

theorem Advance.trans (h : Advance c allowed start J J') (h' : Advance c allowed start J' J'') :
    Advance c allowed start J J'' := by
  obtain ⟨K, rfl, hK⟩ := h.append
  obtain ⟨K', rfl, hK'⟩ := h'.append
  refine ⟨h'.justified, K ++ K', List.append_assoc J K K', fun d hd => ?_⟩
  rcases List.mem_append.mp hd with hd | hd
  · exact hK d hd
  · exact hK' d hd

theorem Advance.snoc {d : Deed κ H} (h : Justified c allowed start J)
    (hd : Admissible c allowed start J d) (hreg : d.callback? = none) :
    Advance c allowed start J (J ++ [d]) :=
  ⟨h.snoc hd, [d], rfl, by simpa using hreg⟩

/-- Deeds that need no justification, and register nothing. -/
def Deed.Idle : Deed κ H → Prop
  | .changed _ => False
  | .consulted .. => False
  | .registered _ => False
  | _ => True

theorem Advance.of_idle {K : List (Deed κ H)} (h : Justified c allowed start J)
    (hK : ∀ d ∈ K, d.Idle) : Advance c allowed start J (J ++ K) := by
  induction K generalizing J with
  | nil => simpa using Advance.refl h
  | cons d K ih =>
    have hd : Admissible c allowed start J d ∧ d.callback? = none := by
      have hidle := hK d List.mem_cons_self
      cases d <;> first | exact hidle.elim | exact ⟨trivial, rfl⟩
    have hone : Advance c allowed start J (J ++ [d]) := Advance.snoc h hd.1 hd.2
    have hrest := ih hone.justified fun d' hd' => hK d' (List.mem_cons_of_mem d hd')
    rw [List.append_assoc] at hrest
    exact hone.trans hrest

theorem Deed.Idle.callback?_eq_none {d : Deed κ H} (h : d.Idle) : d.callback? = none := by
  cases d with
  | registered k => exact h.elim
  | _ => rfl

theorem idle_of_mem_unansweredDeeds {name : String} {d : Deed κ H}
    (hd : d ∈ unansweredDeeds name) : d.Idle := by
  simp only [unansweredDeeds, List.mem_cons, List.not_mem_nil, or_false] at hd
  rcases hd with rfl | rfl | rfl <;> trivial

theorem idle_of_mem_servedDeeds {name : String} {g? : Option UInt64} {id : ServiceId}
    {d : Deed κ H} (hd : d ∈ servedDeeds name g? id) : d.Idle := by
  simp only [servedDeeds, List.mem_cons, List.not_mem_nil, or_false] at hd
  rcases hd with rfl | rfl | rfl <;> trivial

theorem idle_of_mem_openingDeeds {k : κ} {name : String} {g? : Option UInt64} {d : Deed κ H}
    (hd : d ∈ openingDeeds k name g?) : d.Idle := by
  simp only [openingDeeds, List.mem_cons, List.not_mem_nil, or_false] at hd
  rcases hd with rfl | rfl <;> trivial

/-- What is noted about an answer needs no justification but that it was given. -/
theorem idle_of_mem_newsDeeds {r : Resolver κ} {name : String} {g? : Option UInt64} {a : Answer}
    {d : Deed κ H} (hd : d ∈ newsDeeds r name g? a) : d.Idle := by
  have hreported : ∃ event, d = .reported event := by
    unfold newsDeeds at hd
    split at hd
    · rcases List.mem_cons.mp hd with rfl | hd
      · exact ⟨_, rfl⟩
      · split at hd
        · split at hd
          · exact ⟨_, List.mem_singleton.mp hd⟩
          · exact absurd hd List.not_mem_nil
        · exact absurd hd List.not_mem_nil
    · exact ⟨_, List.mem_singleton.mp hd⟩
    · exact ⟨_, List.mem_singleton.mp hd⟩
  obtain ⟨event, rfl⟩ := hreported
  trivial

/-- Without a registration the registered callback stays the same. -/
theorem callback?_after {K : List (Deed κ H)} (hK : ∀ d ∈ K, d.callback? = none)
    (s : Session κ H) : (s.after K).resolver.callback? = s.resolver.callback? := by
  induction K generalizing s with
  | nil => rfl
  | cons d K ih =>
    have hd : (s.next d).resolver.callback? = s.resolver.callback? := by
      have hreg := hK d List.mem_cons_self
      unfold Session.next
      split <;> first | rfl | exact absurd hreg nofun
    rw [Session.after_cons, ih (fun e he => hK e (List.mem_cons_of_mem d he)), hd]

/-! ## Acts that advance the journal -/

/-- A scene that its journal tells all about, the journal having advanced from the deeds `J`. -/
def Reaches (c : Callbacks κ H) (allowed : H → H → Prop)
    (start : Scene (Session κ H) (Deed κ H)) (J : List (Deed κ H))
    (t : Scene (Session κ H) (Deed κ H)) : Prop :=
  ∃ J', t = record start J' ∧ Advance c allowed start J J'

theorem Reaches.of_advance {t : Scene (Session κ H) (Deed κ H)}
    (h : Advance c allowed start J J') (h' : Reaches c allowed start J' t) :
    Reaches c allowed start J t := by
  obtain ⟨J'', rfl, hadvance⟩ := h'
  exact ⟨J'', rfl, h.trans hadvance⟩

/-- The act, done after the deeds `J`, leaves a scene that its journal tells all about. -/
def Advances {ε α : Type} (c : Callbacks κ H) (allowed : H → H → Prop)
    (start : Scene (Session κ H) (Deed κ H)) (J : List (Deed κ H))
    (a : Act (Session κ H) (Deed κ H) ε α) : Prop :=
  Reaches c allowed start J (a (record start J)).2

theorem Advances.reaches {ε α : Type} {e : Ending ε α} {t : Scene (Session κ H) (Deed κ H)}
    {a : Act (Session κ H) (Deed κ H) ε α} (h : Advances c allowed start J a)
    (ha : a (record start J) = (e, t)) : Reaches c allowed start J t := by
  rwa [Advances, ha] at h

theorem Advances.of_record {ε α : Type} {e : Ending ε α} {K : List (Deed κ H)}
    {a : Act (Session κ H) (Deed κ H) ε α}
    (ha : a (record start J) = (e, record (record start J) K))
    (h : Advance c allowed start J (J ++ K)) : Advances c allowed start J a :=
  ⟨J ++ K, by rw [ha, record_append], h⟩

/-- Catching panics changes nothing about the scene. -/
theorem Advances.rescue {ε α : Type} {a : Act (Session κ H) (Deed κ H) ε α}
    (h : Advances c allowed start J a) : Advances c allowed start J (Act.rescue a) := by
  rwa [Advances, Act.scene_rescue]

/-- An act that begins with some deeds and then does what another one does. -/
theorem Advances.of_eq {ε α : Type} {a b : Act (Session κ H) (Deed κ H) ε α}
    (h : Advance c allowed start J J') (heq : a (record start J) = b (record start J'))
    (hb : Advances c allowed start J' b) : Advances c allowed start J a := by
  rw [Advances, heq]
  exact hb.of_advance h

/-- An act followed by another one, which starts where the first one ends well. -/
theorem Advances.bind {ε α γ : Type} {a : Act (Session κ H) (Deed κ H) ε α}
    {f : α → Act (Session κ H) (Deed κ H) ε γ} (ha : Advances c allowed start J a)
    (hf : ∀ x J', a (record start J) = (.ok x, record start J') →
      Advance c allowed start J J' → Advances c allowed start J' (f x)) :
    Advances c allowed start J (a >>= f) := by
  rcases heq : a (record start J) with ⟨e, t⟩
  obtain ⟨J', rfl, hadvance⟩ := ha.reaches heq
  cases e with
  | ok x =>
    obtain ⟨J'', hJ'', hadvance'⟩ := hf x J' heq hadvance
    exact ⟨J'', by rw [Act.bind_of_ok heq, hJ''], hadvance.trans hadvance'⟩
  | error e => exact ⟨J', by rw [Act.bind_of_error heq], hadvance⟩
  | panicked m => exact ⟨J', by rw [Act.bind_of_panicked heq], hadvance⟩
  | unfinished => exact ⟨J', by rw [Act.bind_of_unfinished heq], hadvance⟩

/-- A callback that has answered justifies what is noted about its answer. -/
theorem Advance.close {k : κ} {name : String} {outcome : Outcome} {event : Event}
    {g? : Option UInt64} (hk : (start.state.after J).resolver.callback? = some k)
    (hg : c.generation k (start.state.after J).host = g?)
    (h : Advance c allowed start (J ++ openingDeeds k name g?) J')
    (hinvoke : Session.invoke c n k { name } (record start (J ++ openingDeeds k name g?)) =
      (.ok (outcome, event), record start J')) (r : Resolver κ) :
    Advance c allowed start J' (J' ++ closingDeeds r k name g? (outcome, event.id?)) := by
  subst hg
  obtain ⟨during, rfl, hduring⟩ := h.append
  have hconsulted := Advance.snoc h.justified
    (d := .consulted k name (c.generation k (start.state.after J).host) outcome event.id?)
    (.answered hk hduring hinvoke) rfl
  have hrest := Advance.of_idle hconsulted.justified
    (K := newsDeeds r name (c.generation k (start.state.after J).host) (outcome, event.id?) ++
      [.ended name (verdict name (outcome, event.id?))]) fun d hd => by
    rcases List.mem_append.mp hd with hd | hd
    · exact idle_of_mem_newsDeeds hd
    · obtain rfl := List.mem_singleton.mp hd
      trivial
  rw [List.append_assoc _ [_]] at hrest
  exact hconsulted.trans hrest

/-- What is noted before a callback is invoked needs no justification. -/
theorem Advance.opening (h : Justified c allowed start J) (k : κ) (name : String)
    (g? : Option UInt64) : Advance c allowed start J (J ++ openingDeeds k name g?) :=
  Advance.of_idle h fun _ hd => idle_of_mem_openingDeeds hd

/-- Resolving advances the journal if invoking callbacks does. -/
theorem advances_resolve (hJ : Justified c allowed start J)
    (hinvoke : ∀ k name J, Justified c allowed start J →
      Advances c allowed start J (Session.invoke c n k { name })) (name : String) :
    Advances c allowed start J (c.resolve n name) := by
  have hstate : (record start J).state = start.state.after J := state_record start J
  rcases hk : (start.state.after J).resolver.callback? with _ | k
  · exact Advances.of_record (resolve_of_none (by rw [hstate, hk]))
      (Advance.of_idle hJ fun _ hd => idle_of_mem_unansweredDeeds hd)
  generalize hg : c.generation k (start.state.after J).host = g?
  rcases hid : (start.state.after J).resolver.cached? name g? with _ | id
  · have hresolve : c.resolve n name (record start J) =
        (Session.invoke c n k { name } >>= Session.close k name g?)
          (record start (J ++ openingDeeds k name g?)) := by
      rw [Callbacks.resolve, resolve_of_cached?_none (by rw [hstate, hk]) (by rw [hstate, hg, hid]),
        hstate, hg, ← record_append]
    have hopening := Advance.opening hJ k name g?
    have hbind : Advances c allowed start (J ++ openingDeeds k name g?)
        (Session.invoke c n k { name } >>= Session.close k name g?) := by
      refine Advances.bind (hinvoke k name _ hopening.justified) ?_
      rintro ⟨outcome, event⟩ J' hasked hadvance
      exact Advances.of_record (close_apply _ _ _ _ _ _) (hadvance.close hk hg hasked _)
    obtain ⟨J', hJ', hadvance⟩ := hbind
    exact ⟨J', by rw [hresolve, hJ'], hopening.trans hadvance⟩
  · exact Advances.of_record (resolve_of_some (by rw [hstate, hk]) (by rw [hstate, hg, hid]))
      (Advance.of_idle hJ fun _ hd => idle_of_mem_servedDeeds hd)

/-- Code of the host's that keeps to what is allowed advances the journal if invoking callbacks
does. -/
theorem advances_play {p : Program κ H β} (hJ : Justified c allowed start J)
    (hinvoke : ∀ k name J, Justified c allowed start J →
      Advances c allowed start J (Session.invoke c n k { name }))
    (hp : p.Keeps allowed (start.state.after J).host) :
    Advances c allowed start J (p.play c (Session.invoke c n)) := by
  have hhost : ∀ J, (record start J).state.host = (start.state.after J).host := fun J => by
    rw [state_record]
  induction p generalizing J with
  | finish b => exact ⟨J, rfl, .refl hJ⟩
  | panic m => exact ⟨J, rfl, .refl hJ⟩
  | readHost next ih =>
    refine Advances.of_eq (.refl hJ) ?_ (ih (start.state.after J).host hJ hp)
    rw [← hhost]
    rfl
  | writeHost host next ih =>
    have hchange : Advance c allowed start J (J ++ [.changed host]) := .snoc hJ hp.1 rfl
    refine Advances.of_eq hchange ?_ (ih hchange.justified ?_)
    · rw [record_append]
      rfl
    · rw [Session.after_append]
      exact hp.2
  | resolve name next ih =>
    exact Advances.bind (advances_resolve hJ hinvoke name).rescue fun upshot J' _ hadvance =>
      ih upshot hadvance.justified (hp upshot _)
  | invalidate name next ih =>
    have hforget : Advance c allowed start J (J ++ [.invalidated name]) := .snoc hJ trivial rfl
    refine Advances.of_eq hforget ?_
      (ih ((record start J).state.resolver.kept? name) hforget.justified ?_)
    · rw [record_append]
      rfl
    · rw [Session.after_append]
      exact hp _
  | clear next ih =>
    have hclear : Advance c allowed start J (J ++ [.cleared]) := .snoc hJ trivial rfl
    refine Advances.of_eq hclear ?_ (ih hclear.justified ?_)
    · rw [record_append]
      rfl
    · rw [Session.after_append]
      exact hp
  | status next ih =>
    exact Advances.of_eq (.refl hJ) rfl (ih (record start J).state.resolver.status hJ (hp _))
  | ask k name next ih =>
    exact Advances.bind (hinvoke k name J hJ).rescue fun upshot J' _ hadvance =>
      ih (telling upshot) hadvance.justified (hp _ _)

/-- **Invoking a callback** advances the journal, however deep callbacks may nest. -/
theorem advances_invoke (hc : c.Keeps allowed) (n : Nat) (k : κ) (name : String)
    (hJ : Justified c allowed start J) :
    Advances c allowed start J (Session.invoke c n k { name }) := by
  induction n generalizing k name J with
  | zero => exact ⟨J, rfl, .refl hJ⟩
  | succ n ih =>
    exact advances_play hJ (fun k name J hJ => ih k name hJ) (hc k name _)

/-- **A resolve that returns** found no callback, or was served, or was told an answer by the one
invocation of the callback it made. -/
theorem Justified.resolve_cases (hc : c.Keeps allowed) (hJ : Justified c allowed start J)
    {name : String} {result : Except ConversionError ServiceId}
    {t : Scene (Session κ H) (Deed κ H)}
    (h : c.resolve n name (record start J) = (.ok result, t)) :
    ((start.state.after J).resolver.callback? = none ∧
        result = .error (.serviceNotFound name .noCallback)) ∨
      ∃ k g?, (start.state.after J).resolver.callback? = some k ∧
        c.generation k (start.state.after J).host = g? ∧
        ((∃ id, (start.state.after J).resolver.cached? name g? = some id ∧ result = .ok id ∧
            t = record start (J ++ servedDeeds name g? id)) ∨
          ∃ outcome event J', Advance c allowed start (J ++ openingDeeds k name g?) J' ∧
            Session.invoke c n k { name } (record start (J ++ openingDeeds k name g?)) =
              (.ok (outcome, event), record start J') ∧
            result = verdict name (outcome, event.id?) ∧
            t = record start (J' ++ closingDeeds (start.state.after J').resolver k name g?
              (outcome, event.id?))) := by
  have hstate : (record start J).state = start.state.after J := state_record start J
  rw [Callbacks.resolve] at h
  rcases hk : (start.state.after J).resolver.callback? with _ | k
  · rw [resolve_of_none (by rw [hstate, hk])] at h
    obtain ⟨heq, -⟩ := Prod.mk.inj h
    exact .inl ⟨rfl, (Ending.ok.inj heq).symm⟩
  refine .inr ⟨k, c.generation k (start.state.after J).host, rfl, rfl, ?_⟩
  rcases hid : (start.state.after J).resolver.cached? name
      (c.generation k (start.state.after J).host) with _ | id
  · rw [resolve_of_cached?_none (by rw [hstate, hk]) (by rw [hstate, hid]), hstate,
      ← record_append] at h
    rcases hinvoke : Session.invoke c n k { name } (record start
      (J ++ openingDeeds k name (c.generation k (start.state.after J).host))) with ⟨e, u⟩
    obtain ⟨J', rfl, hadvance⟩ := (advances_invoke hc n k name
      (Advance.opening hJ k name (c.generation k (start.state.after J).host)).justified).reaches
        hinvoke
    cases e with
    | ok answer =>
      obtain ⟨outcome, event⟩ := answer
      rw [Act.bind_of_ok hinvoke, close_apply, state_record, ← record_append] at h
      obtain ⟨heq, rfl⟩ := Prod.mk.inj h
      exact .inr ⟨outcome, event, J', hadvance, rfl, (Ending.ok.inj heq).symm, rfl⟩
    | error e => exact e.elim
    | panicked m =>
      rw [Act.bind_of_panicked hinvoke] at h
      exact absurd (Prod.mk.inj h).1 nofun
    | unfinished =>
      rw [Act.bind_of_unfinished hinvoke] at h
      exact absurd (Prod.mk.inj h).1 nofun
  · rw [resolve_of_some (by rw [hstate, hk]) (by rw [hstate, hid]), hstate, ← record_append] at h
    obtain ⟨heq, rfl⟩ := Prod.mk.inj h
    exact .inl ⟨id, rfl, (Ending.ok.inj heq).symm, rfl⟩

/-! ## All scenes in which the host is in control -/

/-- **A scene that code of the host's visits** is told all about by its journal, which has advanced
since the code began. -/
theorem Program.Visits.reaches (hc : c.Keeps allowed) {p : Program κ H β}
    {s t : Scene (Session κ H) (Deed κ H)} (h : p.Visits c n s t) (hs : s = record start J)
    (hJ : Justified c allowed start J) (hp : p.Keeps allowed s.state.host) :
    Reaches c allowed start J t := by
  have hinvoke : ∀ n k name J, Justified c allowed start J →
      Advances c allowed start J (Session.invoke c n k { name }) := fun n k name J hJ =>
    advances_invoke hc n k name hJ
  have hrecord : ∀ {J s K}, s = record start J → record s K = record start (J ++ K) := by
    rintro J s K rfl
    rw [record_append]
  induction h generalizing J with
  | here => exact ⟨J, hs, .refl hJ⟩
  | readHost h ih => exact ih hs hJ hp
  | @writeHost n β host next s t h ih =>
    have hchange : Advance c allowed start J (J ++ [.changed host]) := by
      refine .snoc hJ ?_ rfl
      have hallowed := hp.1
      rwa [hs, state_record] at hallowed
    exact (ih (hrecord hs) hchange.justified hp.2).of_advance hchange
  | @resolving n β name next s t k hk hid h ih =>
    have hopening := Advance.opening hJ k name (c.generation k s.state.host)
    exact (ih (hrecord hs) hopening.justified (hc k name _)).of_advance hopening
  | @resolved n β name next s t u upshot hresolve h ih =>
    obtain ⟨J', hu, hadvance⟩ :=
      (advances_resolve hJ (hinvoke n) name).rescue.reaches (hs ▸ hresolve)
    exact (ih hu hadvance.justified (hp upshot _)).of_advance hadvance
  | @invalidated n β name next s t h ih =>
    have hforget : Advance c allowed start J (J ++ [.invalidated name]) := .snoc hJ trivial rfl
    exact (ih (hrecord hs) hforget.justified (hp _)).of_advance hforget
  | cleared h ih =>
    have hclear : Advance c allowed start J (J ++ [.cleared]) := .snoc hJ trivial rfl
    exact (ih (hrecord hs) hclear.justified hp).of_advance hclear
  | status h ih => exact ih hs hJ (hp _)
  | @asking n β k name next s t h ih => exact ih hs hJ (hc k name _)
  | @asked n β k name next s t u upshot hask h ih =>
    obtain ⟨J', hu, hadvance⟩ := (hinvoke n k name J hJ).rescue.reaches (hs ▸ hask)
    exact (ih hu hadvance.justified (hp _ _)).of_advance hadvance

/-- A move that asks for a name leaves the scene that resolving the name leaves. -/
theorem scene_perform_of_name? (w : Surroundings κ H χ) (depth : Nat) {move : Move κ χ}
    {name : String} (h : move.name? = some name) (s : Scene (Session κ H) (Deed κ H)) :
    (w.perform depth move s).2 = (w.resolve depth name s).2 := by
  cases move with
  | resolve other =>
    obtain rfl : other = name := Option.some.inj h
    simp only [Surroundings.perform, Act.bind_apply]
    rcases w.resolve depth other s with ⟨_ | _ | _ | _, t⟩ <;> rfl
  | lookup other =>
    obtain rfl : other = name := Option.some.inj h
    simp only [Surroundings.perform, Callbacks.lookup, Act.bind_apply]
    rcases w.resolve depth other s with ⟨(_ | _) | _ | _ | _, t⟩ <;> rfl
  | _ => cases h

/-- A move made after a justified journal leaves a justified journal that tells all. -/
theorem exists_record_perform {w : Surroundings κ H χ} (hw : w.Keeps allowed)
    (depth : Nat) (move : Move κ χ) (hJ : Justified w.toCallbacks allowed start J) :
    ∃ J', (w.perform depth move (record start J)).2 = record start J' ∧
      Justified w.toCallbacks allowed start J' := by
  have hresolve : ∀ name, move.name? = some name →
      ∃ J', (w.perform depth move (record start J)).2 = record start J' ∧
        Justified w.toCallbacks allowed start J' := by
    intro name hname
    obtain ⟨J', hJ', hadvance⟩ := advances_resolve hJ
      (fun k name J hJ => advances_invoke hw.answer depth k name hJ) name
    exact ⟨J', by rw [scene_perform_of_name? w depth hname, hJ'], hadvance.justified⟩
  have hnote : ∀ d, Admissible w.toCallbacks allowed start J d →
      ∃ J', record (record start J) [d] = record start J' ∧
        Justified w.toCallbacks allowed start J' := fun d hd =>
    ⟨J ++ [d], (record_append start J [d]).symm, hJ.snoc hd⟩
  cases move with
  | change x => exact hnote (.changed _) (by rw [state_record]; exact hw.change x _)
  | resolve name => exact hresolve name rfl
  | lookup name => exact hresolve name rfl
  | invalidate name => exact hnote (.invalidated name) trivial
  | clear => exact hnote .cleared trivial
  | register k => exact hnote (.registered k) trivial

theorem Surroundings.Visits.exists_record_of_eq {w : Surroundings κ H χ} (hw : w.Keeps allowed)
    {depth : Nat} {moves : List (Move κ χ)} {s t : Scene (Session κ H) (Deed κ H)}
    (h : w.Visits depth moves s t) (hs : s = record start J)
    (hJ : Justified w.toCallbacks allowed start J) :
    ∃ J', t = record start J' ∧ Justified w.toCallbacks allowed start J' := by
  induction h generalizing J with
  | here => exact ⟨J, hs, hJ⟩
  | within hname h =>
    obtain ⟨J', ht, hadvance⟩ := h.reaches hw.answer hs hJ fun _ _ => trivial
    exact ⟨J', ht, hadvance.justified⟩
  | later h ih =>
    obtain ⟨J', hJ', hjustified⟩ := exists_record_perform hw _ _ hJ
    rw [← hs] at hJ'
    exact ih hJ' hjustified

/-- **Every scene of a run in which the host is in control** is told all about by its journal, and
the journal is justified. -/
theorem Surroundings.Visits.exists_record {w : Surroundings κ H χ} (hw : w.Keeps allowed)
    {depth : Nat} {moves : List (Move κ χ)} {t : Scene (Session κ H) (Deed κ H)}
    (h : w.Visits depth moves start t) :
    ∃ J, t = record start J ∧ Justified w.toCallbacks allowed start J :=
  h.exists_record_of_eq hw rfl .nil

end

/-! ## A run with an unreliable callback -/

/-- A callback that changes its mind while it answers, asks for another name in between, moves its
generation on, and fails or forgets to answer for some names. -/
def fickle : Surroundings Unit (Option UInt64) (Option UInt64) where
  generation _ host := host
  answer _ event :=
    if event.name = "A" then
      .writeHost (some 7) (.resolve "B" fun _ => .finish (.success, (event.assign 1).assign 2))
    else if event.name = "B" then .finish (.success, event.assign 3)
    else if event.name = "C" then .finish (.failure, event.assign 4)
    else .finish (.success, event)
  change generation _ := generation

/-- A run in which the id of a name is kept while the callback is being asked for another one. -/
def fickleMoves : List (Move Unit (Option UInt64)) := [.register (), .change (some 5), .resolve "A"]

/-- The scene after that run. -/
def fickleScene : Scene (Session Unit (Option UInt64)) (Deed Unit (Option UInt64)) :=
  fickle.after 2 fickleMoves (Session.start true none)

end Resolution

end ConverterKit
