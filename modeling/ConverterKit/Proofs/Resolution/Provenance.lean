import ConverterKit.Proofs.Resolution.History

/-!
# Ids are never made up

Whatever its callbacks do, a resolver passes on only what it was told: the id it answers for a name
was left in the slot of an event for that very name by a successful invocation of the callback that
is registered now, and the generation was the same just before that invocation as it is now. And if
it answers with an error, the error is about that name and gives the true cause.

Callbacks may answer differently every time, report any generation, and use the resolver while they
are asked.

## Main definitions

* `Testified`: the registered callback has been invoked for a name and has given an answer

## Main results

* `Justified.testified_of_standing?`, `Surroundings.Visits.testified_of_cached?`: the registered
  callback has testified to what is kept, and to what is served
* `Testified.of_invoke`: it has testified to what it has just answered
* `ids_never_fabricated`: where an id comes from, and what an error means
-/

namespace ConverterKit

namespace Resolution

variable {κ H χ : Type}

/-- In the run from `start` with the deeds `J`, the callback `k`, since it was registered, was
invoked for a name after reporting this generation, and has given this answer. -/
def Testified (c : Callbacks κ H) (start : Scene (Session κ H) (Deed κ H)) (J : List (Deed κ H))
    (k : κ) (name : String) (generation : Option UInt64) (a : Answer) : Prop :=
  ∃ past rest, J = past ++ .consulted k name generation a.1 a.2 :: rest ∧
    (∀ d ∈ rest, d.callback? = none) ∧ Invoked c start k name past generation a

/-- The two errors that the answer of a callback can lead to. -/
theorem verdict_eq_error_iff (name : String) {o : Outcome} {id? : Option ServiceId}
    {e : ConversionError} :
    verdict name (o, id?) = .error e ↔
      (o = .failure ∧ e = .serviceNotFound name .callbackFailure) ∨
        (o = .success ∧ id? = none ∧ e = .serviceNotFound name .missingId) := by
  cases o <;> cases id? <;> simp [verdict, eq_comm]

section

variable {c : Callbacks κ H} {allowed : H → H → Prop} {start : Scene (Session κ H) (Deed κ H)}
  {J J' : List (Deed κ H)} {k : κ} {name : String} {g? : Option UInt64} {a : Answer}

/-- Deeds that register nothing leave testimonies as they are. -/
theorem Testified.append {K : List (Deed κ H)} (h : Testified c start J k name g? a)
    (hK : ∀ d ∈ K, d.callback? = none) : Testified c start (J ++ K) k name g? a := by
  obtain ⟨past, rest, rfl, hrest, hinvoked⟩ := h
  refine ⟨past, rest ++ K, by rw [List.append_assoc, List.cons_append], fun d hd => ?_, hinvoked⟩
  rcases List.mem_append.mp hd with hd | hd
  · exact hrest d hd
  · exact hK d hd

/-- Invoking a callback registers no other one. -/
theorem Invoked.callback?_after (h : Invoked c start k name J g? a) :
    (start.state.after J).resolver.callback? = some k := by
  obtain ⟨hk, hduring, -⟩ := h
  rw [Session.after_append, Session.after_append, Resolution.callback?_after hduring]
  exact hk

/-- **The registered callback has testified to what is kept.** -/
theorem Justified.testified_of_standing? {id : ServiceId} (h : Justified c allowed start J)
    (hk : (start.state.after J).resolver.callback? = some k)
    (hid : standing? (sinceRegistered J) name = some id) :
    Testified c start J k name (some (peak (sinceRegistered J))) (.success, some id) := by
  obtain ⟨k', hmem⟩ := exists_mem_of_standing? hid
  obtain ⟨past, rest, hJ, hrest⟩ := exists_append_of_mem_sinceRegistered hmem
  rw [hJ] at h
  have hinvoked : Invoked c start k' name past (some (peak (sinceRegistered J)))
      (.success, some id) := h.admissible
  have hkeep : ∀ d ∈ Deed.consulted k' name (some (peak (sinceRegistered J))) .success (some id) ::
      rest, d.callback? = none := by
    intro d hd
    rcases List.mem_cons.mp hd with rfl | hd
    · rfl
    · exact hrest d hd
  have hk' : (start.state.after J).resolver.callback? = some k' := by
    rw [hJ, Session.after_append, callback?_after hkeep, hinvoked.callback?_after]
  obtain rfl : k' = k := Option.some.inj (hk'.symm.trans hk)
  exact ⟨past, rest, hJ, hrest, hinvoked⟩

/-- **A callback that has just answered has testified.** -/
theorem Testified.of_invoke {n : Nat} {outcome : Outcome} {event : Event} (r : Resolver κ)
    (hk : (start.state.after J).resolver.callback? = some k)
    (hg : c.generation k (start.state.after J).host = g?)
    (hJ' : Advance c allowed start (J ++ openingDeeds k name g?) J')
    (hinvoke : Session.invoke c n k { name } (record start (J ++ openingDeeds k name g?)) =
      (.ok (outcome, event), record start J')) :
    Testified c start (J' ++ closingDeeds r k name g? (outcome, event.id?)) k name g?
      (outcome, event.id?) := by
  subst hg
  obtain ⟨during, rfl, hduring⟩ := hJ'.append
  refine ⟨_, _, rfl, fun d hd => ?_, .answered hk hduring hinvoke⟩
  rcases List.mem_append.mp hd with hd | hd
  · exact (idle_of_mem_newsDeeds hd).callback?_eq_none
  · obtain rfl := List.mem_singleton.mp hd
    rfl

/-- **What is served from the cache has been testified to**, under the generation that was read. -/
theorem Surroundings.Visits.testified_of_cached? {w : Surroundings κ H χ} {depth : Nat}
    {moves : List (Move κ χ)} {caching : Bool} {host : H} {s : Scene (Session κ H) (Deed κ H)}
    (hs : w.Visits depth moves (Session.start caching host) s)
    (hk : s.state.resolver.callback? = some k) {id : ServiceId}
    (hid : s.state.resolver.cached? name g? = some id) :
    Testified w.toCallbacks (Session.start caching host) s.journal.toList k name g?
      (.success, some id) := by
  obtain ⟨rfl, hstanding⟩ := hs.standing?_of_cached? hid
  obtain ⟨J, rfl, hJ⟩ := hs.exists_record (w.keeps_of_forall fun _ _ => trivial)
  rw [state_record] at hk
  rw [toList_journal_record_start] at hstanding ⊢
  exact hJ.testified_of_standing? hk hstanding

end

/-! ## Where answers come from -/

/-- **Ids are never made up.** In every scene of a run in which the host is in control, and whatever
the callbacks do: an id that a name resolves to was told for that name by a successful invocation of
the registered callback, which had reported just before it the generation it reports now; and an
error is about that name, and gives as its cause that no callback is registered, or what the one
invocation made by this resolve has answered. -/
theorem ids_never_fabricated (w : Surroundings κ H χ) (depth : Nat) (moves : List (Move κ χ))
    (caching : Bool) (host : H) (s : Scene (Session κ H) (Deed κ H))
    (hs : w.Visits depth moves (Session.start caching host) s) (n : Nat) (name : String)
    (result : Except ConversionError ServiceId) (t : Scene (Session κ H) (Deed κ H))
    (ht : w.resolve n name s = (.ok result, t)) :
    (∀ id, result = .ok id → ∃ k, s.state.resolver.callback? = some k ∧
      Testified w.toCallbacks (Session.start caching host) t.journal.toList k name
        (w.generation k s.state.host) (.success, some id)) ∧
    ∀ e, result = .error e →
      (s.state.resolver.callback? = none ∧ e = .serviceNotFound name .noCallback) ∨
      ∃ k outcome event u, s.state.resolver.callback? = some k ∧
        Session.invoke w.toCallbacks n k { name }
            (record s (openingDeeds k name (w.generation k s.state.host))) =
          (.ok (outcome, event), u) ∧
        t = record u (closingDeeds u.state.resolver k name (w.generation k s.state.host)
          (outcome, event.id?)) ∧
        ((outcome = .failure ∧ e = .serviceNotFound name .callbackFailure) ∨
          (outcome = .success ∧ event.id? = none ∧ e = .serviceNotFound name .missingId)) := by
  have hkeeps : w.Keeps fun _ _ => True := w.keeps_of_forall fun _ _ => trivial
  obtain ⟨J, rfl, hJ⟩ := hs.exists_record hkeeps
  rw [state_record]
  rcases hJ.resolve_cases hkeeps.answer ht with ⟨hnone, rfl⟩ | ⟨k, g?, hk, hg, hresolved⟩
  · refine ⟨fun id hid => absurd hid nofun, fun e he => .inl ⟨hnone, ?_⟩⟩
    exact (Except.error.inj he).symm
  rcases hresolved with ⟨id, hid, rfl, rfl⟩ | ⟨outcome, event, J', hJ', hinvoke, rfl, rfl⟩
  · refine ⟨fun id' hid' => ⟨k, hk, ?_⟩, fun e he => absurd he nofun⟩
    obtain rfl : id = id' := Except.ok.inj hid'
    have htestified := hs.testified_of_cached? (by rw [state_record, hk])
      (by rw [state_record, hid])
    rw [toList_journal_record_start] at htestified ⊢
    rw [hg]
    exact htestified.append fun _ hd => (idle_of_mem_servedDeeds hd).callback?_eq_none
  · refine ⟨fun id hid => ⟨k, hk, ?_⟩, fun e he => .inr ⟨k, outcome, event,
      record (Session.start caching host) J', hk, ?_, ?_, ?_⟩⟩
    · have htestified := Testified.of_invoke
        ((Session.start caching host).state.after J').resolver hk hg hJ' hinvoke
      rw [toList_journal_record_start, hg, ← (verdict_eq_ok_iff name).mp hid]
      exact htestified
    · rw [hg, ← record_append]
      exact hinvoke
    · rw [hg, state_record, record_append]
    · exact (verdict_eq_error_iff name).mp he

/-- The id that was kept meanwhile is served, and it was told. -/
theorem ids_never_fabricated_fickle :
    fickle.resolve 2 "B" fickleScene = (.ok (.ok 3), (fickle.resolve 2 "B" fickleScene).2) ∧
    ∃ k, fickleScene.state.resolver.callback? = some k ∧
      Testified fickle.toCallbacks (Session.start true none)
        (fickle.resolve 2 "B" fickleScene).2.journal.toList k "B"
        (fickle.generation k fickleScene.state.host) (.success, some 3) := by
  have hresolve : fickle.resolve 2 "B" fickleScene =
      (.ok (.ok 3), (fickle.resolve 2 "B" fickleScene).2) := rfl
  exact ⟨hresolve, (ids_never_fabricated fickle 2 fickleMoves true none fickleScene
    (fickle.visits_after 2 fickleMoves _) 2 "B" (.ok 3) _ hresolve).1 3 rfl⟩

end Resolution

end ConverterKit
