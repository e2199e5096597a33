import ConverterKit.Proofs.Resolution.Truth

/-!
# The journal of a session tells its state

Everything that happens to a resolver and its host is noted as a deed, so a session can be replayed
from its journal: what a deed changes is `Session.next`, and the session after some deeds is
`Session.after`. An id is filed as soon as its callback has answered, since nobody can look at the
resolver between the answer and the filing.

For each operation there is an equation that says which deeds it notes. A resolve that is neither
served nor without a callback is one invocation of the callback followed by `Session.close`, which
invokes nobody.

## Main definitions

* `Session.next`, `Session.after`: a session after one deed, and after many
* `record`: a scene after further deeds
* `Session.close`, `closingDeeds`: what a resolve does once its callback has answered

## Main results

* `resolve_of_none`, `resolve_of_some`, `resolve_of_cached?_none`: the three ways of a resolve
* `close_apply`: what is noted once the callback has answered
-/

namespace ConverterKit

namespace Resolution

variable {κ H χ β : Type}

/-! ## Replaying a journal -/

/-- The session after a deed. -/
def Session.next (s : Session κ H) : Deed κ H → Session κ H
  | .consulted _ name (some g) .success (some id) =>
    { s with resolver := s.resolver.file name id g }
  | .invalidated name => { s with resolver := s.resolver.forget name }
  | .cleared => { s with resolver := s.resolver.clear }
  | .registered k => { s with resolver := s.resolver.register k }
  | .changed host => { s with host }
  | _ => s

/-- The session after some deeds, oldest first. -/
def Session.after (s : Session κ H) (J : List (Deed κ H)) : Session κ H := J.foldl next s

@[simp] theorem Session.after_nil (s : Session κ H) : s.after [] = s := rfl

@[simp] theorem Session.after_cons (s : Session κ H) (d : Deed κ H) (J : List (Deed κ H)) :
    s.after (d :: J) = (s.next d).after J := rfl

@[simp] theorem Session.after_append (s : Session κ H) (J K : List (Deed κ H)) :
    s.after (J ++ K) = (s.after J).after K :=
  List.foldl_append

/-- A scene after further deeds. -/
def record (s : Scene (Session κ H) (Deed κ H)) (J : List (Deed κ H)) :
    Scene (Session κ H) (Deed κ H) :=
  J.foldl (fun t d => ⟨t.state.next d, t.journal.push d⟩) s

section

variable (s : Scene (Session κ H) (Deed κ H))

@[simp] theorem record_nil : record s [] = s := rfl

theorem record_cons (d : Deed κ H) (J : List (Deed κ H)) :
    record s (d :: J) = record (record s [d]) J := rfl

theorem record_append (J K : List (Deed κ H)) : record s (J ++ K) = record (record s J) K :=
  List.foldl_append

@[simp] theorem state_record (J : List (Deed κ H)) : (record s J).state = s.state.after J := by
  induction J generalizing s with
  | nil => rfl
  | cons d J ih => exact ih _

@[simp] theorem toList_journal_record (J : List (Deed κ H)) :
    (record s J).journal.toList = s.journal.toList ++ J := by
  induction J generalizing s with
  | nil => simp
  | cons d J ih =>
    rw [record_cons, ih]
    simp [record]

/-- What is noted in a run is noted since its start. -/
@[simp] theorem toList_journal_record_start (cacheServiceIds : Bool) (host : H)
    (J : List (Deed κ H)) : (record (Session.start cacheServiceIds host) J).journal.toList = J :=
  toList_journal_record _ J

end

/-! ## What a resolve does once its callback has answered -/

/-- What is reported about the answer of a callback. -/
def newsDeeds (r : Resolver κ) (name : String) (generation : Option UInt64) :
    Answer → List (Deed κ H)
  | (.success, some id) =>
    .reported (Report.resolved name id) ::
      match r.cache?, generation with
      | some cache, some g =>
        if cache.generation < g then [.reported (Report.directoryChanged g cache.size)] else []
      | _, _ => []
  | (.success, none) => [.reported (Report.missingId name)]
  | (.failure, _) => [.reported (Report.callbackFailure name)]

/-- What is noted from the answer of a callback to the end of the resolve. -/
def closingDeeds (r : Resolver κ) (k : κ) (name : String) (generation : Option UInt64)
    (a : Answer) : List (Deed κ H) :=
  .consulted k name generation a.1 a.2 ::
    (newsDeeds r name generation a ++ [.ended name (verdict name a)])

/-- What a resolve does once its callback has answered. -/
def Session.close (k : κ) (name : String) (generation : Option UInt64) :
    Outcome × Event → Session.Work κ H (Except ConversionError ServiceId)
  | (outcome, event) => do
    Act.note (.consulted k name generation outcome event.id?)
    let result ← conclude name generation outcome event.id?
    Act.note (.ended name result)
    return result

theorem remember_eq (name : String) (id : ServiceId) (g : UInt64)
    (s : Scene (Session κ H) (Deed κ H)) :
    Session.remember name id g s =
      (.ok (), ⟨{ s.state with resolver := s.state.resolver.file name id g },
        match s.state.resolver.cache? with
        | some cache =>
          if cache.generation < g then
            s.journal.push (.reported (Report.directoryChanged g cache.size))
          else s.journal
        | none => s.journal⟩) := by
  obtain ⟨⟨⟨callback?, cache?⟩, host⟩, journal⟩ := s
  cases cache? with
  | none => rfl
  | some cache =>
    by_cases hlt : cache.generation < g <;>
      simp [Session.remember, Act.bind_apply, hlt, Session.report, Session.onResolver]

/-- **Closing a resolve** makes the verdict of the answer and files it if it may be kept. -/
theorem close_apply (k : κ) (name : String) (g? : Option UInt64) (o : Outcome) (e : Event)
    (s : Scene (Session κ H) (Deed κ H)) :
    Session.close k name g? (o, e) s =
      (.ok (verdict name (o, e.id?)),
        record s (closingDeeds s.state.resolver k name g? (o, e.id?))) := by
  obtain ⟨n, id?⟩ := e
  cases o with
  | failure => cases g? <;> rfl
  | success =>
    cases id? with
    | none => cases g? <;> rfl
    | some id =>
      cases g? with
      | none =>
        have hnews : (newsDeeds s.state.resolver name none (.success, some id) : List (Deed κ H)) =
            [.reported (Report.resolved name id)] := by
          cases hcache : s.state.resolver.cache? <;> simp only [newsDeeds, hcache]
        simp only [closingDeeds, hnews]
        rfl
      | some g =>
        simp only [Session.close, Session.conclude, Session.report, Act.bind_apply, Act.note_apply,
          remember_eq, Act.pure_apply, closingDeeds, newsDeeds]
        rcases hcache : s.state.resolver.cache? with _ | cache
        · rfl
        · by_cases hlt : cache.generation < g
          · simp only [if_pos hlt]
            rfl
          · simp only [if_neg hlt]
            rfl

/-! ## The three ways of a resolve -/

section

variable {c : Callbacks κ H} {invoke : Session.Invoke κ H} {name : String}
  {s : Scene (Session κ H) (Deed κ H)}

/-- What is noted by a resolve that finds no callback. -/
def unansweredDeeds (name : String) : List (Deed κ H) :=
  [.began name, .reported (Report.noCallback name),
    .ended name (.error (.serviceNotFound name .noCallback))]

/-- What is noted by a resolve that is served from the cache. -/
def servedDeeds (name : String) (generation : Option UInt64) (id : ServiceId) : List (Deed κ H) :=
  [.began name, .served name generation id, .ended name (.ok id)]

/-- What is noted by a resolve before it invokes the callback. -/
def openingDeeds (k : κ) (name : String) (generation : Option UInt64) : List (Deed κ H) :=
  [.began name, .consulting k name generation]

/-- **Without a callback** there is no id. -/
theorem resolve_of_none (h : s.state.resolver.callback? = none) :
    Session.resolve c invoke name s =
      (.ok (.error (.serviceNotFound name .noCallback)), record s (unansweredDeeds name)) := by
  simp only [Session.resolve, Session.find, Session.report, Act.bind_apply, Act.note_apply,
    Act.state_apply, h, Act.pure_apply]
  rfl

/-- **An id that may be used** is used, and nobody is invoked. -/
theorem resolve_of_some {k : κ} {id : ServiceId} (hk : s.state.resolver.callback? = some k)
    (hid : s.state.resolver.cached? name (c.generation k s.state.host) = some id) :
    Session.resolve c invoke name s =
      (.ok (.ok id), record s (servedDeeds name (c.generation k s.state.host) id)) := by
  simp only [Session.resolve, Session.find, Act.bind_apply, Act.note_apply, Act.state_apply, hk,
    hid, Act.pure_apply]
  rfl

/-- **Otherwise the callback is invoked once**, at the outset. -/
theorem resolve_of_cached?_none {k : κ} (hk : s.state.resolver.callback? = some k)
    (hid : s.state.resolver.cached? name (c.generation k s.state.host) = none) :
    Session.resolve c invoke name s =
      (invoke k { name } >>= Session.close k name (c.generation k s.state.host))
        (record s (openingDeeds k name (c.generation k s.state.host))) := by
  have hbegan : (record s (openingDeeds k name (c.generation k s.state.host))) =
      ⟨s.state, (s.journal.push (.began name)).push
        (.consulting k name (c.generation k s.state.host))⟩ := rfl
  simp only [Session.resolve, Session.find, Session.consult, Act.bind_apply, Act.note_apply,
    Act.state_apply, hk, hid, hbegan]
  rcases invoke k { name } _ with ⟨_ | _ | _ | _, u⟩
  · rfl
  · rfl
  · rfl
  · rfl

end

end Resolution

end ConverterKit
