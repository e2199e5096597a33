import ConverterKit.Proofs.Resolution.Directories
import ConverterKit.Proofs.Resolution.Provenance

/-!
# Answers are fresh

A callback that answers from a directory may change that very directory while it is being asked,
before it looks the name up and after, and it may have the same resolver resolve other names
meanwhile. So a resolve can end with an answer that is no longer true, and can file an id under a
generation that is over. What it cannot do is answer with something that the directory did not hold
at any moment of the resolve: what is *stale* when a resolve starts is never served by it.

## Scope

The host may keep anything besides its directories. Its directories change by edits only, and the
directory behind a handle is altered less than `2 ^ 64` times during a run, or its generation would
come round again.

## Main definitions

* `Program.Quotes`: code of the host's that ends with an answer it has seen the host hold
* `Session.alterations`, `Session.hosts`: what some deeds do to the host
* `Edits`, `Surroundings.AnswersFrom`: callbacks that answer from directories, and edit them

## Main results

* `Program.Quotes.exists_held`: an answer was held at some moment while its callback was asked
* `Justified.same_of_generation_eq`: as long as the generation is the same the services are
* `Surroundings.AnswersFrom.tell_of_cached?`: an id that is served is held at that moment
* `answers_fresh`: an answer was held at some moment of the resolve, and what was not is not
  answered
-/

namespace ConverterKit

namespace Resolution

variable {κ H χ β : Type}

/-! ## Answers that the host has held -/

/-- The program, having seen some answers, ends with one it has seen: whenever it looks at the host,
it sees the answer that the host holds. -/
def Program.Quotes (held : H → Answer) (seen : Answer → Prop) :
    Program κ H (Outcome × Event) → Prop
  | .finish (outcome, event) => seen (outcome, event.id?)
  | .panic _ => True
  | .readHost next => ∀ host, (next host).Quotes held fun a => seen a ∨ held host = a
  | .writeHost _ next => next.Quotes held seen
  | .resolve _ next => ∀ upshot, (next upshot).Quotes held seen
  | .invalidate _ next => ∀ id?, (next id?).Quotes held seen
  | .clear next => next.Quotes held seen
  | .status next => ∀ s, (next s).Quotes held seen
  | .ask _ _ next => ∀ upshot, (next upshot).Quotes held seen

/-- Whatever is done first, a program may go on to quote. -/
theorem Program.Quotes.andThen {held : H → Answer} {seen : Answer → Prop}
    {p : Program κ H β} {f : β → Program κ H (Outcome × Event)}
    (hf : ∀ (seen' : Answer → Prop), (∀ a, seen a → seen' a) → ∀ b, (f b).Quotes held seen') :
    (p.andThen f).Quotes held seen := by
  induction p generalizing seen with
  | finish b => exact hf seen (fun _ h => h) b
  | panic => trivial
  | readHost next ih =>
    exact fun host => ih host fun seen' h => hf seen' fun a ha => h a (.inl ha)
  | writeHost host next ih => exact ih hf
  | resolve name next ih => exact fun upshot => ih upshot hf
  | invalidate name next ih => exact fun id? => ih id? hf
  | clear next ih => exact ih hf
  | status next ih => exact fun s => ih s hf
  | ask k name next ih => exact fun upshot => ih upshot hf

section

variable {c : Callbacks κ H} {allowed : H → H → Prop} {start : Scene (Session κ H) (Deed κ H)}
  {J J' : List (Deed κ H)} {n : Nat}

theorem record_inj : record start J = record start J' ↔ J = J' := by
  refine ⟨fun h => ?_, fun h => by rw [h]⟩
  have hjournal := congrArg (fun s : Scene (Session κ H) (Deed κ H) => s.journal.toList) h
  simpa using hjournal

/-- What comes before the end of a justified journal is justified. -/
theorem Justified.of_append {K : List (Deed κ H)} (h : Justified c allowed start (J ++ K)) :
    Justified c allowed start J := by
  induction K using List.reverseRecOn with
  | nil => simpa using h
  | append_singleton K d ih =>
    rw [← List.append_assoc] at h
    exact ih h.of_concat.1

/-- At some moment between the deeds `J` and the deeds `J'` of a run the host held this answer. -/
def Held (c : Callbacks κ H) (allowed : H → H → Prop) (start : Scene (Session κ H) (Deed κ H))
    (held : H → Answer) (J J' : List (Deed κ H)) (a : Answer) : Prop :=
  ∃ M, Advance c allowed start J M ∧ Advance c allowed start M J' ∧
    held (start.state.after M).host = a

/-- What is found after some deeds is found before them. -/
theorem exists_held_of_advance {held : H → Answer} {P : Prop} {a : Answer}
    {t : Scene (Session κ H) (Deed κ H)} (hstep : Advance c allowed start J J')
    (h : ∃ J'', t = record start J'' ∧ Advance c allowed start J' J'' ∧
      (P ∨ Held c allowed start held J' J'' a)) :
    ∃ J'', t = record start J'' ∧ Advance c allowed start J J'' ∧
      (P ∨ Held c allowed start held J J'' a) := by
  obtain ⟨J'', ht, hrest, hP | ⟨M, hM, hM', ha⟩⟩ := h
  · exact ⟨J'', ht, hstep.trans hrest, .inl hP⟩
  · exact ⟨J'', ht, hstep.trans hrest, .inr ⟨M, hstep.trans hM, hM', ha⟩⟩

/-- **A program that quotes** ends with an answer it had seen before, or with one that the host held
at some moment while it ran. -/
theorem Program.Quotes.exists_held (hc : c.Keeps allowed) {held : H → Answer}
    {seen : Answer → Prop} {p : Program κ H (Outcome × Event)} (hp : p.Quotes held seen)
    (hkeeps : p.Keeps allowed (start.state.after J).host) (hJ : Justified c allowed start J)
    {a : Outcome × Event} {t : Scene (Session κ H) (Deed κ H)}
    (h : p.play c (Session.invoke c n) (record start J) = (.ok a, t)) :
    ∃ J', t = record start J' ∧ Advance c allowed start J J' ∧
      (seen (a.1, a.2.id?) ∨ Held c allowed start held J J' (a.1, a.2.id?)) := by
  have hinvoke : ∀ k name J, Justified c allowed start J →
      Advances c allowed start J (Session.invoke c n k { name }) := fun k name J hJ =>
    advances_invoke hc n k name hJ
  induction p generalizing seen J with
  | finish b =>
    obtain ⟨heq, rfl⟩ := Prod.mk.inj h
    obtain rfl := Ending.ok.inj heq
    exact ⟨J, rfl, .refl hJ, .inl hp⟩
  | panic m => exact absurd (Prod.mk.inj h).1 nofun
  | readHost next ih =>
    have hnext : (next (start.state.after J).host).play c (Session.invoke c n) (record start J) =
        (.ok a, t) := by
      rw [← state_record]
      exact h
    obtain ⟨J', ht, hadvance, (ha | ha) | ha⟩ := ih _ (hp _) hkeeps hJ hnext
    · exact ⟨J', ht, hadvance, .inl ha⟩
    · exact ⟨J', ht, hadvance, .inr ⟨J, .refl hJ, hadvance, ha⟩⟩
    · exact ⟨J', ht, hadvance, .inr ha⟩
  | writeHost host next ih =>
    have hchange : Advance c allowed start J (J ++ [.changed host]) := .snoc hJ hkeeps.1 rfl
    refine exists_held_of_advance hchange (ih hp ?_ hchange.justified ?_)
    · rw [Session.after_append]
      exact hkeeps.2
    · rw [record_append]
      exact h
  | resolve name next ih =>
    obtain ⟨upshot, u, hresolve, hnext⟩ := Act.exists_of_bind_eq_ok h
    obtain ⟨J', rfl, hadvance⟩ := (advances_resolve hJ hinvoke name).rescue.reaches hresolve
    exact exists_held_of_advance hadvance
      (ih upshot (hp upshot) (hkeeps upshot _) hadvance.justified hnext)
  | invalidate name next ih =>
    have hforget : Advance c allowed start J (J ++ [.invalidated name]) := .snoc hJ trivial rfl
    refine exists_held_of_advance hforget
      (ih ((record start J).state.resolver.kept? name) (hp _) ?_ hforget.justified ?_)
    · rw [Session.after_append]
      exact hkeeps _
    · rw [record_append]
      exact h
  | clear next ih =>
    have hclear : Advance c allowed start J (J ++ [.cleared]) := .snoc hJ trivial rfl
    refine exists_held_of_advance hclear (ih hp ?_ hclear.justified ?_)
    · rw [Session.after_append]
      exact hkeeps
    · rw [record_append]
      exact h
  | status next ih =>
    exact ih (record start J).state.resolver.status (hp _) (hkeeps _) hJ h
  | ask k name next ih =>
    obtain ⟨upshot, u, hask, hnext⟩ := Act.exists_of_bind_eq_ok h
    obtain ⟨J', rfl, hadvance⟩ := (hinvoke k name J hJ).rescue.reaches hask
    exact exists_held_of_advance hadvance
      (ih (telling upshot) (hp _) (hkeeps _ _) hadvance.justified hnext)

end

/-! ## Directories that are edited -/

section

variable (dir : H → κ → Directory) (k : κ)

/-- How often some deeds make the services of a directory other ones. -/
def Session.alterations (s : Session κ H) : List (Deed κ H) → Nat
  | [] => 0
  | d :: J =>
    (if (dir s.host k).Same (dir (s.next d).host k) then 0 else 1) + (s.next d).alterations J

/-- The hosts of a session while some deeds are done. -/
def Session.hosts (s : Session κ H) : List (Deed κ H) → List H
  | [] => [s.host]
  | d :: J => s.host :: (s.next d).hosts J

theorem Session.alterations_append (s : Session κ H) (J K : List (Deed κ H)) :
    s.alterations dir k (J ++ K) = s.alterations dir k J + (s.after J).alterations dir k K := by
  induction J generalizing s with
  | nil => simp [alterations]
  | cons d J ih => rw [List.cons_append, alterations, ih, alterations, Nat.add_assoc]; rfl

/-- The host after some deeds is among the hosts while these and more are done. -/
theorem Session.host_after_mem_hosts (s : Session κ H) (J K : List (Deed κ H)) :
    (s.after J).host ∈ s.hosts (J ++ K) := by
  induction J generalizing s with
  | nil => cases K <;> exact List.mem_cons_self
  | cons d J ih => exact List.mem_cons_of_mem _ (ih _)

theorem Session.host_mem_hosts (s : Session κ H) (J : List (Deed κ H)) : s.host ∈ s.hosts J :=
  s.host_after_mem_hosts [] J

/-- The deeds from one scene to a later one. -/
def deedsBetween (s t : Scene (Session κ H) (Deed κ H)) : List (Deed κ H) :=
  t.journal.toList.drop s.journal.size

theorem deedsBetween_record (s : Scene (Session κ H) (Deed κ H)) (K : List (Deed κ H)) :
    deedsBetween s (record s K) = K := by
  rw [deedsBetween, toList_journal_record, ← Array.length_toList, List.drop_left]

variable [DecidableEq κ]

/-- From one host to the other at most one edit is made to the directories. -/
def Edits (h h' : H) : Prop := dir h' = dir h ∨ ∃ e : Edit κ, dir h' = e.apply (dir h)

variable {dir} in
/-- **The generation of an edited directory** moves on by one if its services are others afterwards,
and stays otherwise. -/
theorem Edits.generation_eq {h h' : H} (hedit : Edits dir h h') :
    (dir h' k).generation =
      (dir h k).generation + UInt64.ofNat (if (dir h k).Same (dir h' k) then 0 else 1) := by
  rcases hedit with heq | ⟨e, heq⟩
  · rw [heq, if_pos (.refl _)]
    simp
  · have hsame : e.alters k (dir h) = true ↔ ¬(dir h k).Same (dir h' k) := by
      rw [Edit.alters_iff, ← heq, Directory.Same, not_forall]
    rw [heq, Edit.generation_apply, ← heq]
    by_cases hs : (dir h k).Same (dir h' k)
    · rw [if_neg (fun halters => hsame.mp halters hs), if_pos hs]
      rfl
    · rw [if_pos (hsame.mpr hs), if_neg hs]
      rfl

variable {dir k} {c : Callbacks κ H} {start : Scene (Session κ H) (Deed κ H)}
  {J K : List (Deed κ H)}

/-- A justified deed makes at most one edit. -/
theorem Admissible.edits {d : Deed κ H} (h : Admissible c (Edits dir) start J d) :
    Edits dir (start.state.after J).host ((start.state.after J).next d).host := by
  cases d with
  | changed host => exact h
  | consulted k name g? outcome id? =>
    refine .inl (congrArg dir ?_)
    rcases g? with _ | g <;> rcases outcome <;> rcases id? with _ | id <;> rfl
  | _ => exact .inl rfl

/-- **The generation counts the alterations** in the course of a run, and without any the services
are the same. -/
theorem Justified.generation_after (h : Justified c (Edits dir) start (J ++ K)) :
    (dir (start.state.after (J ++ K)).host k).generation =
        (dir (start.state.after J).host k).generation +
          UInt64.ofNat ((start.state.after J).alterations dir k K) ∧
      ((start.state.after J).alterations dir k K = 0 →
        (dir (start.state.after J).host k).Same (dir (start.state.after (J ++ K)).host k)) := by
  induction K using List.reverseRecOn with
  | nil => simp [Session.alterations, Directory.Same.refl]
  | append_singleton K d ih =>
    rw [← List.append_assoc] at h
    obtain ⟨hbefore, hd⟩ := h.of_concat
    obtain ⟨hgen, hsame⟩ := ih hbefore
    have hafter : start.state.after (J ++ (K ++ [d])) = (start.state.after (J ++ K)).next d := by
      rw [← List.append_assoc, Session.after_append]
      rfl
    have hcount : (start.state.after J).alterations dir k (K ++ [d]) =
        (start.state.after J).alterations dir k K +
          if (dir (start.state.after (J ++ K)).host k).Same
            (dir ((start.state.after (J ++ K)).next d).host k) then 0 else 1 := by
      rw [Session.alterations_append, ← Session.after_append]
      rfl
    refine ⟨?_, fun h0 => ?_⟩
    · rw [hafter, hd.edits.generation_eq, hgen, hcount, UInt64.ofNat_add, UInt64.add_assoc]
    · rw [hcount, Nat.add_eq_zero_iff] at h0
      rw [hafter]
      refine (hsame h0.1).trans ?_
      by_contra hother
      exact absurd (h0.2.symm.trans (if_neg hother)) Nat.zero_ne_one

/-- As long as the generation of a directory is the same its services are: if it is the same at the
end of a stretch of a run as at the start, the services were the same all the time between. -/
theorem Justified.same_of_generation_eq {L : List (Deed κ H)}
    (h : Justified c (Edits dir) start (J ++ K ++ L))
    (hfew : (start.state.after J).alterations dir k (K ++ L) < 2 ^ 64)
    (hgen : (dir (start.state.after (J ++ K ++ L)).host k).generation =
      (dir (start.state.after J).host k).generation) :
    (dir (start.state.after (J ++ K)).host k).Same
      (dir (start.state.after (J ++ K ++ L)).host k) := by
  have hcount : (start.state.after J).alterations dir k (K ++ L) = 0 := by
    have hcounted := (List.append_assoc J K L ▸ h).generation_after (k := k).1
    rw [← List.append_assoc, hgen] at hcounted
    have h0 : UInt64.ofNat ((start.state.after J).alterations dir k (K ++ L)) = 0 := by
      simpa using hcounted.symm
    have hnat := congrArg UInt64.toNat h0
    simp only [UInt64.toNat_ofNat', UInt64.toNat_zero] at hnat
    omega
  rw [Session.alterations_append, Nat.add_eq_zero_iff, ← Session.after_append] at hcount
  exact h.generation_after.2 hcount.2

end

/-! ## Callbacks that answer from directories -/

/-- Look an event up in a directory of the host, with code of the host's before and after. -/
def Program.lookup (dir : H → Directory) (event : Event) (before : Program κ H Unit)
    (after : H → Program κ H Unit) : Program κ H (Outcome × Event) :=
  before.andThen fun _ => .readHost fun host => (after host).andThen fun _ =>
    .finish ((dir host).answer event)

/-- A callback that looks its name up quotes the directory, whatever it does before and after. -/
theorem Program.quotes_lookup (dir : H → Directory) (name : String) (before : Program κ H Unit)
    (after : H → Program κ H Unit) :
    (Program.lookup dir { name } before after).Quotes (fun host => (dir host).tell name)
      fun _ => False := by
  refine .andThen fun seen _ _ host => .andThen fun seen' hseen' _ => ?_
  exact hseen' _ (.inr ((dir host).answer_eq_tell name).symm)

/-- A callback that looks its name up keeps to what is allowed if it does so before and after. -/
theorem Program.keeps_lookup {allowed : H → H → Prop} {dir : H → Directory} {event : Event}
    {before : Program κ H Unit} {after : H → Program κ H Unit} {host : H}
    (hbefore : before.Keeps allowed host) (hafter : ∀ host, (after host).Keeps allowed host) :
    (Program.lookup dir event before after).Keeps allowed host :=
  hbefore.andThen fun _ host => (hafter host).andThen fun _ _ => trivial

section

variable [DecidableEq κ]

/-- Callbacks that report the generation of the directory behind their handle and end with an answer
it gave while they were asked, and which, like the rest of the host, do nothing to directories but
edit them. -/
structure Surroundings.AnswersFrom (w : Surroundings κ H χ) (dir : H → κ → Directory) : Prop where
  /-- The generation is that of the directory. -/
  generation : ∀ k host, w.generation k host = some (dir host k).generation
  /-- The answer is one that the directory gave. -/
  quotes : ∀ k name,
    (w.answer k { name }).Quotes (fun host => (dir host k).tell name) fun _ => False
  /-- Directories are edited, and nothing else is done to them. -/
  keeps : w.Keeps (Edits dir)

variable {w : Surroundings κ H χ} {dir : H → κ → Directory} {k : κ} {name : String}
  {start : Scene (Session κ H) (Deed κ H)} {J J' : List (Deed κ H)}

/-- The answer of an invocation was held by the directory while the callback was asked. -/
theorem Surroundings.AnswersFrom.held (hw : w.AnswersFrom dir)
    (hJ : Justified w.toCallbacks (Edits dir) start J) {g? : Option UInt64} {n : Nat}
    {outcome : Outcome} {event : Event}
    (h : Session.invoke w.toCallbacks n k { name } (record start (J ++ openingDeeds k name g?)) =
      (.ok (outcome, event), record start J')) :
    Held w.toCallbacks (Edits dir) start (fun host => (dir host k).tell name) J J'
      (outcome, event.id?) := by
  have hopening := Advance.opening hJ k name g?
  cases n with
  | zero => exact absurd (Prod.mk.inj h).1 nofun
  | succ n =>
    obtain ⟨J'', hJ'', -, hfalse | ⟨M, hM, hM', heq⟩⟩ := (hw.quotes k name).exists_held
      hw.keeps.answer (hw.keeps.answer k name _) hopening.justified h
    · exact hfalse.elim
    · obtain rfl := record_inj.mp hJ''
      exact ⟨M, hopening.trans hM, hM', heq⟩

/-- What a callback has testified to was held by its directory since it reported its generation. -/
theorem Invoked.exists_held (hw : w.AnswersFrom dir) {g? : Option UInt64} {a : Answer}
    (h : Invoked w.toCallbacks start k name J g? a)
    (hJ : Justified w.toCallbacks (Edits dir) start J) :
    ∃ past, w.generation k (start.state.after past).host = g? ∧
      Held w.toCallbacks (Edits dir) start (fun host => (dir host k).tell name) past J a := by
  obtain ⟨-, -, hinvoke⟩ := h
  exact ⟨_, rfl, hw.held hJ.of_append.of_append hinvoke⟩

/-- **An id that is served is held at that moment.** It was held when it was told, and the
generation has been the same ever since. -/
theorem Surroundings.AnswersFrom.tell_of_cached? (hw : w.AnswersFrom dir) {depth : Nat}
    {moves : List (Move κ χ)} {caching : Bool} {host : H} {s : Scene (Session κ H) (Deed κ H)}
    (hs : w.Visits depth moves (Session.start caching host) s)
    (hk : s.state.resolver.callback? = some k) {id : ServiceId}
    (hid : s.state.resolver.cached? name (w.generation k s.state.host) = some id)
    (hfew : (Session.start caching host : Scene _ (Deed κ H)).state.alterations dir k
      s.journal.toList < 2 ^ 64) :
    (dir s.state.host k).tell name = (.success, some id) := by
  have htestified := hs.testified_of_cached? hk hid
  obtain ⟨J, rfl, hJ⟩ := hs.exists_record hw.keeps
  rw [toList_journal_record_start] at htestified hfew
  rw [state_record] at htestified ⊢
  obtain ⟨past, rest, hsplit, -, hinvoked⟩ := htestified
  have hpast : Justified w.toCallbacks (Edits dir) (Session.start caching host) past :=
    (hsplit ▸ hJ).of_append
  obtain ⟨before, hread, M, hM, hM', hheld⟩ := hinvoked.exists_held hw hpast
  obtain ⟨K, rfl, -⟩ := hM.append
  obtain ⟨L, rfl, -⟩ := hM'.append
  rw [List.append_assoc (before ++ K)] at hsplit
  generalize L ++ _ :: rest = L' at hsplit
  subst hsplit
  rw [hw.generation, hw.generation, Option.some.injEq] at hread
  have hsame : (dir ((Session.start caching host).state.after (before ++ K)).host k).Same
      (dir ((Session.start caching host).state.after (before ++ K ++ L')).host k) := by
    refine hJ.same_of_generation_eq ?_ hread.symm
    rw [List.append_assoc, Session.alterations_append] at hfew
    omega
  rw [hsame.tell]
  exact hheld

/-- **Answers are fresh.** Take callbacks that answer from directories, and that may edit them and
use the resolver while they are asked. In every scene of a run in which the host is in control, a
name resolves to an answer that the directory of the registered callback held at some moment of this
very resolve, whether it is served from the cache or not. So an id that the directory does not hold
for the name at any moment of the resolve is not what it resolves to, whatever was filed before. -/
theorem answers_fresh (w : Surroundings κ H χ) (dir : H → κ → Directory) (hw : w.AnswersFrom dir)
    (depth : Nat) (moves : List (Move κ χ)) (caching : Bool) (host : H)
    (s : Scene (Session κ H) (Deed κ H))
    (hs : w.Visits depth moves (Session.start caching host) s) (k : κ)
    (hk : s.state.resolver.callback? = some k) (n : Nat) (name : String)
    (result : Except ConversionError ServiceId) (t : Scene (Session κ H) (Deed κ H))
    (ht : w.resolve n name s = (.ok result, t))
    (hfew : (Session.start caching host : Scene _ (Deed κ H)).state.alterations dir k
      t.journal.toList < 2 ^ 64) :
    (∃ h ∈ s.state.hosts (deedsBetween s t), result = verdict name ((dir h k).tell name)) ∧
      ∀ id, (∀ h ∈ s.state.hosts (deedsBetween s t), (dir h k).get? name ≠ some id) →
        result ≠ .ok id := by
  suffices hheld : ∃ h ∈ s.state.hosts (deedsBetween s t),
      result = verdict name ((dir h k).tell name) by
    refine ⟨hheld, fun id hnever hid => ?_⟩
    obtain ⟨h, hmem, heq⟩ := hheld
    have htell := (verdict_eq_ok_iff name).mp (heq.symm.trans hid)
    exact hnever h hmem (Directory.tell_eq_iff.mp htell)
  obtain ⟨J, rfl, hJ⟩ := hs.exists_record hw.keeps
  rw [state_record] at hk ⊢
  rcases hJ.resolve_cases hw.keeps.answer ht with ⟨hnone, -⟩ | ⟨k', g?, hk', hg, hresolved⟩
  · exact absurd (hnone.symm.trans hk) nofun
  obtain rfl : k' = k := Option.some.inj (hk'.symm.trans hk)
  rcases hresolved with ⟨id, hid, rfl, rfl⟩ | ⟨outcome, event, J', hJ', hinvoke, rfl, rfl⟩
  · rw [toList_journal_record_start, Session.alterations_append] at hfew
    have htell := hw.tell_of_cached? hs (by rw [state_record, hk])
      (by rw [state_record, hg, hid]) (by rw [toList_journal_record_start]; omega)
    rw [state_record] at htell
    refine ⟨_, Session.host_mem_hosts _ _, ?_⟩
    rw [htell]
    rfl
  · obtain ⟨M, hM, hM', hheld⟩ := hw.held hJ hinvoke
    obtain ⟨K, rfl, -⟩ := hM.append
    obtain ⟨L, rfl, -⟩ := hM'.append
    refine ⟨((Session.start caching host).state.after (J ++ K)).host, ?_,
      congrArg (verdict name) hheld.symm⟩
    rw [List.append_assoc, List.append_assoc, record_append, deedsBetween_record]
    have hmem := Session.host_after_mem_hosts ((Session.start caching host).state.after J) K
      (L ++ closingDeeds ((Session.start caching host).state.after (J ++ K ++ L)).resolver k' name
        g? (outcome, event.id?))
    rwa [← Session.after_append] at hmem

end

/-! ## A directory that is edited while it is asked -/

/-- A directory with a callback that, when asked for "A", gives "B" an id, looks "A" up, gives "A"
another id, and has "B" resolved before it answers. -/
def restless : Surroundings Unit (Unit → Directory) (Edit Unit) where
  generation _ host := some (host ()).generation
  answer _ event :=
    if event.name = "A" then
      .lookup (fun host => host ()) event (.changeHost (Edit.insert () "B" 5).apply) fun _ =>
        (Program.changeHost (Edit.insert () "A" 2).apply).andThen fun _ =>
          .resolve "B" fun _ => .finish ()
    else .lookup (fun host => host ()) event (.finish ()) fun _ => .finish ()
  change := Edit.apply

theorem restless_answersFrom : restless.AnswersFrom id where
  generation _ _ := rfl
  quotes k name := by
    simp only [restless]
    split <;> exact Program.quotes_lookup (fun host : Unit → Directory => host ()) name _ _
  keeps := by
    have hinsert : ∀ (name : String) (id : ServiceId) (host : Unit → Directory),
        (.changeHost (Edit.insert () name id).apply : Program Unit (Unit → Directory) Unit).Keeps
          (Edits fun host => host) host := fun name id host =>
      ⟨.inr ⟨.insert () name id, rfl⟩, trivial⟩
    refine ⟨fun _ name host => ?_, fun e host => .inr ⟨e, rfl⟩⟩
    simp only [restless]
    split
    · exact Program.keeps_lookup (hinsert "B" 5 host) fun host =>
        (hinsert "A" 2 host).andThen fun _ _ _ _ => trivial
    · exact Program.keeps_lookup trivial fun _ => trivial

/-- The scene after "A" has been resolved once. -/
def restlessScene : Scene (Session Unit (Unit → Directory)) (Deed Unit (Unit → Directory)) :=
  restless.after 2 [.register (), .resolve "A"] (Session.start true fun _ => .ofList [("A", 1)])

/-- The id that was looked up before the directory was edited is not what "A" resolves to later,
since the directory no longer holds it. -/
theorem answers_fresh_restless :
    restless.resolve 2 "A" restlessScene = (.ok (.ok 2), (restless.resolve 2 "A" restlessScene).2) ∧
      ∃ h ∈ restlessScene.state.hosts
          (deedsBetween restlessScene (restless.resolve 2 "A" restlessScene).2),
        Except.ok 2 = verdict "A" ((h ()).tell "A") := by
  have hresolve : restless.resolve 2 "A" restlessScene =
      (.ok (.ok 2), (restless.resolve 2 "A" restlessScene).2) := rfl
  exact ⟨hresolve, (answers_fresh restless id restless_answersFrom 2 [.register (), .resolve "A"]
    true (fun _ => .ofList [("A", 1)]) restlessScene (restless.visits_after 2 _ _) () rfl 2 "A"
    (.ok 2) _ hresolve (by decide)).1⟩

end Resolution

end ConverterKit
