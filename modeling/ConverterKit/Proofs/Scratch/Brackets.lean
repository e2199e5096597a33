import ConverterKit.Proofs.Pool.Numbering
import ConverterKit.Scratch.World

/-!
# Gets and releases as brackets

Getting a buffer and giving it back are the two ends of a bracket: for every routine that is run
there is one get, before it starts, and one release, after it has ended in whichever way, of the
same buffer. Between the two there are the brackets of the routines that it ran itself, and nothing
else touches a pool but growth.

`Disciplined` says this of a journal, as one says that the brackets of a word match. How often
routines were run, buffers were got and buffers were released is read off the brackets.

## Main definitions

* `Loan.instance?`, `OnLoan`: which instances are on loan
* `Distinct`: a buffer is lent that is none of those on loan already
* `Disciplined`: a journal in which gets and releases are the ends of brackets
* `Lending`: the journal of one routine that was run with a buffer

## Main results

* `Disciplined.of_lent_mem`: every routine begins with an empty buffer, of its own
* `Disciplined.occurrences_eq`: as many gets, and as many releases, as routines were run
-/

namespace ConverterKit

namespace Scratch

open Pool (occurrences)

variable {κ H : Type}

/-! ## Instances on loan -/

/-- The instance that a loan is of: the context whose pool it belongs to, and its number there. -/
def Loan.instance? (l : Loan) : Option (Nat × Nat) :=
  l.guard.item?.map fun b => (l.context, b.number)

/-- These instances are on loan, to the innermost routine first. -/
def OnLoan (held : List (Nat × Nat)) (loans : List Loan) : Prop :=
  loans.map Loan.instance? = held.map some

/-- The numbers of the instances that belong to a context. -/
def outOf (context : Nat) (held : List (Nat × Nat)) : List Nat :=
  held.filterMap fun k => if k.1 = context then some k.2 else none

theorem outOf_cons_self (context number : Nat) (held : List (Nat × Nat)) :
    outOf context ((context, number) :: held) = number :: outOf context held := by
  simp [outOf]

theorem outOf_cons_of_ne {context context' : Nat} (h : context' ≠ context) (number : Nat)
    (held : List (Nat × Nat)) :
    outOf context' ((context, number) :: held) = outOf context' held := by
  simp [outOf, h.symm]

theorem mem_outOf {context number : Nat} {held : List (Nat × Nat)} :
    number ∈ outOf context held ↔ (context, number) ∈ held := by
  simp [outOf]

/-- The loan of the innermost routine holds its instance. -/
theorem OnLoan.cons {context number : Nat} {held : List (Nat × Nat)} {loans : List Loan}
    (h : OnLoan ((context, number) :: held) loans) :
    ∃ b rest, loans = ⟨context, ⟨some b⟩⟩ :: rest ∧ b.number = number ∧ OnLoan held rest := by
  rcases loans with _ | ⟨⟨context', ⟨_ | b⟩⟩, rest⟩
  · exact absurd h (by simp [OnLoan])
  · exact absurd (List.cons.inj h).1 nofun
  · obtain ⟨hhead, hrest⟩ := List.cons.inj h
    obtain ⟨rfl, rfl⟩ := Prod.mk.inj (Option.some.inj hhead)
    exact ⟨b, rest, rfl, rfl, hrest⟩

/-! ## Journals -/

namespace Deed

/-- What a deed tells of the pool of a context. -/
def pool? (context : Nat) : Deed κ H → Option (Pool.Deed Empty Buffer)
  | .pool context' d => if context' = context then some d else none
  | _ => none

/-- The deed has no part in getting a buffer, lending it and giving it back. -/
def Quiet : Deed κ H → Prop
  | .pool _ d => d.Quiet
  | .lent .. => False
  | .returned .. => False
  | _ => True

/-- The deed says that a routine began with a buffer of this context. -/
def lends (context : Nat) : Deed κ H → Bool
  | .lent context' _ _ => context' == context
  | _ => false

end Deed

/-- What a journal tells of the pool of a context. -/
def poolDeeds (context : Nat) (J : List (Deed κ H)) : List (Pool.Deed Empty Buffer) :=
  J.filterMap (Deed.pool? context)

/-- How many routines were run with a buffer of this context. -/
def lendings (context : Nat) (J : List (Deed κ H)) : Nat := J.countP (Deed.lends context)

theorem poolDeeds_cons (context : Nat) (d : Deed κ H) (J : List (Deed κ H)) :
    poolDeeds context (d :: J) = (d.pool? context).toList ++ poolDeeds context J := by
  rw [poolDeeds, List.filterMap_cons]
  cases d.pool? context <;> rfl

theorem poolDeeds_append (context : Nat) (J K : List (Deed κ H)) :
    poolDeeds context (J ++ K) = poolDeeds context J ++ poolDeeds context K :=
  List.filterMap_append

theorem lendings_cons (context : Nat) (d : Deed κ H) (J : List (Deed κ H)) :
    lendings context (d :: J) = lendings context J + if d.lends context then 1 else 0 :=
  List.countP_cons

theorem lendings_append (context : Nat) (J K : List (Deed κ H)) :
    lendings context (J ++ K) = lendings context J + lendings context K :=
  List.countP_append

theorem poolDeeds_map_self (context : Nat) (K : List (Pool.Deed Empty Buffer)) :
    poolDeeds context (K.map (.pool context) : List (Deed κ H)) = K := by
  simp [poolDeeds, List.filterMap_map, Function.comp_def, Deed.pool?]

theorem poolDeeds_map_of_ne {context context' : Nat} (h : context' ≠ context)
    (K : List (Pool.Deed Empty Buffer)) :
    poolDeeds context' (K.map (.pool context) : List (Deed κ H)) = [] := by
  simp [poolDeeds, List.filterMap_map, Function.comp_def, Deed.pool?, h.symm]

theorem poolDeeds_map_resolution (context : Nat) (K : List (Resolution.Deed κ H)) :
    poolDeeds context (K.map .resolution) = [] := by
  simp [poolDeeds, List.filterMap_map, Function.comp_def, Deed.pool?]

/-- A quiet deed is no get, no release and no lending. -/
theorem Deed.Quiet.counts {d : Deed κ H} (h : d.Quiet) (context : Nat) :
    occurrences .got (d.pool? context).toList = 0 ∧
      occurrences .released (d.pool? context).toList = 0 ∧ d.lends context = false := by
  cases d with
  | pool context' d =>
    have hmark : d.mark? ≠ some .got ∧ d.mark? ≠ some .released := Pool.Deed.Quiet.mark?_ne h
    by_cases hcontext : context' = context
    · simp [Deed.pool?, Deed.lends, hcontext, hmark]
    · simp [Deed.pool?, Deed.lends, hcontext]
  | resolution d => exact ⟨rfl, rfl, rfl⟩
  | lent context b others => exact h.elim
  | returned context guard => exact h.elim
  | reported event => exact ⟨rfl, rfl, rfl⟩

/-- A buffer lent by a context is another instance than those of the routines under way. -/
def Distinct (context : Nat) (b : Buffer) (others : List Loan) : Prop :=
  ∃ held, OnLoan held others ∧ ((context, b.number) :: held).Nodup

/-- Journals in which gets and releases are the ends of brackets. Between them are the empty buffer
that is lent, which is none of those under way, what the routine does, and the buffer that comes
back, which is the same. -/
inductive Disciplined : List (Deed κ H) → Prop
  | nil : Disciplined []
  | quiet {d : Deed κ H} {J : List (Deed κ H)} (hd : d.Quiet) (hJ : Disciplined J) :
      Disciplined (d :: J)
  | bracket {context : Nat} {b b' : Buffer} {others : List Loan} {inner J : List (Deed κ H)}
      (hdistinct : Distinct context b others) (hsame : b'.number = b.number)
      (hinner : Disciplined inner) (hJ : Disciplined J) :
      Disciplined (.pool context (.getEnded (.ok b)) :: .lent context b.clear others ::
        (inner ++ .pool context (.released b') :: .returned context ⟨some b'⟩ :: J))

namespace Disciplined

theorem of_quiet {J : List (Deed κ H)} (h : ∀ d ∈ J, d.Quiet) : Disciplined J := by
  induction J with
  | nil => exact .nil
  | cons d J ih =>
    exact .quiet (h d List.mem_cons_self) (ih fun d hd => h d (List.mem_cons_of_mem _ hd))

theorem append {J K : List (Deed κ H)} (hJ : Disciplined J) (hK : Disciplined K) :
    Disciplined (J ++ K) := by
  induction hJ with
  | nil => exact hK
  | quiet hd _ ih => exact .quiet hd ih
  | bracket hdistinct hsame hinner _ _ ih =>
    rw [List.cons_append, List.cons_append, List.append_assoc]
    exact .bracket hdistinct hsame hinner ih

/-- Every routine begins with an empty buffer, another one than those under way. -/
theorem of_lent_mem {J : List (Deed κ H)} (h : Disciplined J) {context : Nat} {b : Buffer}
    {others : List Loan} (hmem : .lent context b others ∈ J) :
    b.bytes = [] ∧ Distinct context b others := by
  induction h with
  | nil => exact absurd hmem List.not_mem_nil
  | quiet hd _ ih =>
    rcases List.mem_cons.mp hmem with rfl | hmem
    · exact hd.elim
    · exact ih hmem
  | bracket hdistinct hsame _ _ ihinner ih =>
    simp only [List.mem_cons, List.mem_append, reduceCtorEq, false_or] at hmem
    rcases hmem with heq | hmem | hmem
    · obtain ⟨rfl, rfl, rfl⟩ := Deed.lent.inj heq
      exact ⟨rfl, hdistinct⟩
    · exact ihinner hmem
    · exact ih hmem

/-- **In every context there were as many gets, and as many releases, as routines were run.** -/
theorem occurrences_eq {J : List (Deed κ H)} (h : Disciplined J) (context : Nat) :
    occurrences .got (poolDeeds context J) = lendings context J ∧
      occurrences .released (poolDeeds context J) = lendings context J := by
  induction h with
  | nil => exact ⟨rfl, rfl⟩
  | quiet hd _ ih =>
    obtain ⟨hgot, hreleased, hlends⟩ := hd.counts context
    simp only [poolDeeds_cons, Pool.occurrences_append, lendings_cons, hgot, hreleased, hlends, ih,
      zero_add, Bool.false_eq_true, if_false, add_zero, and_self]
  | @bracket context' b b' others inner J hdistinct hsame _ _ ihinner ih =>
    obtain ⟨hgotinner, hreleasedinner⟩ := ihinner
    obtain ⟨hgot, hreleased⟩ := ih
    simp only [poolDeeds_cons, poolDeeds_append, Pool.occurrences_append, lendings_cons,
      lendings_append]
    by_cases hcontext : context' = context
    · simp [Deed.pool?, Deed.lends, hcontext, Pool.Deed.mark?]
      omega
    · simp [Deed.pool?, Deed.lends, hcontext]
      omega

end Disciplined

/-- The journal of one routine that was run with a buffer of this context: the get, the lending,
what the routine did, and the release. -/
inductive Lending (context : Nat) : List (Deed κ H) → Prop
  | intro {G : List (Pool.Deed Empty Buffer)} {b b' : Buffer} {others : List Loan}
      {inner : List (Deed κ H)} (hquiet : ∀ d ∈ G, d.Quiet) (hdistinct : Distinct context b others)
      (hsame : b'.number = b.number) (hinner : Disciplined inner) :
      Lending context (G.map (.pool context) ++ (.pool context (.getEnded (.ok b)) ::
        .lent context b.clear others :: (inner ++ ((Pool.releaseDeeds b').map (.pool context) ++
          [.returned context ⟨some b'⟩]))))

/-- Gets and releases of a single pool that are quiet are quiet in the journal of the contexts. -/
theorem quiet_map_pool {context : Nat} {G : List (Pool.Deed Empty Buffer)}
    (h : ∀ d ∈ G, d.Quiet) : ∀ d ∈ (G.map (.pool context) : List (Deed κ H)), d.Quiet := by
  intro d hd
  obtain ⟨d', hd', rfl⟩ := List.mem_map.mp hd
  exact h d' hd'

/-- One routine that was run is one bracket. -/
theorem Lending.disciplined {context : Nat} {K : List (Deed κ H)} (h : Lending context K) :
    Disciplined K := by
  rcases h with @⟨G, b, b', others, inner, hquiet, hdistinct, hsame, hinner⟩
  refine (Disciplined.of_quiet (quiet_map_pool hquiet)).append ?_
  -- the first two deeds of the release are quiet and belong to what is inside
  have hinside : Disciplined (inner ++ [.pool context (.added b'),
      .pool context (.counted .release)]) :=
    hinner.append (.of_quiet (by simp [Deed.Quiet, Pool.Deed.Quiet]))
  have hbracket := Disciplined.bracket hdistinct hsame hinside .nil
  rw [List.append_assoc] at hbracket
  exact hbracket

end Scratch

end ConverterKit
