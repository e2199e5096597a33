import ConverterKit.Toml.Text

/-!
# What readers do on a text that is partly known

A text that was written piece by piece is read piece by piece: each reader takes its piece off the
front and leaves the rest, which may be anything as long as it does not go on with the piece. Every
statement here has the form of an equation that says what a reader makes of such a text.

## Main results

* `Reader.bind_of_some`, `orElse_of_none` and the like: readers that are put together
* `Reader.takeWhile_append`: characters up to the first that fails
* `bareKey_append`, `key_append`: a key without quotes
* `key_of_ne`: no key
-/

namespace ConverterKit

namespace Toml

namespace Reader

variable {α β : Type} {r r' : Reader α} {f : α → Reader β} {cs rest : List Char} {a : α}

/-! ## Putting readers together -/

theorem bind_of_some (h : r cs = some (a, rest)) : (r >>= f) cs = f a rest := by
  show (r cs >>= fun p => f p.1 p.2) = _
  rw [h]
  rfl

theorem bind_of_none (h : r cs = none) : (r >>= f) cs = none := by
  show (r cs >>= fun p => f p.1 p.2) = _
  rw [h]
  rfl

theorem map_of_some (g : α → β) (h : r cs = some (a, rest)) : (g <$> r) cs = some (g a, rest) := by
  show (r cs >>= fun p => some (g p.1, p.2)) = _
  rw [h]
  rfl

theorem map_of_none (g : α → β) (h : r cs = none) : (g <$> r) cs = none := by
  show (r cs >>= fun p => some (g p.1, p.2)) = _
  rw [h]
  rfl

theorem orElse_of_some {x : α × List Char} (h : r cs = some x) : (r <|> r') cs = some x := by
  show (r cs <|> r' cs) = _
  rw [h]
  rfl

theorem orElse_of_none (h : r cs = none) : (r <|> r') cs = r' cs := by
  show (r cs <|> r' cs) = _
  rw [h]
  rfl

theorem optional_of_none (h : r cs = none) : optional r cs = some (none, cs) :=
  orElse_of_none (map_of_none some h)

theorem many_of_none (h : r cs = none) : many r cs = some ([], cs) := by
  rw [many]
  cases cs.length with
  | zero => rfl
  | succ n => rw [manyUpTo, bind_of_some (optional_of_none h)]; rfl

/-! ## Characters -/

theorem expect_cons (c : Char) (text cs : List Char) :
    expect (c :: text) (c :: cs) = expect text cs := by
  rw [expect, bind_of_some (satisfy_cons _ c cs ▸ if_pos (beq_self_eq_true c))]

theorem expect_one (c : Char) (cs : List Char) : expect [c] (c :: cs) = some ((), cs) :=
  expect_append [c] cs

theorem expect_of_ne {c d : Char} (h : d ≠ c) (text cs : List Char) :
    expect (c :: text) (d :: cs) = none := by
  refine bind_of_none ?_
  rw [satisfy_cons, if_neg (by simpa using h)]

/-- The characters up to the first one that fails are taken, and no more. -/
theorem takeWhile_append {test : Char → Bool} (xs : List Char) (hxs : ∀ c ∈ xs, test c = true)
    (hrest : ∀ c ∈ rest.head?, test c = false) : takeWhile test (xs ++ rest) = some (xs, rest) := by
  have hstop : rest.takeWhile test = [] ∧ rest.dropWhile test = rest := by
    cases rest with
    | nil => exact ⟨rfl, rfl⟩
    | cons c rest =>
      have hc : test c = false := hrest c rfl
      simp [hc]
  rw [takeWhile_apply, List.takeWhile_append_of_pos hxs, List.dropWhile_append_of_pos hxs,
    hstop.1, hstop.2, List.append_nil]

/-- Where the first character fails, none is taken. -/
theorem takeWhile_of_head {test : Char → Bool} (h : ∀ c ∈ rest.head?, test c = false) :
    takeWhile test rest = some ([], rest) :=
  takeWhile_append [] (by simp) h

/-- Blanks are taken, and no more. -/
theorem blanks_append (xs : List Char) (hxs : ∀ c ∈ xs, isBlank c = true)
    (hrest : ∀ c ∈ rest.head?, isBlank c = false) : blanks (xs ++ rest) = some ((), rest) := by
  rw [blanks, bind_of_some (takeWhile_append xs hxs hrest)]
  rfl

/-- Where no blank stands, none is taken. -/
theorem blanks_of_head (h : ∀ c ∈ rest.head?, isBlank c = false) :
    blanks rest = some ((), rest) :=
  blanks_append [] (by simp) h

/-- A single space is taken. -/
theorem blanks_space (h : ∀ c ∈ rest.head?, isBlank c = false) :
    blanks (' ' :: rest) = some ((), rest) :=
  blanks_append [' '] (by simp [isBlank]) h

/-- A line feed ends the line. -/
theorem lineEnd_cons (rest : List Char) : lineEnd ('\n' :: rest) = some ((), rest) := by
  have hcomment : comment ('\n' :: rest) = none := bind_of_none (expect_of_ne (by decide) _ _)
  rw [lineEnd, bind_of_some (blanks_of_head (by simp [isBlank])),
    bind_of_some (optional_of_none hcomment)]
  exact orElse_of_some (expect_cons '\n' [] rest)

end Reader

open Reader

/-! ## Keys without quotes -/

/-- A name that can be written without quotes. -/
def IsBare (name : String) : Prop :=
  name.toList ≠ [] ∧ ∀ c ∈ name.toList, isBareChar c = true

instance (name : String) : Decidable (IsBare name) :=
  decidable_of_decidable_of_iff (p := name.toList ≠ [] ∧ name.toList.all isBareChar = true)
    (and_congr_right fun _ => List.all_eq_true)

/-- The characters of a bare name are none of these. -/
theorem ne_of_isBareChar {c : Char} (h : isBareChar c = true) :
    c ≠ '"' ∧ c ≠ '\'' ∧ isBlank c = false := by
  refine ⟨?_, ?_, ?_⟩
  · rintro rfl
    exact absurd h (by decide)
  · rintro rfl
    exact absurd h (by decide)
  · rw [Bool.eq_false_iff]
    intro hblank
    rw [isBlank, Bool.or_eq_true, beq_iff_eq, beq_iff_eq] at hblank
    rcases hblank with rfl | rfl <;> exact absurd h (by decide)

/-- A string on one line begins with its quote. -/
theorem basicString_of_ne {c : Char} (h : c ≠ '"') (cs : List Char) :
    basicString (c :: cs) = none :=
  bind_of_none (expect_of_ne h [] cs)

theorem literalString_of_ne {c : Char} (h : c ≠ '\'') (cs : List Char) :
    literalString (c :: cs) = none :=
  bind_of_none (expect_of_ne h [] cs)

section

variable {name : String} {rest : List Char}

theorem bareKey_append (hname : IsBare name) (hrest : ∀ c ∈ rest.head?, isBareChar c = false) :
    bareKey (name.toList ++ rest) = some (name, rest) := by
  rw [bareKey, bind_of_some (takeWhile_append _ hname.2 hrest), if_neg]
  · rw [String.ofList_toList]
    rfl
  · simpa using hname.1

/-- A bare name is no string. -/
theorem simpleKey_append (hname : IsBare name) (hrest : ∀ c ∈ rest.head?, isBareChar c = false) :
    simpleKey (name.toList ++ rest) = some (name, rest) := by
  obtain ⟨c, cs, hcs⟩ := List.exists_cons_of_ne_nil hname.1
  obtain ⟨hquote, hapostrophe, -⟩ := ne_of_isBareChar (hname.2 c (hcs ▸ List.mem_cons_self))
  have hbasic : basicString (name.toList ++ rest) = none := by
    rw [hcs]
    exact basicString_of_ne hquote _
  have hliteral : literalString (name.toList ++ rest) = none := by
    rw [hcs]
    exact literalString_of_ne hapostrophe _
  rw [simpleKey, orElse_of_none hbasic, orElse_of_none hliteral]
  exact bareKey_append hname hrest

/-- **A bare name is a key by itself**, if no dot follows. Blanks behind it are taken. -/
theorem key_append {rest' : List Char} (hname : IsBare name)
    (hrest : ∀ c ∈ rest.head?, isBareChar c = false) (hblanks : blanks rest = some ((), rest'))
    (hdot : ∀ c ∈ rest'.head?, c ≠ '.') :
    key (name.toList ++ rest) = some (([], name), rest') := by
  obtain ⟨c, cs, hcs⟩ := List.exists_cons_of_ne_nil hname.1
  have hfront : blanks (name.toList ++ rest) = some ((), name.toList ++ rest) := by
    refine blanks_of_head fun d hd => ?_
    rw [hcs] at hd
    obtain rfl := Option.some.inj hd
    exact (ne_of_isBareChar (hname.2 c (hcs ▸ List.mem_cons_self))).2.2
  have hmore : (expect ['.'] *> (do
      blanks
      let k ← simpleKey
      blanks
      return k : Reader String)) rest' = none := by
    have hexpect : expect ['.'] rest' = none := by
      cases rest' with
      | nil => rfl
      | cons d rest' => exact expect_of_ne (hdot d rfl) _ _
    rw [seqRight_eq_bind, bind_of_none hexpect]
  have hfirst : (do
      blanks
      let k ← simpleKey
      blanks
      return k : Reader String) (name.toList ++ rest) = some (name, rest') := by
    rw [bind_of_some hfront, bind_of_some (simpleKey_append hname hrest), bind_of_some hblanks]
    rfl
  have hpath : (sepBy (expect ['.']) (do
      blanks
      let k ← simpleKey
      blanks
      return k) : Reader (List String)) (name.toList ++ rest) = some ([name], rest') := by
    rw [sepBy, bind_of_some hfirst, bind_of_some (many_of_none hmore)]
    rfl
  rw [key, bind_of_some hpath]
  rfl

/-- Where neither a quote nor a bare character stands, there is no key. -/
theorem key_of_ne {c : Char} (hquote : c ≠ '"') (hapostrophe : c ≠ '\'')
    (hblank : isBlank c = false) (hbare : isBareChar c = false) (cs : List Char) :
    key (c :: cs) = none := by
  have hfront : blanks (c :: cs) = some ((), c :: cs) :=
    blanks_of_head fun d hd => Option.some.inj hd ▸ hblank
  have hbareKey : bareKey (c :: cs) = none := by
    rw [bareKey, bind_of_some (takeWhile_of_head fun d hd => Option.some.inj hd ▸ hbare)]
    rfl
  have hsimple : simpleKey (c :: cs) = none := by
    rw [simpleKey, orElse_of_none (basicString_of_ne hquote cs),
      orElse_of_none (literalString_of_ne hapostrophe cs), hbareKey]
  refine bind_of_none (bind_of_none ?_)
  rw [bind_of_some hfront]
  exact bind_of_none hsimple

end

end Toml

end ConverterKit
