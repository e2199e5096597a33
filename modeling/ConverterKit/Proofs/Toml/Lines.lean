import ConverterKit.Proofs.Toml.Scalars
import ConverterKit.Toml.Document
import Mathlib.Data.List.Forall2

/-!
# Reading lines

A document that is written line by line is read line by line. A line can be put into a document if
it is read as what it stands for whenever a line feed follows it, whatever comes after that; so one
looks at every line by itself.

## Main definitions

* `Line.IsWritten`: a text that stands for a line

## Main results

* `Line.isWritten_table`, `isWritten_digits`, `isWritten_ofBool`, `isWritten_blank`: the header of a
  table, the settings of integers and truth values, and nothing
* `lines?_of_isWritten`: lines that were written one after the other are read as they were written
-/

namespace ConverterKit

namespace Toml

open Reader

variable {name : String} {text cs rest : List Char}

/-- What stands in front of a bare name is no bracket. -/
theorem IsBare.ne_bracket (hname : IsBare name) (rest : List Char) :
    ∃ c cs, name.toList ++ rest = c :: cs ∧ c ≠ '[' ∧ isBlank c = false := by
  obtain ⟨c, cs, hcs⟩ := List.exists_cons_of_ne_nil hname.1
  have hbare : isBareChar c = true := hname.2 c (hcs ▸ List.mem_cons_self)
  refine ⟨c, cs ++ rest, by rw [hcs]; rfl, ?_, (ne_of_isBareChar hbare).2.2⟩
  rintro rfl
  exact absurd hbare (by decide)

/-! ## Headers -/

/-- A header begins with a bracket. -/
theorem header_of_ne {c : Char} (h : c ≠ '[') (cs : List Char) : header (c :: cs) = none := by
  rw [header, orElse_of_none (bind_of_none (expect_of_ne h ['['] cs))]
  exact bind_of_none (expect_of_ne h [] cs)

/-- **A bare name in brackets is the header of a table.** -/
theorem header_append (hname : IsBare name) (rest : List Char) :
    header ('[' :: (name.toList ++ ']' :: rest)) = some (.table [] name, rest) := by
  have hkey : key (name.toList ++ ']' :: rest) = some (([], name), ']' :: rest) :=
    key_append hname (by simp [isBareChar]) (blanks_of_head (by simp [isBlank])) (by simp)
  have hmember : expect ['[', '['] ('[' :: (name.toList ++ ']' :: rest)) = none := by
    obtain ⟨c, cs, hcs, hne, -⟩ := hname.ne_bracket (']' :: rest)
    rw [expect_cons, hcs]
    exact expect_of_ne hne [] cs
  rw [header, orElse_of_none (bind_of_none hmember),
    bind_of_some (expect_one '[' _), bind_of_some hkey]
  dsimp only
  rw [bind_of_some (expect_one ']' rest)]
  rfl

/-! ## Settings -/

/-- A scalar is a value, however deep values may nest. -/
theorem value_of_scalar {s : Scalar} (depth : Nat) (h : scalar cs = some (s, rest)) :
    value depth cs = some (.scalar s, rest) := by
  cases depth with
  | zero => exact map_of_some _ h
  | succ depth =>
    rw [value]
    exact orElse_of_some (map_of_some _ h)

/-- **A bare name, an equals sign and a value are an assignment.** -/
theorem assignment_append {r : Reader Item} {item : Item} (hname : IsBare name)
    (htext : ∀ c ∈ text.head?, isBlank c = false) (hread : r text = some (item, '\n' :: rest)) :
    assignment r (name.toList ++ ' ' :: '=' :: ' ' :: text) =
      some (([], name, item), '\n' :: rest) := by
  have hkey : key (name.toList ++ ' ' :: '=' :: ' ' :: text) =
      some (([], name), '=' :: ' ' :: text) :=
    key_append hname (by simp [isBareChar]) (blanks_space (by simp [isBlank])) (by simp)
  rw [assignment, bind_of_some hkey]
  dsimp only
  rw [bind_of_some (expect_one '=' _), bind_of_some (blanks_space htext), bind_of_some hread,
    bind_of_some (blanks_of_head (by simp [isBlank]))]
  rfl

/-! ## Lines -/

/-- A text stands for a line: wherever a line feed follows, it is read as the line. -/
structure Line.IsWritten (text : List Char) (line : Line) : Prop where
  /-- The line is not indented. -/
  head : ∀ rest, ∀ c ∈ (text ++ '\n' :: rest).head?, isBlank c = false
  /-- The text is read as the line. -/
  content : ∀ rest, lineContent (text ++ '\n' :: rest) = some (line, '\n' :: rest)

namespace Line

/-- The header of a table is a line. -/
theorem isWritten_table (hname : IsBare name) :
    IsWritten ('[' :: (name.toList ++ [']'])) (.table [] name) where
  head rest := by simp [isBlank]
  content rest := by
    rw [List.cons_append, List.append_assoc]
    exact orElse_of_some (header_append hname ('\n' :: rest))

/-- The setting of a value is a line. -/
theorem isWritten_setting {s : Scalar} (hname : IsBare name)
    (htext : ∀ rest, ∀ c ∈ (text ++ '\n' :: rest).head?, isBlank c = false)
    (hread : ∀ rest, scalar (text ++ '\n' :: rest) = some (s, '\n' :: rest)) :
    IsWritten (name.toList ++ ' ' :: '=' :: ' ' :: text) (.setting [] name (.scalar s)) where
  head rest c hc := by
    obtain ⟨d, ds, hds, -, hblank⟩ := hname.ne_bracket (' ' :: '=' :: ' ' :: text ++ '\n' :: rest)
    rw [List.append_assoc, hds] at hc
    obtain rfl := Option.some.inj hc
    exact hblank
  content rest := by
    obtain ⟨d, ds, hds, hbracket, -⟩ :=
      hname.ne_bracket (' ' :: '=' :: ' ' :: text ++ '\n' :: rest)
    have hheader : header (name.toList ++ (' ' :: '=' :: ' ' :: text ++ '\n' :: rest)) = none := by
      rw [hds]
      exact header_of_ne hbracket ds
    have hassignment : assignment (value depthLimit)
        (name.toList ++ (' ' :: '=' :: ' ' :: text ++ '\n' :: rest)) =
          some (([], name, .scalar s), '\n' :: rest) :=
      assignment_append hname (htext rest) (value_of_scalar depthLimit (hread rest))
    rw [List.append_assoc, lineContent, orElse_of_none hheader]
    refine orElse_of_some ?_
    rw [bind_of_some hassignment]
    rfl

/-- The setting of a decimal integer is a line, if the integer has 64 bits. -/
theorem isWritten_digits (hname : IsBare name) {n : Nat} (hfits : fits n = true) :
    IsWritten (name.toList ++ ' ' :: '=' :: ' ' :: Nat.toDigits 10 n)
      (.setting [] name (.scalar (.integer n))) := by
  refine isWritten_setting hname (fun rest c hc => ?_) fun rest => scalar_digits n rest hfits
  obtain ⟨d, ds, hdigits, hd, -⟩ := Decimal.exists_digits n
  rw [hdigits] at hc
  obtain rfl := Option.some.inj hc
  exact isBlank_of_isDigit hd

/-- The setting of a truth value is a line. -/
theorem isWritten_ofBool (hname : IsBare name) (b : Bool) :
    IsWritten (name.toList ++ ' ' :: '=' :: ' ' :: (Text.ofBool b).toList)
      (.setting [] name (.scalar (.boolean b))) := by
  refine isWritten_setting hname (fun rest c hc => ?_) fun rest => scalar_ofBool b ('\n' :: rest)
  cases b <;> (obtain rfl := Option.some.inj hc; decide)

/-- Nothing is a line. -/
theorem isWritten_blank : IsWritten [] .blank where
  head rest := by simp [isBlank]
  content rest := by
    have hassignment : assignment (value depthLimit) ('\n' :: rest) = none :=
      bind_of_none (key_of_ne (by decide) (by decide) (by decide) (by decide) rest)
    rw [List.nil_append, lineContent, orElse_of_none (header_of_ne (by decide) rest),
      orElse_of_none (bind_of_none hassignment)]
    rfl

end Line

/-- At the end of the text there are no more lines. -/
theorem linesUpTo_nil (n : Nat) : linesUpTo n [] = some ([], []) := by
  cases n <;> rfl

/-- Lines that were written one after the other are read, if there is fuel for all of them. -/
theorem linesUpTo_of_isWritten {texts : List (List Char)} {ls : List Line}
    (h : List.Forall₂ Line.IsWritten texts ls) {n : Nat} (hn : texts.length ≤ n) :
    linesUpTo n (texts.flatMap (· ++ ['\n'])) = some (ls, []) := by
  induction h generalizing n with
  | nil => exact linesUpTo_nil n
  | @cons text line texts ls hline h ih =>
    obtain ⟨n, rfl⟩ : ∃ m, n = m + 1 := ⟨n - 1, by simp at hn; omega⟩
    have hrest := ih (n := n) (by simp at hn; omega)
    rw [List.flatMap_cons, List.append_assoc, List.singleton_append]
    have hend : (do endOfText; return [] : Reader (List Line))
        (text ++ '\n' :: texts.flatMap (· ++ ['\n'])) = none := by
      refine bind_of_none ?_
      cases text <;> rfl
    rw [linesUpTo, orElse_of_none hend, bind_of_some (blanks_of_head (hline.head _)),
      bind_of_some (hline.content _), bind_of_some (lineEnd_cons _), map_of_some _ hrest]

/-- **Lines that were written one after the other are read as they were written**, if no byte order
mark stands in front. -/
theorem lines?_of_isWritten {texts : List (List Char)} {ls : List Line}
    (h : List.Forall₂ Line.IsWritten texts ls)
    (hmark : (texts.flatMap (· ++ ['\n'])).head? ≠ some (Char.ofNat 0xFEFF)) :
    lines? (texts.flatMap (· ++ ['\n'])) = some ls := by
  have hlength : texts.length ≤ (texts.flatMap (· ++ ['\n'])).length := by
    clear h hmark
    induction texts with
    | nil => exact Nat.le_refl 0
    | cons text texts ih =>
      rw [List.flatMap_cons, List.length_append, List.length_append, List.length_cons,
        List.length_singleton]
      omega
  have hread := linesUpTo_of_isWritten h hlength
  rcases hcs : texts.flatMap (· ++ ['\n']) with _ | ⟨c, cs⟩
  · rw [hcs] at hread
    simp only [lines?, readAll?]
    rw [hread]
  · rw [hcs] at hread hmark
    have hc : c ≠ Char.ofNat 0xFEFF := fun heq => hmark (congrArg some heq)
    simp only [lines?, readAll?, if_neg hc]
    rw [hread]

end Toml

end ConverterKit
