import ConverterKit.Proofs.Text.Decimal
import ConverterKit.Proofs.Toml.Readers
import ConverterKit.Text.Record
import ConverterKit.Toml.Value

/-!
# Reading numbers and truth values

A value is tried as a string, as a date, as a float, as an integer and as a truth value, in this
order. A decimal integer at the end of a line is none of the first three, though it may begin like
any date and any float, and is read as the integer it is. Likewise for truth values.

## Main definitions

* `InDigits`: a text that goes on with digits up to the end of a line

## Main results

* `moment_of_inDigits`, `float_digits`: digits alone are no date and no float
* `integer_digits`: they are an integer
* `scalar_digits`, `scalar_ofBool`: what is read as a value
-/

namespace ConverterKit

namespace Toml

open Reader

variable {cs rest : List Char}

/-! ## No strings -/

/-- A string begins with a quote. -/
theorem string_of_ne {c : Char} (hquote : c ≠ '"') (hapostrophe : c ≠ '\'') (cs : List Char) :
    string (c :: cs) = none := by
  have hspanning : spanningBasicString (c :: cs) = none :=
    bind_of_none (expect_of_ne hquote ['"', '"'] cs)
  have hliteral : spanningLiteralString (c :: cs) = none :=
    bind_of_none (expect_of_ne hapostrophe ['\'', '\''] cs)
  rw [string, orElse_of_none hspanning, orElse_of_none (basicString_of_ne hquote cs),
    orElse_of_none hliteral]
  exact literalString_of_ne hapostrophe cs

theorem ne_of_isDigit {c d : Char} (h : c.isDigit = true) (hd : d.isDigit = false) : c ≠ d := by
  rintro rfl
  rw [h] at hd
  exact absurd hd (by decide)

theorem isBlank_of_isDigit {c : Char} (h : c.isDigit = true) : isBlank c = false := by
  simp [isBlank, ne_of_isDigit h (d := ' ') (by decide), ne_of_isDigit h (d := '\t') (by decide)]

/-! ## No dates -/

/-- The text goes on with digits, perhaps none, up to the end of the line. -/
def InDigits (cs : List Char) : Prop :=
  ∃ ds rest, cs = ds ++ '\n' :: rest ∧ ∀ c ∈ ds, c.isDigit = true

/-- Digits are taken one by one. -/
theorem InDigits.of_exactly {count : Nat} {xs : List Char} (h : InDigits cs)
    (hread : exactly Char.isDigit count cs = some (xs, rest)) : InDigits rest := by
  induction count generalizing cs xs with
  | zero =>
    obtain ⟨-, rfl⟩ := Prod.mk.inj (Option.some.inj hread)
    exact h
  | succ n ih =>
    obtain ⟨_ | ⟨d, ds⟩, rest', rfl, hds⟩ := h
    · rw [exactly, bind_of_none (by rfl)] at hread
      exact absurd hread nofun
    · have hd : satisfy Char.isDigit (d :: (ds ++ '\n' :: rest')) =
          some (d, ds ++ '\n' :: rest') := by
        rw [satisfy_cons, if_pos (hds d List.mem_cons_self)]
      have hinside : InDigits (ds ++ '\n' :: rest') :=
        ⟨ds, rest', rfl, fun c hc => hds c (List.mem_cons_of_mem _ hc)⟩
      rw [List.cons_append, exactly, bind_of_some hd] at hread
      rcases hmore : exactly Char.isDigit n (ds ++ '\n' :: rest') with _ | ⟨ys, rest''⟩
      · exact absurd (hread.symm.trans (map_of_none _ hmore)) nofun
      · rw [map_of_some _ hmore] at hread
        obtain ⟨-, rfl⟩ := Prod.mk.inj (Option.some.inj hread)
        exact ih hinside hmore

/-- Inside of digits no mark stands that is not a digit. -/
theorem InDigits.expect {mark : Char} (h : InDigits cs) (hmark : mark.isDigit = false)
    (hline : mark ≠ '\n') : Reader.expect [mark] cs = none := by
  obtain ⟨_ | ⟨d, ds⟩, rest, rfl, hds⟩ := h
  · exact expect_of_ne hline.symm _ _
  · exact expect_of_ne (ne_of_isDigit (hds d List.mem_cons_self) hmark) _ _

/-- So nothing is read of which a number and a mark are the first parts. -/
theorem InDigits.fixedNumber {α : Type} {mark : Char} (h : InDigits cs)
    (hmark : mark.isDigit = false) (hline : mark ≠ '\n') (count low high : Nat)
    (next : Nat → Reader α) :
    (do
      let n ← Toml.fixedNumber count low high
      Reader.expect [mark]
      next n : Reader α) cs = none := by
  rcases hexactly : exactly Char.isDigit count cs with _ | ⟨xs, rest⟩
  · have hnumber : Toml.fixedNumber count low high cs = none := bind_of_none hexactly
    exact bind_of_none hnumber
  · have hrest := h.of_exactly hexactly
    by_cases hbounds : (low ≤ Nat.ofDigitChars 10 xs 0 && Nat.ofDigitChars 10 xs 0 ≤ high) = true
    · have hnumber : Toml.fixedNumber count low high cs =
          some (Nat.ofDigitChars 10 xs 0, rest) := by
        rw [Toml.fixedNumber, bind_of_some hexactly, if_pos hbounds]
        rfl
      rw [bind_of_some hnumber]
      exact bind_of_none (hrest.expect hmark hline)
    · have hnumber : Toml.fixedNumber count low high cs = none := by
        rw [Toml.fixedNumber, bind_of_some hexactly, if_neg hbounds]
        rfl
      exact bind_of_none hnumber

/-- **Digits alone are no date and no time of day.** -/
theorem moment_of_inDigits (h : InDigits cs) : moment cs = none := by
  have hdate : date cs = none := h.fixedNumber (by decide) (by decide) 4 0 9999 _
  have htime : timeOfDay cs = none := h.fixedNumber (by decide) (by decide) 2 0 23 _
  rw [moment, orElse_of_none (bind_of_none hdate)]
  exact htime

/-! ## The digits of a number -/

theorem sign_of_ne {c : Char} (hminus : c ≠ '-') (hplus : c ≠ '+') (cs : List Char) :
    sign (c :: cs) = some (false, c :: cs) := by
  rw [sign, orElse_of_none (bind_of_none (expect_of_ne hminus [] cs)),
    orElse_of_none (bind_of_none (expect_of_ne hplus [] cs))]
  rfl

theorem digitsBehind_append {ds : List Char} (hds : ∀ c ∈ ds, c.isDigit = true)
    (rest : List Char) :
    digitsBehind Char.isDigit (ds ++ '\n' :: rest) = (ds, '\n' :: rest) := by
  induction ds with
  | nil => simp [digitsBehind]
  | cons d ds ih =>
    have hd : d.isDigit = true := hds d List.mem_cons_self
    have hunderscore : d ≠ '_' := ne_of_isDigit hd (by decide)
    have hrest := ih fun c hc => hds c (List.mem_cons_of_mem _ hc)
    rw [List.cons_append, digitsBehind.eq_def]
    split
    · next heq => exact absurd (List.cons.inj heq).1 hunderscore
    · next heq =>
      obtain ⟨rfl, rfl⟩ := List.cons.inj heq
      rw [if_pos hd, hrest]
    · next heq => exact absurd heq nofun

section

variable (n : Nat) (rest : List Char)

/-- **The digits of a number are read as they are written.** -/
theorem decimalDigits_append : decimalDigits (Nat.toDigits 10 n ++ '\n' :: rest) =
    some (Nat.toDigits 10 n, '\n' :: rest) := by
  by_cases hn : n = 0
  · subst hn
    refine orElse_of_some ?_
    rw [Nat.toDigits_zero, List.cons_append, bind_of_some (expect_cons '0' [] _)]
    rfl
  · obtain ⟨d, ds, hdigits, hd, hds⟩ := Decimal.exists_digits n
    have hzero : d ≠ '0' := by
      rintro rfl
      exact hn (Decimal.eq_zero_of_head (by rw [hdigits]; rfl))
    have hbehind : (fun cs => some (digitsBehind Char.isDigit cs) : Reader (List Char))
        (ds ++ '\n' :: rest) = some (ds, '\n' :: rest) :=
      congrArg some (digitsBehind_append hds rest)
    rw [hdigits, List.cons_append, decimalDigits,
      orElse_of_none (bind_of_none (expect_of_ne hzero [] _)), digits,
      bind_of_some (satisfy_cons _ d _ ▸ if_pos hd), bind_of_some hbehind]
    rfl

theorem inDigits_digits : InDigits (Nat.toDigits 10 n ++ '\n' :: rest) :=
  ⟨_, rest, rfl, fun _ => Decimal.isDigit_of_mem⟩

theorem sign_digits : sign (Nat.toDigits 10 n ++ '\n' :: rest) =
    some (false, Nat.toDigits 10 n ++ '\n' :: rest) := by
  obtain ⟨d, ds, hdigits, hd, -⟩ := Decimal.exists_digits n
  rw [hdigits]
  exact sign_of_ne (ne_of_isDigit hd (by decide)) (ne_of_isDigit hd (by decide)) _

/-- **Digits alone are no float**, for want of a point, an exponent or a name. -/
theorem float_digits : float (Nat.toDigits 10 n ++ '\n' :: rest) = none := by
  have hdigitFloat : digitFloat (Nat.toDigits 10 n ++ '\n' :: rest) = none := by
    have hexponent : exponent ('\n' :: rest) = none := by
      refine bind_of_none ?_
      rw [satisfy_cons, if_neg (by decide)]
    have hfraction : fraction ('\n' :: rest) = none :=
      bind_of_none (expect_of_ne (by decide) [] rest)
    rw [digitFloat, bind_of_some (sign_digits n rest), bind_of_some (decimalDigits_append n rest)]
    refine bind_of_none ?_
    rw [orElse_of_none (bind_of_none hexponent)]
    exact bind_of_none hfraction
  obtain ⟨d, ds, hdigits, hd, -⟩ := Decimal.exists_digits n
  have hinf : d ≠ 'i' := ne_of_isDigit hd (by decide)
  have hnan : d ≠ 'n' := ne_of_isDigit hd (by decide)
  rw [float, orElse_of_none hdigitFloat, namedFloat, bind_of_some (sign_digits n rest), hdigits,
    List.cons_append]
  refine bind_of_none ?_
  rw [orElse_of_none (bind_of_none (expect_of_ne hinf _ _))]
  exact bind_of_none (expect_of_ne hnan _ _)

/-- A mark for a base does not stand in a decimal number. -/
theorem basedInteger_digits {mark : Char} (hmark : mark.isDigit = false) (hline : mark ≠ '\n')
    (base : Nat) (test : Char → Bool) :
    basedInteger mark base test (Nat.toDigits 10 n ++ '\n' :: rest) = none := by
  obtain ⟨d, ds, hdigits, hd, hds⟩ := Decimal.exists_digits n
  refine bind_of_none ?_
  rw [hdigits, List.cons_append]
  by_cases hzero : d = '0'
  · rw [hzero, expect_cons]
    exact InDigits.expect ⟨ds, rest, rfl, hds⟩ hmark hline
  · exact expect_of_ne hzero _ _

/-- **The digits of a number are read as the number**, if it has 64 bits. -/
theorem integer_digits (hfits : fits n = true) :
    integer (Nat.toDigits 10 n ++ '\n' :: rest) = some ((n : Int), '\n' :: rest) := by
  have hdecimal : decimalInteger (Nat.toDigits 10 n ++ '\n' :: rest) =
      some ((n : Int), '\n' :: rest) := by
    rw [decimalInteger, bind_of_some (sign_digits n rest),
      bind_of_some (decimalDigits_append n rest), Nat.ofDigitChars_ten_toDigits]
    rfl
  have hany : (basedInteger 'x' 16 isHexDigit <|>
      basedInteger 'o' 8 (fun c => '0' ≤ c && c ≤ '7') <|>
      basedInteger 'b' 2 (fun c => c == '0' || c == '1') <|> decimalInteger : Reader Int)
        (Nat.toDigits 10 n ++ '\n' :: rest) = some ((n : Int), '\n' :: rest) := by
    rw [orElse_of_none (basedInteger_digits n rest (by decide) (by decide) _ _),
      orElse_of_none (basedInteger_digits n rest (by decide) (by decide) _ _),
      orElse_of_none (basedInteger_digits n rest (by decide) (by decide) _ _)]
    exact hdecimal
  rw [integer, bind_of_some hany, if_pos hfits]
  rfl

/-- **A decimal integer at the end of a line is read as a value.** -/
theorem scalar_digits (hfits : fits n = true) :
    scalar (Nat.toDigits 10 n ++ '\n' :: rest) = some (.integer n, '\n' :: rest) := by
  have hstring : string (Nat.toDigits 10 n ++ '\n' :: rest) = none := by
    obtain ⟨d, ds, hdigits, hd, -⟩ := Decimal.exists_digits n
    rw [hdigits]
    exact string_of_ne (ne_of_isDigit hd (by decide)) (ne_of_isDigit hd (by decide)) _
  rw [scalar, orElse_of_none (bind_of_none hstring),
    orElse_of_none (bind_of_none (moment_of_inDigits (inDigits_digits n rest))),
    orElse_of_none (bind_of_none (float_digits n rest))]
  refine orElse_of_some ?_
  rw [bind_of_some (integer_digits n rest hfits)]
  rfl

end

/-! ## Truth values -/

/-- A letter that begins neither a string, nor a number, nor the name of a float, leaves only truth
values. -/
theorem scalar_of_letter {c : Char} (hdigit : c.isDigit = false) (hquote : c ≠ '"')
    (hapostrophe : c ≠ '\'') (hminus : c ≠ '-') (hplus : c ≠ '+') (hinf : c ≠ 'i') (hnan : c ≠ 'n')
    (cs : List Char) : scalar (c :: cs) =
      ((do expect ['t', 'r', 'u', 'e']; return .boolean true) <|>
        (do expect ['f', 'a', 'l', 's', 'e']; return .boolean false) : Reader Scalar) (c :: cs) := by
  have hsatisfy : satisfy Char.isDigit (c :: cs) = none := by
    rw [satisfy_cons, if_neg (by rw [hdigit]; decide)]
  have hzero : c ≠ '0' := by
    rintro rfl
    exact absurd hdigit (by decide)
  have hsign : sign (c :: cs) = some (false, c :: cs) := sign_of_ne hminus hplus cs
  have hdigits : decimalDigits (c :: cs) = none := by
    rw [decimalDigits, orElse_of_none (bind_of_none (expect_of_ne hzero [] cs))]
    exact bind_of_none hsatisfy
  have hfixed : ∀ count low high, fixedNumber (count + 1) low high (c :: cs) = none :=
    fun count low high => bind_of_none (bind_of_none hsatisfy)
  have hmoment : moment (c :: cs) = none := by
    have hdate : date (c :: cs) = none := bind_of_none (hfixed 3 0 9999)
    rw [moment, orElse_of_none (bind_of_none hdate)]
    exact bind_of_none (hfixed 1 0 23)
  have hfloat : float (c :: cs) = none := by
    have hdigitFloat : digitFloat (c :: cs) = none := by
      rw [digitFloat, bind_of_some hsign]
      exact bind_of_none hdigits
    rw [float, orElse_of_none hdigitFloat, namedFloat, bind_of_some hsign]
    refine bind_of_none ?_
    rw [orElse_of_none (bind_of_none (expect_of_ne hinf _ cs))]
    exact bind_of_none (expect_of_ne hnan _ cs)
  have hbased : ∀ mark base test, basedInteger mark base test (c :: cs) = none :=
    fun mark base test => bind_of_none (expect_of_ne hzero [mark] cs)
  have hinteger : integer (c :: cs) = none := by
    refine bind_of_none ?_
    rw [orElse_of_none (hbased _ _ _), orElse_of_none (hbased _ _ _), orElse_of_none (hbased _ _ _),
      decimalInteger, bind_of_some hsign]
    exact bind_of_none hdigits
  rw [scalar, orElse_of_none (bind_of_none (string_of_ne hquote hapostrophe cs)),
    orElse_of_none (bind_of_none hmoment), orElse_of_none (bind_of_none hfloat),
    orElse_of_none (bind_of_none hinteger)]

/-- **A truth value is read as a value**, whatever follows. -/
theorem scalar_ofBool (b : Bool) (rest : List Char) :
    scalar ((Text.ofBool b).toList ++ rest) = some (.boolean b, rest) := by
  cases b with
  | true =>
    show scalar ('t' :: 'r' :: 'u' :: 'e' :: rest) = _
    rw [scalar_of_letter (by decide) (by decide) (by decide) (by decide) (by decide) (by decide)
      (by decide)]
    exact orElse_of_some (bind_of_some (expect_append ['t', 'r', 'u', 'e'] rest))
  | false =>
    show scalar ('f' :: 'a' :: 'l' :: 's' :: 'e' :: rest) = _
    rw [scalar_of_letter (by decide) (by decide) (by decide) (by decide) (by decide) (by decide)
      (by decide), orElse_of_none (bind_of_none (expect_of_ne (by decide) _ _))]
    exact bind_of_some (expect_append ['f', 'a', 'l', 's', 'e'] rest)

end Toml

end ConverterKit
