import ConverterKit.Proofs.Config.Layers
import Mathlib.Data.List.Basic
import Mathlib.Tactic.Ring

/-!
# What the environment can say

A variable of the environment overrides its setting if its text is of a certain form, and otherwise
it is as good as none. The form of a size is given here the way one writes it: perhaps a plus sign,
then a row of digits, at least one, whose places count ones, tens, hundreds and so on. The reader of
sizes accepts this form, with zeros in front as well, up to the greatest number of a word, and
nothing else.

Each of the three settings depends on its own variable and on nothing but that, so one statement
serves for all of them: `Setting.Overridden`.

## Main definitions

* `digits`, `numeral`: the decimal digits, and the number that a row of them says
* `SaysSize`, `SaysFlag`: the form of a size and of a truth value
* `Setting`: a setting, its variable, and the form of its values
* `Setting.Overridden`: a setting is overridden by its variable, by texts of its form only

## Main results

* `sizeOfText?_eq_some_iff`, `flagOfText?_eq_some_iff`: what is read is what is said
* `saysSize_toString`: the decimal digits of a word say it
* `overrides_exact`: the environment overrides just what it says
-/

namespace ConverterKit

namespace Config

/-! ## The form of a size -/

/-- The decimal digits of the ASCII range, each at the place of its value. -/
def digits : List Char := ['0', '1', '2', '3', '4', '5', '6', '7', '8', '9']

/-- The number that a row of digits says: each of them counts ten times as much as the next one. -/
def numeral : List Char → Nat
  | [] => 0
  | c :: row => digits.idxOf c * 10 ^ row.length + numeral row

/-- A text says a size: it is a row of digits for that number, perhaps behind a plus sign. -/
def SaysSize (text : String) (n : UInt64) : Prop :=
  ∃ sign row, text.toList = sign ++ row ∧ (sign = [] ∨ sign = ['+']) ∧ row ≠ [] ∧
    (∀ c ∈ row, c ∈ digits) ∧ numeral row = n.toNat

/-- A text says a truth value: it is the name of that value. -/
def SaysFlag (text : String) (b : Bool) : Prop :=
  (text = "true" ∧ b = true) ∨ (text = "false" ∧ b = false)

theorem mem_digits_iff {c : Char} : c ∈ digits ↔ c.isDigit = true := by
  simp only [digits, List.mem_cons, List.not_mem_nil, or_false, Char.isDigit, ge_iff_le,
    Bool.and_eq_true, decide_eq_true_eq, UInt32.le_iff_toNat_le, Char.ext_iff,
    ← UInt32.toNat_inj]
  have hzero : '0'.val.toNat = 48 := rfl
  have hnine : '9'.val.toNat = 57 := rfl
  constructor
  · rintro (h | h | h | h | h | h | h | h | h | h) <;> rw [h] <;> decide
  · rintro ⟨hlow, hhigh⟩
    rw [hzero] at hlow
    rw [hnine] at hhigh
    show c.val.toNat = 48 ∨ c.val.toNat = 49 ∨ c.val.toNat = 50 ∨ c.val.toNat = 51 ∨
      c.val.toNat = 52 ∨ c.val.toNat = 53 ∨ c.val.toNat = 54 ∨ c.val.toNat = 55 ∨
      c.val.toNat = 56 ∨ c.val.toNat = 57
    omega

/-- The place of a digit among the digits is what it adds to the code of the zero. -/
theorem idxOf_digits {c : Char} (h : c ∈ digits) : digits.idxOf c = c.toNat - '0'.toNat := by
  have hall : digits.map digits.idxOf = digits.map fun c => c.toNat - '0'.toNat := rfl
  exact List.map_inj_left.mp hall c h

/-- Reading a row of digits from the front gives the number that its places say. -/
theorem ofDigitChars_eq_numeral {row : List Char} (h : ∀ c ∈ row, c ∈ digits) :
    Nat.ofDigitChars 10 row 0 = numeral row := by
  induction row with
  | nil => rfl
  | cons c row ih =>
    have hrest := ih fun d hd => h d (List.mem_cons_of_mem c hd)
    rw [Nat.ofDigitChars_cons, Nat.ofDigitChars_eq_ofDigitChars_zero, hrest, numeral,
      idxOf_digits (h c List.mem_cons_self)]
    ring

/-! ## What is read -/

/-- A text without the plus sign in front, if there is one. -/
def unsigned : List Char → List Char
  | '+' :: row => row
  | row => row

theorem unsigned_cases (cs : List Char) : cs = unsigned cs ∨ cs = '+' :: unsigned cs := by
  unfold unsigned
  split
  · exact .inr rfl
  · exact .inl rfl

/-- A digit is no sign. -/
theorem unsigned_of_mem_digits {row : List Char} (h : ∀ c ∈ row, c ∈ digits) :
    unsigned row = row := by
  unfold unsigned
  split
  · exact absurd (h '+' List.mem_cons_self) (by decide)
  · rfl

theorem sizeOfText?_eq (text : String) :
    sizeOfText? text =
      if (unsigned text.toList).isEmpty || !(unsigned text.toList).all Char.isDigit then none
      else if Nat.ofDigitChars 10 (unsigned text.toList) 0 < UInt64.size then
        some (.ofNat (Nat.ofDigitChars 10 (unsigned text.toList) 0))
      else none := rfl

/-- **The size that is read is the one that is said.** -/
theorem sizeOfText?_eq_some_iff {text : String} {n : UInt64} :
    sizeOfText? text = some n ↔ SaysSize text n := by
  rw [sizeOfText?_eq]
  constructor
  · intro h
    split at h
    · cases h
    · next hrow =>
      obtain ⟨hne, hall⟩ : unsigned text.toList ≠ [] ∧
          ∀ c ∈ unsigned text.toList, c.isDigit = true := by simpa using hrow
      have hdigits : ∀ c ∈ unsigned text.toList, c ∈ digits := fun c hc =>
        mem_digits_iff.mpr (hall c hc)
      split at h
      · next hlt =>
        have hvalue : numeral (unsigned text.toList) = n.toNat := by
          rw [← Option.some.inj h, UInt64.toNat_ofNat_of_lt' hlt, ofDigitChars_eq_numeral hdigits]
        rcases unsigned_cases text.toList with htext | htext
        · exact ⟨[], _, htext, .inl rfl, hne, hdigits, hvalue⟩
        · exact ⟨['+'], _, htext, .inr rfl, hne, hdigits, hvalue⟩
      · cases h
  · rintro ⟨sign, row, htext, hsign, hne, hdigits, hvalue⟩
    have hrow : unsigned text.toList = row := by
      rcases hsign with rfl | rfl
      · rw [htext, List.nil_append, unsigned_of_mem_digits hdigits]
      · rw [htext]
        rfl
    have hall : ¬((row.isEmpty || !row.all Char.isDigit) = true) := by
      simpa [hne] using fun c hc => mem_digits_iff.mp (hdigits c hc)
    rw [hrow, if_neg hall, ofDigitChars_eq_numeral hdigits, hvalue, if_pos n.toNat_lt,
      UInt64.ofNat_toNat]

example : ["", "+", "++1", "-1", " 1", "1_000", "\u0661"].map sizeOfText? =
    List.replicate 7 none := by
  decide +kernel

/-- The truth value that is read is the one that is said. -/
theorem flagOfText?_eq_some_iff {text : String} {b : Bool} :
    flagOfText? text = some b ↔ SaysFlag text b := by
  unfold flagOfText? SaysFlag
  split
  · next h => simp [h, eq_comm]
  · next h =>
    split
    · next h' => simp [h', eq_comm]
    · next h' => simp [h, h']

/-- **The decimal digits of a word say it.** -/
theorem saysSize_toString (n : UInt64) : SaysSize (toString n.toNat) n := by
  have htext : (toString n.toNat).toList = Nat.toDigits 10 n.toNat := Nat.toList_repr
  have hdigits : ∀ c ∈ Nat.toDigits 10 n.toNat, c ∈ digits := fun c hc =>
    mem_digits_iff.mpr (Decimal.isDigit_of_mem hc)
  refine ⟨[], Nat.toDigits 10 n.toNat, htext, .inl rfl, Nat.toDigits_ne_nil, hdigits, ?_⟩
  rw [← ofDigitChars_eq_numeral hdigits, Nat.ofDigitChars_ten_toDigits]

/-! ## Settings -/

/-- A setting with values of type `α`. -/
structure Setting (α : Type) where
  /-- The variable of the environment that overrides it. -/
  name : String
  /-- Its value in a configuration. -/
  value : Config → α
  /-- The texts that say a value of it. -/
  Says : String → α → Prop

namespace Setting

/-- The number of initial buffers. -/
def initialSize : Setting UInt64 := ⟨initialSizeVariable, (·.pool.initialSize), SaysSize⟩

/-- The room of a buffer. -/
def scratchCapacity : Setting UInt64 :=
  ⟨scratchCapacityVariable, (·.pool.scratchCapacity), SaysSize⟩

/-- Whether ids are kept. -/
def cacheServiceIds : Setting Bool :=
  ⟨cacheServiceIdsVariable, (·.resolution.cacheServiceIds), SaysFlag⟩

variable {α : Type}

/-- **A setting is overridden by its own variable, and only by what that says.** -/
structure Overridden (x : Setting α) (apply : (String → Option String) → Config → Config) :
    Prop where
  /-- It is set to a value, whatever it was, exactly if there is a text that says this value. -/
  set_iff : ∀ lookup a, (∀ c, x.value (apply lookup c) = a) ↔
    ∃ text, lookup x.name = some text ∧ x.Says text a
  /-- It is left as it was, whatever it was, exactly if there is no text or one that says
  nothing. -/
  kept_iff : ∀ lookup, (∀ c, x.value (apply lookup c) = x.value c) ↔
    ∀ text, lookup x.name = some text → ∀ a, ¬x.Says text a
  /-- What becomes of it does not depend on other variables or on other settings. -/
  alone : ∀ lookup lookup' c c', lookup x.name = lookup' x.name → x.value c = x.value c' →
    x.value (apply lookup c) = x.value (apply lookup' c')

/-- A setting is overridden if its variable is read, and its value put in the place of the old one
where one was read. -/
theorem overridden_of_eq {x : Setting α} {apply : (String → Option String) → Config → Config}
    {read? : String → Option α} (hread : ∀ text a, read? text = some a ↔ x.Says text a)
    (happly : ∀ lookup c, x.value (apply lookup c) = ((lookup x.name).bind read?).getD (x.value c))
    (hdiffer : ∀ a, ∃ c, x.value c ≠ a) : x.Overridden apply := by
  have hset (lookup : String → Option String) (a : α) : (lookup x.name).bind read? = some a ↔
      ∃ text, lookup x.name = some text ∧ x.Says text a := by
    rw [Option.bind_eq_some_iff]
    exact exists_congr fun text => and_congr_right fun _ => hread text a
  refine ⟨fun lookup a => ?_, fun lookup => ?_, fun lookup lookup' c c' hname hvalue => ?_⟩
  · rw [← hset]
    refine ⟨fun h => ?_, fun h c => by rw [happly, h, Option.getD_some]⟩
    -- a configuration with another value shows that something was read
    obtain ⟨c, hc⟩ := hdiffer a
    have hvalue := (happly lookup c).symm.trans (h c)
    cases hbind : (lookup x.name).bind read? with
    | none =>
      rw [hbind] at hvalue
      exact absurd hvalue hc
    | some b =>
      rw [hbind] at hvalue
      exact congrArg some hvalue
  · refine ⟨fun h text htext a hsays => ?_, fun h c => ?_⟩
    · obtain ⟨c, hc⟩ := hdiffer a
      have hvalue := (happly lookup c).symm.trans (h c)
      rw [(hset lookup a).mpr ⟨text, htext, hsays⟩] at hvalue
      exact hc hvalue.symm
    · cases hbind : (lookup x.name).bind read? with
      | none => rw [happly, hbind, Option.getD_none]
      | some a =>
        obtain ⟨text, htext, hsays⟩ := (hset lookup a).mp hbind
        exact absurd hsays (h text htext a)
  · rw [happly, happly, hname, hvalue]

end Setting

/-! ## Overriding -/

/-- A configuration after the environment has overridden what it overrides. -/
def overriddenBy (lookup : String → Option String) (c : Config) : Config :=
  (applyOverrides lookup (Scene.fresh c) : Ending Empty Unit × Scene Config Deed).2.state

/-- Overriding puts the layer of the environment over a configuration. -/
theorem overriddenBy_eq (lookup : String → Option String) (c : Config) :
    overriddenBy lookup c = (Layer.ofEnvironment lookup).onto c := by
  obtain ⟨J, h, -⟩ := applyOverrides_apply (ε := Empty) lookup (.fresh c)
  rw [overriddenBy, h]
  rfl

/-- A layer put over a configuration twice is put over it once. -/
theorem Layer.onto_onto (layer : Layer) (c : Config) :
    layer.onto (layer.onto c) = layer.onto c := by
  obtain ⟨_ | n, _ | m, _ | b⟩ := layer <;> rfl

/-- **The environment overrides just what it says.** Overriding always succeeds, and what it makes
of a configuration does not depend on anything else. Each setting is overridden by its own variable,
and only by what that says; the decimal digits of a word say it. Overriding twice is overriding
once. -/
theorem overrides_exact :
    (∀ {ε : Type} (lookup : String → Option String) (s : Scene Config Deed), ∃ J,
      (applyOverrides lookup s : Ending ε Unit × Scene Config Deed) =
        (.ok (), ⟨overriddenBy lookup s.state, J⟩)) ∧
    Setting.initialSize.Overridden overriddenBy ∧
    Setting.scratchCapacity.Overridden overriddenBy ∧
    Setting.cacheServiceIds.Overridden overriddenBy ∧
    (∀ x ∈ [Setting.initialSize, Setting.scratchCapacity], ∀ lookup (n : UInt64),
      lookup x.name = some (toString n.toNat) → ∀ c, x.value (overriddenBy lookup c) = n) ∧
    ∀ lookup c, overriddenBy lookup (overriddenBy lookup c) = overriddenBy lookup c := by
  have hsize : ∀ n : UInt64, ∃ m, m ≠ n := fun n => ⟨n + 1, by simp⟩
  have hinitial : Setting.initialSize.Overridden overriddenBy :=
    Setting.overridden_of_eq (fun _ _ => sizeOfText?_eq_some_iff)
      (fun lookup c => by rw [overriddenBy_eq]; rfl)
      (fun n => (hsize n).elim fun m hm => ⟨{ pool := { initialSize := m } }, hm⟩)
  have hscratch : Setting.scratchCapacity.Overridden overriddenBy :=
    Setting.overridden_of_eq (fun _ _ => sizeOfText?_eq_some_iff)
      (fun lookup c => by rw [overriddenBy_eq]; rfl)
      (fun n => (hsize n).elim fun m hm => ⟨{ pool := { scratchCapacity := m } }, hm⟩)
  have hcache : Setting.cacheServiceIds.Overridden overriddenBy :=
    Setting.overridden_of_eq (fun _ _ => flagOfText?_eq_some_iff)
      (fun lookup c => by rw [overriddenBy_eq]; rfl)
      (fun b => ⟨{ resolution := { cacheServiceIds := !b } }, by simp [Setting.cacheServiceIds]⟩)
  refine ⟨fun lookup s => ?_, hinitial, hscratch, hcache, fun x hx lookup n htext => ?_,
    fun lookup c => ?_⟩
  · obtain ⟨J, h, -⟩ := applyOverrides_apply lookup s
    exact ⟨J, by rw [h, overriddenBy_eq]⟩
  · rcases List.mem_pair.mp hx with rfl | rfl
    · exact (hinitial.set_iff lookup n).mpr ⟨_, htext, saysSize_toString n⟩
    · exact (hscratch.set_iff lookup n).mpr ⟨_, htext, saysSize_toString n⟩
  · rw [overriddenBy_eq, overriddenBy_eq, Layer.onto_onto]

/-- An environment in which one variable says a size, with a sign and zeros in front. Another one is
a size too great by one, and the third is almost a truth value. -/
def muddled (name : String) : Option String :=
  if name = initialSizeVariable then some "+007"
  else if name = scratchCapacityVariable then some "18446744073709551616"
  else if name = cacheServiceIdsVariable then some "True"
  else none

/-- The one variable overrides its setting, and the two others override nothing. The size that is
not too great overrides its setting. -/
theorem overrides_exact_muddled :
    (SaysSize "+007" 7 ∧ (∀ n, ¬SaysSize "18446744073709551616" n) ∧ ∀ b, ¬SaysFlag "True" b) ∧
    (∀ c, overriddenBy muddled c = { c with pool.initialSize := 7 }) ∧
    ∀ c, (overriddenBy (fun _ => some "18446744073709551615") c).pool.scratchCapacity =
      18446744073709551615 := by
  have hsize : SaysSize "+007" 7 := sizeOfText?_eq_some_iff.mp (by decide +kernel)
  have hgreat (n : UInt64) : ¬SaysSize "18446744073709551616" n := fun h => by
    have hread : sizeOfText? "18446744073709551616" = none := by decide +kernel
    exact absurd (hread.symm.trans (sizeOfText?_eq_some_iff.mpr h)) nofun
  have hflag (b : Bool) : ¬SaysFlag "True" b := fun h => by
    have hread : flagOfText? "True" = none := by decide +kernel
    exact absurd (hread.symm.trans (flagOfText?_eq_some_iff.mpr h)) nofun
  have hlookup : muddled initialSizeVariable = some "+007" ∧
      muddled scratchCapacityVariable = some "18446744073709551616" ∧
      muddled cacheServiceIdsVariable = some "True" := by decide +kernel
  have hword : toString (18446744073709551615 : UInt64).toNat = "18446744073709551615" := by
    decide +kernel
  obtain ⟨-, hinitial, hscratch, hcache, hwritten, -⟩ := overrides_exact
  have hset := (hinitial.set_iff muddled 7).mpr ⟨_, hlookup.1, hsize⟩
  have hkept := (hscratch.kept_iff muddled).mpr fun text htext n hsays =>
    hgreat n (Option.some.inj (htext.symm.trans hlookup.2.1) ▸ hsays)
  have hcached := (hcache.kept_iff muddled).mpr fun text htext b hsays =>
    hflag b (Option.some.inj (htext.symm.trans hlookup.2.2) ▸ hsays)
  refine ⟨⟨hsize, hgreat, hflag⟩, fun c => ?_, fun c => ?_⟩
  · have hpool : (overriddenBy muddled c).pool = { c.pool with initialSize := 7 } :=
      congrArg₂ PoolSection.mk (hset c) (hkept c)
    have hresolution : (overriddenBy muddled c).resolution = c.resolution :=
      congrArg ResolutionSection.mk (hcached c)
    exact congrArg₂ Config.mk hpool hresolution
  · exact hwritten Setting.scratchCapacity (by simp) (fun _ => some "18446744073709551615")
      18446744073709551615 (congrArg some hword.symm) c

end Config

end ConverterKit
