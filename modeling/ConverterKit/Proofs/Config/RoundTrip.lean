import ConverterKit.Config.Render
import ConverterKit.Proofs.Config.Layers
import Mathlib.Algebra.Group.Nat.Defs

/-!
# Configurations are read back

A configuration whose sizes have a written form is written as a document with all of its settings,
and reading the document gives the configuration back: the settings of the document are those of the
configuration, so nothing is left to the defaults. Only whether a converter could run with it is
judged anew. Of a size that TOML has no integers for nothing is written at all.

## Main definitions

* `Config.writtenLines`, `Config.lines`: the document of a configuration, as texts and as lines
* `Config.document`: what is in it
* `Config.RoundTrip`: what becomes of a configuration that is written and read

## Main results

* `isSome_render?_iff`: which configurations can be written
* `ofText?_of_render?`: what is written is read as the configuration
* `round_trips`: writing and reading, with the judgement
-/

namespace ConverterKit

namespace Config

open Toml (Item Entries Line fits)

variable (c : Config)

/-! ## The document -/

/-- The lines of the document of a configuration, as they are written. -/
def writtenLines : List (List Char) :=
  ['[' :: ("pool".toList ++ [']']),
    "initial_size".toList ++ ' ' :: '=' :: ' ' :: Nat.toDigits 10 c.pool.initialSize.toNat,
    "scratch_capacity".toList ++ ' ' :: '=' :: ' ' :: Nat.toDigits 10 c.pool.scratchCapacity.toNat,
    [],
    '[' :: ("resolution".toList ++ [']']),
    "cache_service_ids".toList ++
      ' ' :: '=' :: ' ' :: (Text.ofBool c.resolution.cacheServiceIds).toList]

/-- The lines of the document of a configuration. -/
def lines : List Line :=
  [.table [] "pool",
    .setting [] "initial_size" (ofSize c.pool.initialSize),
    .setting [] "scratch_capacity" (ofSize c.pool.scratchCapacity),
    .blank,
    .table [] "resolution",
    .setting [] "cache_service_ids" (ofFlag c.resolution.cacheServiceIds)]

/-- What is in the document of a configuration. -/
def document : Entries :=
  [("pool", .table .header
      [("initial_size", ofSize c.pool.initialSize),
        ("scratch_capacity", ofSize c.pool.scratchCapacity)]),
    ("resolution", .table .header
      [("cache_service_ids", ofFlag c.resolution.cacheServiceIds)])]

/-- All settings of a configuration. -/
def settings : Layer where
  initialSize := some c.pool.initialSize
  scratchCapacity := some c.pool.scratchCapacity
  cacheServiceIds := some c.resolution.cacheServiceIds

theorem settings_onto (d : Config) : c.settings.onto d = c := rfl

/-- The document says the settings of the configuration. -/
theorem settings_stands : c.settings.Stands c.document where
  pool _ h := ⟨_, _, (Option.some.inj h).symm⟩
  resolution _ h := ⟨_, _, (Option.some.inj h).symm⟩
  initialSize := rfl
  scratchCapacity := rfl
  cacheServiceIds := rfl

/-- The lines make up the document. -/
theorem foldlM_lines :
    (do (← c.lines.foldlM Toml.Draft.addLine {}).close : Option Entries) = some c.document := by
  rfl

/-! ## Writing -/

theorem fits_iff (n : UInt64) : fits n.toNat = true ↔ n.toNat ≤ 2 ^ 63 - 1 := by
  have hbounds : Int64.minValue.toInt = -2 ^ 63 ∧ Int64.maxValue.toInt = 2 ^ 63 - 1 := by decide
  rw [fits, decide_eq_true_iff, hbounds.1, hbounds.2]
  omega

/-- **A configuration can be written exactly if its sizes have 63 bits.** -/
theorem isSome_render?_iff : c.render?.isSome = true ↔
    c.pool.initialSize.toNat ≤ 2 ^ 63 - 1 ∧ c.pool.scratchCapacity.toNat ≤ 2 ^ 63 - 1 := by
  rw [← fits_iff, ← fits_iff, ← Bool.and_eq_true, render?]
  split
  · next h => simp [h]
  · next h => simp [h]

/-- What is written are the lines of the document. -/
theorem toList_of_render? {text : String} (h : c.render? = some text) :
    text.toList = c.writtenLines.flatMap (· ++ ['\n']) := by
  rw [render?] at h
  split at h
  · obtain rfl := Option.some.inj h
    simp [writtenLines]
  · exact absurd h nofun

/-! ## Reading -/

/-- The texts stand for the lines. -/
theorem isWritten_lines (hinitial : c.pool.initialSize.toNat ≤ 2 ^ 63 - 1)
    (hscratch : c.pool.scratchCapacity.toNat ≤ 2 ^ 63 - 1) :
    List.Forall₂ Line.IsWritten c.writtenLines c.lines := by
  have hpool : Toml.IsBare "pool" := by decide
  have hinitialSize : Toml.IsBare "initial_size" := by decide
  have hscratchCapacity : Toml.IsBare "scratch_capacity" := by decide
  have hresolution : Toml.IsBare "resolution" := by decide
  have hcacheServiceIds : Toml.IsBare "cache_service_ids" := by decide
  exact .cons (Line.isWritten_table hpool) <|
    .cons (Line.isWritten_digits hinitialSize ((fits_iff _).mpr hinitial)) <|
    .cons (Line.isWritten_digits hscratchCapacity ((fits_iff _).mpr hscratch)) <|
    .cons Line.isWritten_blank <|
    .cons (Line.isWritten_table hresolution) <|
    .cons (Line.isWritten_ofBool hcacheServiceIds _) .nil

/-- **What is written is read as the configuration**, whether or not a converter can run with it. -/
theorem ofText?_of_render? {text : String} (h : c.render? = some text) :
    ofText? text = some c := by
  obtain ⟨hinitial, hscratch⟩ := c.isSome_render?_iff.mp (Option.isSome_of_eq_some h)
  have hlines : Toml.lines? text.toList = some c.lines := by
    rw [c.toList_of_render? h]
    exact Toml.lines?_of_isWritten (c.isWritten_lines hinitial hscratch) (by simp [writtenLines])
  have hdocument : Toml.parse? text.toList = some c.document := by
    rw [Toml.parse?, hlines]
    exact c.foldlM_lines
  calc ofText? text = ofDocument? c.document := by rw [ofText?, hdocument]; rfl
    _ = some (c.settings.onto {}) := c.settings_stands.ofDocument?
    _ = some c := by rw [settings_onto]

/-- What becomes of a configuration that is written and read. -/
structure RoundTrip (c : Config) : Prop where
  /-- A configuration whose sizes have 63 bits is written, and read back unless its buffers have no
  room. -/
  back : c.pool.initialSize.toNat ≤ 2 ^ 63 - 1 → c.pool.scratchCapacity.toNat ≤ 2 ^ 63 - 1 →
    ∃ text, c.render? = some text ∧ parse text =
      if c.pool.scratchCapacity = 0 then .error (.invalid noScratchCapacity) else .ok c
  /-- Another one is not written. -/
  unwritten : 2 ^ 63 - 1 < c.pool.initialSize.toNat ∨ 2 ^ 63 - 1 < c.pool.scratchCapacity.toNat →
    c.render? = none
  /-- What is written is not read as any other configuration. -/
  only : ∀ text d, c.render? = some text → parse text = .ok d → d = c

/-- **A configuration makes the round trip through its document.** -/
theorem round_trips : RoundTrip c := by
  have hparse : ∀ text, c.render? = some text → parse text =
      if c.pool.scratchCapacity = 0 then .error (.invalid noScratchCapacity) else .ok c := by
    intro text h
    simp only [parse, c.ofText?_of_render? h, checked, validate]
    split <;> rfl
  constructor
  case back =>
    intro hinitial hscratch
    obtain ⟨text, h⟩ := Option.isSome_iff_exists.mp (c.isSome_render?_iff.mpr ⟨hinitial, hscratch⟩)
    exact ⟨text, h, hparse text h⟩
  case unwritten =>
    intro hlarge
    rw [← Option.not_isSome_iff_eq_none, isSome_render?_iff]
    omega
  case only =>
    intro text d h hd
    rw [hparse text h] at hd
    split at hd
    · cases hd
    · exact (Except.ok.inj hd).symm

/-- A configuration with as many buffers as can be written, each with the given room. -/
def crowded (scratchCapacity : UInt64) : Config where
  pool := { initialSize := 9223372036854775807, scratchCapacity }
  resolution.cacheServiceIds := false

/-- With room it is read back, without room it is refused, and with one byte more than can be
written it is not written. -/
theorem round_trips_crowded :
    (∃ text, (crowded 1).render? = some text ∧ parse text = .ok (crowded 1)) ∧
      (∃ text, (crowded 0).render? = some text ∧
        parse text = .error (.invalid noScratchCapacity)) ∧
      (crowded 9223372036854775808).render? = none :=
  ⟨(round_trips (crowded 1)).back (by decide) (by decide),
    (round_trips (crowded 0)).back (by decide) (by decide),
    (round_trips (crowded 9223372036854775808)).unwritten (.inr (by decide))⟩

end Config

end ConverterKit
