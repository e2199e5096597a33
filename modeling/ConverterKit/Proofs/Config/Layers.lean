import ConverterKit.Config.Load
import ConverterKit.Proofs.Toml.Lines

/-!
# Layers of settings

A configuration comes about in layers: the defaults, over them what the file says, over that what
the environment says. A layer speaks about some of the three settings and leaves the others to the
layer below. Only what comes out at the top has to be a configuration that a converter can run with.

The environment is asked for its three variables in a fixed order, once each, and only when there is
a file with a document whose settings are of the right kind.

## Main definitions

* `Layer`, `Layer.onto`: some settings, and a configuration with these settings over it
* `Layer.ofEnvironment`: the settings of the environment
* `Layer.Stands`: a document says these settings and no others
* `askedFor`: the variables that the environment was asked for
* `Layered`: how a file is loaded

## Main results

* `applyOverrides_apply`: overriding puts the layer of the environment over a configuration
* `Layer.Stands.ofDocument?`: the configuration of a document is its layer over the defaults
* `load_layered`: a configuration is loaded in layers
-/

namespace ConverterKit

/-- The ending of something that cannot panic. -/
def Ending.ofExcept {ε α : Type} : Except ε α → Ending ε α
  | .ok a => .ok a
  | .error e => .error e

theorem Act.ofExcept_apply {σ δ ε α : Type} (r : Except ε α) (s : Scene σ δ) :
    (Act.ofExcept r : Act σ δ ε α) s = (.ofExcept r, s) := by
  cases r <;> rfl

namespace Config

open Toml (Item Entries)

variable {ε : Type}

/-! ## Layers -/

/-- Some of the settings of a configuration. -/
structure Layer where
  /-- The number of initial buffers. -/
  initialSize : Option UInt64 := none
  /-- The room of a buffer. -/
  scratchCapacity : Option UInt64 := none
  /-- Whether ids are kept. -/
  cacheServiceIds : Option Bool := none

namespace Layer

/-- A configuration with the settings of a layer over it, each of them by itself. -/
def onto (layer : Layer) (c : Config) : Config where
  pool.initialSize := layer.initialSize.getD c.pool.initialSize
  pool.scratchCapacity := layer.scratchCapacity.getD c.pool.scratchCapacity
  resolution.cacheServiceIds := layer.cacheServiceIds.getD c.resolution.cacheServiceIds

/-- A layer without settings changes nothing. -/
theorem empty_onto (c : Config) : ({} : Layer).onto c = c := rfl

/-- The settings of an environment: those of its variables whose text says a value. -/
def ofEnvironment (lookup : String → Option String) : Layer where
  initialSize := (lookup initialSizeVariable).bind sizeOfText?
  scratchCapacity := (lookup scratchCapacityVariable).bind sizeOfText?
  cacheServiceIds := (lookup cacheServiceIdsVariable).bind flagOfText?

/-- An environment without variables has no settings. -/
theorem ofEnvironment_of_none {lookup : String → Option String} (h : ∀ name, lookup name = none) :
    ofEnvironment lookup = {} := by
  simp only [ofEnvironment, h, Option.bind_none]

end Layer

/-! ## The layer of a document -/

/-- What a document has under a name in the table of a section. -/
def setting? (section? name : String) (document : Entries) : Option Item :=
  match Named.find? section? document with
  | some (.table _ entries) => Named.find? name entries
  | _ => none

/-- What a document has in the place of a section is a table. -/
def IsTable (section? : String) (document : Entries) : Prop :=
  ∀ item, Named.find? section? document = some item → ∃ origin entries, item = .table origin entries

/-- A size as it stands in a document. -/
def ofSize (n : UInt64) : Item := .scalar (.integer n.toNat)

/-- A truth value as it stands in a document. -/
def ofFlag (b : Bool) : Item := .scalar (.boolean b)

/-- A document says these settings and no others, in tables, each with a value of the right kind.
What else it says does not matter. -/
structure Layer.Stands (layer : Layer) (document : Entries) : Prop where
  pool : IsTable "pool" document
  resolution : IsTable "resolution" document
  initialSize : setting? "pool" "initial_size" document = layer.initialSize.map ofSize
  scratchCapacity : setting? "pool" "scratch_capacity" document = layer.scratchCapacity.map ofSize
  cacheServiceIds :
    setting? "resolution" "cache_service_ids" document = layer.cacheServiceIds.map ofFlag

/-- A section that is a table gives its settings by name. -/
theorem IsTable.exists_fields {section? : String} {document : Entries}
    (h : IsTable section? document) :
    ∃ fields, Fields.ofSection? section? document = some fields ∧
      ∀ name position, fields.item? name position = setting? section? name document := by
  rcases hfind : Named.find? section? document with _ | item
  · refine ⟨.named [], ?_, fun name position => ?_⟩
    · simp only [Fields.ofSection?, hfind]
    · simp only [Fields.item?, setting?, hfind, Named.find?]
  · obtain ⟨origin, entries, rfl⟩ := h item hfind
    refine ⟨.named entries, ?_, fun name position => ?_⟩
    · simp only [Fields.ofSection?, hfind, Fields.ofItem?]
    · simp only [Fields.item?, setting?, hfind]

theorem sizeOfItem?_ofSize (n : UInt64) : sizeOfItem? (ofSize n) = some n := by
  simp [sizeOfItem?, ofSize]

theorem flagOfItem?_ofFlag (b : Bool) : flagOfItem? (ofFlag b) = some b := rfl

/-- A setting that is missing has its default value, and one that is there the value it says. -/
theorem value?_of_item? {α : Type} {fields : Fields} {name : String} {position : Nat}
    {read? : Item → Option α} {write : α → Item} {value : Option α} (default : α)
    (hread : ∀ a, read? (write a) = some a)
    (hitem : fields.item? name position = value.map write) :
    fields.value? name position read? default = some (value.getD default) := by
  rw [Fields.value?, hitem]
  cases value with
  | none => rfl
  | some a => exact hread a

/-- **The configuration of a document is its layer over the defaults.** -/
theorem Layer.Stands.ofDocument? {layer : Layer} {document : Entries} (h : layer.Stands document) :
    ofDocument? document = some (layer.onto {}) := by
  obtain ⟨poolFields, hpool, hpoolItem⟩ := h.pool.exists_fields
  obtain ⟨resolutionFields, hresolution, hresolutionItem⟩ := h.resolution.exists_fields
  have hinitial := value?_of_item? ({} : PoolSection).initialSize sizeOfItem?_ofSize
    ((hpoolItem "initial_size" 0).trans h.initialSize)
  have hscratch := value?_of_item? ({} : PoolSection).scratchCapacity sizeOfItem?_ofSize
    ((hpoolItem "scratch_capacity" 1).trans h.scratchCapacity)
  have hcache := value?_of_item? ({} : ResolutionSection).cacheServiceIds flagOfItem?_ofFlag
    ((hresolutionItem "cache_service_ids" 0).trans h.cacheServiceIds)
  simp only [Config.ofDocument?, hpool, hresolution, hinitial, hscratch, hcache, bind,
    Option.bind_some]
  rfl

/-! ## The layer of the environment -/

/-- The variables that the environment was asked for. -/
def askedFor (J : Array Deed) : List String := J.toList.filterMap Deed.asked?

/-- The variables that the environment is asked for, in this order. -/
def environmentVariables : List String :=
  [initialSizeVariable, scratchCapacityVariable, cacheServiceIdsVariable]

/-- An override uses the value of its variable, if the text of the variable says one, and asks for
no other variable. -/
theorem override_apply {α : Type} (lookup : String → Option String) (name : String)
    (read? : String → Option α) (use : α → Config → Config) (report : α → Log.Event)
    (s : Scene Config Deed) :
    ∃ J, (override lookup name read? use report : Work ε Unit) s = (.ok (),
        ⟨(((lookup name).bind read?).map use).getD id s.state, J⟩) ∧
      askedFor J = askedFor s.journal ++ [name] := by
  rcases hvalue : (lookup name).bind read? with _ | a
  · refine ⟨s.journal.push (.asked name), ?_, ?_⟩
    · simp only [override, Act.bind_apply, Act.note_apply, hvalue]
      rfl
    · simp [askedFor, Deed.asked?]
  · refine ⟨(s.journal.push (.asked name)).push (.reported (report a)), ?_, ?_⟩
    · simp only [override, Act.bind_apply, Act.note_apply, hvalue]
      rfl
    · simp [askedFor, Deed.asked?]

/-- **Overriding puts the layer of the environment over the configuration**, and asks for each
variable once. -/
theorem applyOverrides_apply (lookup : String → Option String) (s : Scene Config Deed) :
    ∃ J, (applyOverrides lookup : Work ε Unit) s =
        (.ok (), ⟨(Layer.ofEnvironment lookup).onto s.state, J⟩) ∧
      askedFor J = askedFor s.journal ++ environmentVariables := by
  obtain ⟨J₁, h₁, hasked₁⟩ := override_apply (ε := ε) lookup initialSizeVariable sizeOfText?
    (fun n c => { c with pool.initialSize := n })
    (fun n => overridden "initial_size" "size" (.number n.toNat)) s
  obtain ⟨J₂, h₂, hasked₂⟩ := override_apply (ε := ε) lookup scratchCapacityVariable sizeOfText?
    (fun n c => { c with pool.scratchCapacity := n })
    (fun n => overridden "scratch_capacity" "capacity" (.number n.toNat)) ⟨_, J₁⟩
  obtain ⟨J₃, h₃, hasked₃⟩ := override_apply (ε := ε) lookup cacheServiceIdsVariable flagOfText?
    (fun b c => { c with resolution.cacheServiceIds := b })
    (fun b => overridden "cache_service_ids" "cache" (.flag b)) ⟨_, J₂⟩
  refine ⟨J₃, ?_, ?_⟩
  · rw [applyOverrides, Act.bind_of_ok h₁, Act.bind_of_ok h₂, h₃]
    simp only [Layer.onto, Layer.ofEnvironment]
    cases (lookup initialSizeVariable).bind sizeOfText? <;>
      cases (lookup scratchCapacityVariable).bind sizeOfText? <;>
        cases (lookup cacheServiceIdsVariable).bind flagOfText? <;> rfl
  · rw [hasked₃, hasked₂, hasked₁]
    simp [environmentVariables]

/-! ## The verdict -/

/-- What is made of a configuration: it is refused if its buffers have no room. -/
def verdict (c : Config) : Ending LoadError Config :=
  if c.pool.scratchCapacity = 0 then .error (.invalid noScratchCapacity) else .ok c

theorem ofExcept_checked (c : Config) : Ending.ofExcept c.checked = c.verdict := by
  rw [checked, validate, verdict]
  split <;> rfl

/-- What is finished is judged with the layer of the environment over it. -/
theorem finish_apply (lookup : String → Option String) (s : Scene Config Deed) :
    ∃ t, finish lookup s = (((Layer.ofEnvironment lookup).onto s.state).verdict, t) ∧
      askedFor t.journal = askedFor s.journal ++ environmentVariables := by
  obtain ⟨J, hrun, hasked⟩ := applyOverrides_apply (ε := LoadError) lookup s
  refine ⟨⟨(Layer.ofEnvironment lookup).onto s.state, J⟩, ?_, hasked⟩
  rw [finish, Act.bind_of_ok hrun, Act.bind_of_ok (Act.state_apply _), Act.ofExcept_apply,
    ofExcept_checked]

/-- A text is judged as it is. -/
theorem ofExcept_parse (text : String) : Ending.ofExcept (parse text) =
    match ofText? text with
    | some c => c.verdict
    | none => .error .malformed := by
  rw [parse]
  cases ofText? text with
  | none => rfl
  | some c => exact ofExcept_checked c

/-! ## Loading -/

section

variable {contents : String → Except ReadFailure ByteArray} {lookup : String → Option String}
  {path text : String}

/-- The bytes of a text are read as the text. -/
theorem decodeText_toUTF8 (text : String) : decodeText text.toUTF8 = .ok text := by
  have hvalid : String.fromUTF8? text.toUTF8 = some text := dif_pos text.isValidUTF8
  simp only [decodeText, hvalid]

/-- A file that cannot be read is not loaded, and nothing is asked. -/
theorem load_of_error {failure : ReadFailure}
    (h : (contents path).bind decodeText = .error failure) (s : Scene Config Deed) :
    load contents lookup path s =
      (.error (.unreadable path failure), ⟨s.state, s.journal.push (.reported (loading path))⟩) := by
  have hread : ((contents path).bind decodeText).mapError (LoadError.unreadable path) =
      .error (.unreadable path failure) := by
    rw [h]
    rfl
  simp only [load, Act.bind_apply, Act.note_apply, hread, Act.ofExcept_apply, Ending.ofExcept]

/-- A file that can be read is taken for its text. -/
theorem mapError_of_ok (h : (contents path).bind decodeText = .ok text) :
    ((contents path).bind decodeText).mapError (LoadError.unreadable path) = .ok text := by
  rw [h]
  rfl

/-- A text that says no configuration is not loaded, and nothing is asked. -/
theorem load_of_malformed (h : (contents path).bind decodeText = .ok text)
    (htext : ofText? text = none) (s : Scene Config Deed) :
    load contents lookup path s =
      (.error .malformed, ⟨s.state, s.journal.push (.reported (loading path))⟩) := by
  simp only [load, Act.bind_apply, Act.note_apply, mapError_of_ok h, Act.ofExcept_apply,
    Ending.ofExcept, htext, Act.fail_apply]

variable (lookup) in
/-- A text that says a configuration is judged with the layer of the environment over it. -/
theorem load_of_ofText? (h : (contents path).bind decodeText = .ok text) {c : Config}
    (htext : ofText? text = some c) (s : Scene Config Deed) :
    ∃ t, load contents lookup path s = (((Layer.ofEnvironment lookup).onto c).verdict, t) ∧
      askedFor t.journal = askedFor s.journal ++ environmentVariables := by
  obtain ⟨t, ht, hasked⟩ := finish_apply lookup
    (⟨c, s.journal.push (.reported (loading path))⟩ : Scene Config Deed)
  refine ⟨t, ?_, ?_⟩
  · simp only [load, Act.bind_apply, Act.note_apply, mapError_of_ok h, Act.ofExcept_apply,
      Ending.ofExcept, htext, Act.put_apply]
    exact ht
  · rw [hasked]
    simp [askedFor, Deed.asked?]

end

/-- How a file is loaded, given what is in it and the environment, and what has been noted
before. -/
structure Layered (contents : String → Except ReadFailure ByteArray)
    (lookup : String → Option String) (path : String) (s : Scene Config Deed) : Prop where
  /-- Where the file cannot be read, that is the error, and the environment is not asked. -/
  unreadable : ∀ failure, (contents path).bind decodeText = .error failure →
    (load contents lookup path s).1 = .error (.unreadable path failure) ∧
      askedFor (load contents lookup path s).2.journal = askedFor s.journal
  /-- Where its text says no configuration, that is the error, and the environment is not asked. -/
  malformed : ∀ text, (contents path).bind decodeText = .ok text → ofText? text = none →
    (load contents lookup path s).1 = .error .malformed ∧
      askedFor (load contents lookup path s).2.journal = askedFor s.journal
  /-- Otherwise the environment is asked for every variable once, in their order. -/
  asked : ∀ text, (contents path).bind decodeText = .ok text → ofText? text ≠ none →
    askedFor (load contents lookup path s).2.journal = askedFor s.journal ++ environmentVariables
  /-- Where the text is a document with these settings, the configuration has each setting of the
  environment, else that of the document, else the default; and it is there unless its buffers have
  no room. -/
  layers : ∀ text document (file : Layer), (contents path).bind decodeText = .ok text →
    Toml.parse? text.toList = some document → file.Stands document →
      ofText? text ≠ none ∧ (load contents lookup path s).1 =
        let c := (Layer.ofEnvironment lookup).onto (file.onto {})
        if c.pool.scratchCapacity = 0 then .error (.invalid noScratchCapacity) else .ok c
  /-- Where the environment has no variables, a file is loaded as its text is parsed. -/
  silent : ∀ text, (contents path).bind decodeText = .ok text → (∀ name, lookup name = none) →
    (load contents lookup path s).1 = .ofExcept (parse text)
  /-- A file without text is loaded as the environment alone. -/
  empty : (contents path).bind decodeText = .ok "" →
    (load contents lookup path s).1 = (ofEnvironment lookup s).1

/-- **A configuration is loaded in layers.** -/
theorem load_layered (contents : String → Except ReadFailure ByteArray)
    (lookup : String → Option String) (path : String) (s : Scene Config Deed) :
    Layered contents lookup path s := by
  have hloading : askedFor (s.journal.push (.reported (loading path))) =
      askedFor s.journal := by
    simp [askedFor, Deed.asked?]
  constructor
  case unreadable =>
    intro failure h
    rw [load_of_error h]
    exact ⟨rfl, hloading⟩
  case malformed =>
    intro text h htext
    rw [load_of_malformed h htext]
    exact ⟨rfl, hloading⟩
  case asked =>
    intro text h htext
    obtain ⟨c, hc⟩ := Option.ne_none_iff_exists'.mp htext
    obtain ⟨t, ht, hasked⟩ := load_of_ofText? lookup h hc s
    rw [ht]
    exact hasked
  case layers =>
    intro text document file h hdocument hstands
    have htext : ofText? text = some (file.onto {}) := by
      rw [ofText?, hdocument]
      exact hstands.ofDocument?
    obtain ⟨t, ht, -⟩ := load_of_ofText? lookup h htext s
    rw [ht, htext]
    exact ⟨nofun, rfl⟩
  case silent =>
    intro text h hlookup
    rw [ofExcept_parse]
    rcases htext : ofText? text with _ | c
    · rw [load_of_malformed h htext]
    · obtain ⟨t, ht, -⟩ := load_of_ofText? lookup h htext s
      rw [ht, Layer.ofEnvironment_of_none hlookup, Layer.empty_onto]
  case empty =>
    intro h
    have htext : ofText? "" = some {} := by decide +kernel
    obtain ⟨t, ht, -⟩ := load_of_ofText? lookup h htext s
    obtain ⟨u, hu, -⟩ := finish_apply lookup (⟨{}, s.journal⟩ : Scene Config Deed)
    have henvironment : ofEnvironment lookup s =
        (((Layer.ofEnvironment lookup).onto {}).verdict, u) := by
      rw [ofEnvironment, Act.bind_of_ok (Act.put_apply _ _), hu]
    rw [ht, henvironment]

/-- A file that says one setting, a bad one, among much else. -/
def feedFile : String :=
  "retries = 3\n[resolution]\nprefetch = true\n\n[pool]\nscratch_capacity = 0\nunknown = 1\n"

/-- What is in the file. -/
def feedDocument : Entries :=
  [("retries", .scalar (.integer 3)),
    ("resolution", .table .header [("prefetch", .scalar (.boolean true))]),
    ("pool", .table .header
      [("scratch_capacity", .scalar (.integer 0)), ("unknown", .scalar (.integer 1))])]

/-- The file is read line by line. -/
theorem parse?_feedFile : Toml.parse? feedFile.toList = some feedDocument := by
  have hwritten := List.Forall₂.cons
    (Toml.Line.isWritten_digits (n := 3) (show Toml.IsBare "retries" by decide) (by decide)) <|
    .cons (Toml.Line.isWritten_table (show Toml.IsBare "resolution" by decide)) <|
    .cons (Toml.Line.isWritten_ofBool (show Toml.IsBare "prefetch" by decide) true) <|
    .cons Toml.Line.isWritten_blank <|
    .cons (Toml.Line.isWritten_table (show Toml.IsBare "pool" by decide)) <|
    .cons (Toml.Line.isWritten_digits (n := 0) (show Toml.IsBare "scratch_capacity" by decide)
      (by decide)) <|
    .cons (Toml.Line.isWritten_digits (n := 1) (show Toml.IsBare "unknown" by decide)
      (by decide)) .nil
  have hlines := (congrArg Toml.lines? (show feedFile.toList = _ by decide +kernel)).trans
    (Toml.lines?_of_isWritten hwritten (by decide))
  rw [Toml.parse?, hlines]
  rfl

/-- An environment with a good value for the same setting, and a bad one for another. -/
def repairing (name : String) : Option String :=
  if name = scratchCapacityVariable then some "+512"
  else if name = initialSizeVariable then some "many"
  else none

/-- The environment repairs the file, which could not be loaded without it. -/
theorem load_layered_repaired :
    Toml.parse? feedFile.toList = some feedDocument ∧
      ({ scratchCapacity := some 0 } : Layer).Stands feedDocument ∧
      (load (fun _ => .ok feedFile.toUTF8) repairing "feeds.toml" (.fresh {})).1 =
        .ok { pool := { scratchCapacity := 512 } } ∧
      (load (fun _ => .ok feedFile.toUTF8) (fun _ => none) "feeds.toml" (.fresh {})).1 =
        .error (.invalid noScratchCapacity) := by
  have hstands : ({ scratchCapacity := some 0 } : Layer).Stands feedDocument :=
    ⟨fun item h => ⟨_, _, (Option.some.inj h).symm⟩,
      fun item h => ⟨_, _, (Option.some.inj h).symm⟩, rfl, rfl, rfl⟩
  have hbytes : ((fun _ => .ok feedFile.toUTF8 : String → Except ReadFailure ByteArray)
      "feeds.toml").bind decodeText = .ok feedFile := decodeText_toUTF8 feedFile
  have hinitial : (repairing initialSizeVariable).bind sizeOfText? = none := by decide +kernel
  have hscratch : (repairing scratchCapacityVariable).bind sizeOfText? = some 512 := by
    decide +kernel
  have hcache : (repairing cacheServiceIdsVariable).bind flagOfText? = none := by decide +kernel
  have henvironment : Layer.ofEnvironment repairing = { scratchCapacity := some 512 } := by
    rw [Layer.ofEnvironment, hinitial, hscratch, hcache]
  obtain ⟨-, hrepaired⟩ := (load_layered (fun _ => .ok feedFile.toUTF8) repairing "feeds.toml"
    (.fresh {})).layers feedFile feedDocument _ hbytes parse?_feedFile hstands
  obtain ⟨-, hrefused⟩ := (load_layered (fun _ => .ok feedFile.toUTF8) (fun _ => none)
    "feeds.toml" (.fresh {})).layers feedFile feedDocument _ hbytes parse?_feedFile hstands
  rw [henvironment] at hrepaired
  exact ⟨parse?_feedFile, hstands, hrepaired, hrefused⟩

end Config

end ConverterKit
