import Courier.Proofs.Settings.Environment
import Courier.Settings.Settings

/-!
# The layers of the settings

A setting has the value of the environment, or else that of the settings file, or else the one that
holds if nothing is said. The settings can be loaded exactly if each of these values is of the kind
of its setting and together they can be used, and then they are what is loaded: `load_layers`.
-/

namespace Courier

/-! ### Kinds -/

inductive FieldKind where
  | text
  | integer (k : IntegerKind)

def Field.kind : Field → FieldKind
  | databaseUrl | logFilter => .text
  | databaseConnectionTimeout | deliveryTimeoutMs | executionWindowMs | shutdownTimeoutSeconds =>
    .integer .span
  | databaseMaxConnections | databaseMinConnections | partitionFutureDays | partitionPastDays =>
    .integer .count
  | mainBatchSize | retryBatchSize => .integer .signed
  | workerPoolMultiplier => .integer .size

namespace FieldKind

/-- The value is a text, or an integer in the range of the kind. -/
def Admits : FieldKind → RawValue → Prop
  | text, v => ∃ s, v = .text s
  | integer k, v => ∃ i, v.integer? = some i ∧ k.low ≤ i ∧ i ≤ k.high

/-- A value of the kind, and the entry that it is kept as. -/
inductive Keeps : FieldKind → RawValue → Entry → Prop where
  | text (s : String) : Keeps .text (.text s) (.text s)
  | integer {k : IntegerKind} {v : RawValue} {i : Int} (number : v.integer? = some i)
      (range : k.low ≤ i ∧ i ≤ k.high) : Keeps (.integer k) v (.number i)

theorem Keeps.natural {k : IntegerKind} {v : RawValue} {i : Int}
    (keeps : Keeps (.integer k) v (.number i)) (nonneg : 0 ≤ k.low) :
    Keeps (.integer k) v (.number i.toNat) := by
  obtain _ | ⟨number, range⟩ := keeps
  rw [Int.toNat_of_nonneg (Int.le_trans nonneg range.1)]
  exact .integer number range

theorem admits_iff {kind : FieldKind} {v : RawValue} :
    kind.Admits v ↔ ∃ e, kind.Keeps v e := by
  constructor
  · cases kind with
    | text => rintro ⟨s, rfl⟩; exact ⟨_, .text s⟩
    | integer k => rintro ⟨i, number, range⟩; exact ⟨_, .integer number range⟩
  · rintro ⟨_, keeps⟩
    cases keeps with
    | text s => exact ⟨s, rfl⟩
    | integer number range => exact ⟨_, number, range⟩

end FieldKind

namespace Field

variable {f : Field} {k : IntegerKind} {v : RawValue} {i : Int} {s : String} {n : Nat}

theorem number_ok_iff : f.number k v = .ok i ↔ (FieldKind.integer k).Keeps v (.number i) := by
  unfold number
  constructor
  · intro fine
    split at fine
    · next j number =>
      split at fine
      · next range =>
        cases fine
        exact .integer number range
      · cases fine
    · cases fine
  · rintro (_ | ⟨number, range⟩)
    rw [number]
    exact if_pos range

theorem text_ok_iff : f.text v = .ok s ↔ FieldKind.text.Keeps v (.text s) := by
  constructor
  · intro fine
    cases v with
    | text t => cases fine; exact .text s
    | _ => cases fine
  · rintro (_ | _)
    rfl

end Field

/-! ### All values -/

namespace Settings

theorem bind_ok_iff {ε α β : Type} {x : Except ε α} {g : α → Except ε β} {b : β} :
    x >>= g = .ok b ↔ ∃ a, x = .ok a ∧ g a = .ok b := by
  cases x with
  | error e => exact ⟨nofun, fun ⟨_, fine, _⟩ => nomatch fine⟩
  | ok a => exact ⟨fun fine => ⟨a, rfl, fine⟩, fun ⟨_, same, fine⟩ => by cases same; exact fine⟩

theorem ofRaw_ok_iff {raw : Field → RawValue} {s : Settings} :
    ofRaw raw = .ok s ↔ ∀ f : Field, f.kind.Keeps (raw f) (s.entry f) := by
  unfold ofRaw
  simp only [bind_ok_iff, Field.number_ok_iff, Field.text_ok_iff]
  constructor
  · rintro ⟨_, connectionTimeout, _, maxConnections, _, minConnections, _, url, _, deliveryTimeout,
      _, window, _, mainBatch, _, futureDays, _, pastDays, _, retryBatch, _, filter,
      _, shutdown, _, multiplier, kept⟩ f
    obtain rfl := Except.ok.inj kept
    cases f with
    | databaseConnectionTimeout => exact connectionTimeout.natural (by decide)
    | databaseMaxConnections => exact maxConnections.natural (by decide)
    | databaseMinConnections => exact minConnections.natural (by decide)
    | databaseUrl => exact url
    | deliveryTimeoutMs => exact deliveryTimeout.natural (by decide)
    | executionWindowMs => exact window.natural (by decide)
    | mainBatchSize => exact mainBatch
    | partitionFutureDays => exact futureDays.natural (by decide)
    | partitionPastDays => exact pastDays.natural (by decide)
    | retryBatchSize => exact retryBatch
    | logFilter => exact filter
    | shutdownTimeoutSeconds => exact shutdown.natural (by decide)
    | workerPoolMultiplier => exact multiplier.natural (by decide)
  · intro keeps
    exact ⟨_, keeps .databaseConnectionTimeout, _, keeps .databaseMaxConnections,
      _, keeps .databaseMinConnections, _, keeps .databaseUrl, _, keeps .deliveryTimeoutMs,
      _, keeps .executionWindowMs, _, keeps .mainBatchSize, _, keeps .partitionFutureDays,
      _, keeps .partitionPastDays, _, keeps .retryBatchSize, _, keeps .logFilter,
      _, keeps .shutdownTimeoutSeconds, _, keeps .workerPoolMultiplier, rfl⟩

theorem exists_keeps {raw : Field → RawValue} (admits : ∀ f : Field, f.kind.Admits (raw f)) :
    ∃ s : Settings, ∀ f : Field, f.kind.Keeps (raw f) (s.entry f) := by
  have number (f : Field) (k : IntegerKind) (kind : f.kind = .integer k) :
      ∃ i, f.number k (raw f) = .ok i := by
    have admits := admits f
    rw [kind] at admits
    obtain ⟨i, number, range⟩ := admits
    exact ⟨i, Field.number_ok_iff.mpr (.integer number range)⟩
  have text (f : Field) (kind : f.kind = .text) : ∃ t, f.text (raw f) = .ok t := by
    have admits := admits f
    rw [kind] at admits
    obtain ⟨t, same⟩ := admits
    exact ⟨t, same ▸ rfl⟩
  obtain ⟨_, connectionTimeout⟩ := number .databaseConnectionTimeout .span rfl
  obtain ⟨_, maxConnections⟩ := number .databaseMaxConnections .count rfl
  obtain ⟨_, minConnections⟩ := number .databaseMinConnections .count rfl
  obtain ⟨_, url⟩ := text .databaseUrl rfl
  obtain ⟨_, deliveryTimeout⟩ := number .deliveryTimeoutMs .span rfl
  obtain ⟨_, window⟩ := number .executionWindowMs .span rfl
  obtain ⟨_, mainBatch⟩ := number .mainBatchSize .signed rfl
  obtain ⟨_, futureDays⟩ := number .partitionFutureDays .count rfl
  obtain ⟨_, pastDays⟩ := number .partitionPastDays .count rfl
  obtain ⟨_, retryBatch⟩ := number .retryBatchSize .signed rfl
  obtain ⟨_, filter⟩ := text .logFilter rfl
  obtain ⟨_, shutdown⟩ := number .shutdownTimeoutSeconds .span rfl
  obtain ⟨_, multiplier⟩ := number .workerPoolMultiplier .size rfl
  cases kept : ofRaw raw with
  | ok s => exact ⟨s, ofRaw_ok_iff.mp kept⟩
  | error m =>
    simp only [ofRaw, connectionTimeout, maxConnections, minConnections, url, deliveryTimeout,
      window, mainBatch, futureDays, pastDays, retryBatch, filter, shutdown, multiplier] at kept
    cases kept

/-! ### Usable settings -/

/-- What settings that can be used have to satisfy together. -/
structure IsUsable (s : Settings) : Prop where
  connections : 1 ≤ s.databaseMaxConnections
  ordered : s.databaseMinConnections ≤ s.databaseMaxConnections
  connectionTimeout : 1 ≤ s.databaseConnectionTimeout
  multiplier : 1 ≤ s.workerPoolMultiplier
  mainBatch : 1 ≤ s.mainBatchSize
  retryBatch : 1 ≤ s.retryBatchSize
  window : 1 ≤ s.executionWindowMs
  deliveryTimeout : 1 ≤ s.deliveryTimeoutMs
  shutdown : 1 ≤ s.shutdownTimeoutSeconds

theorem flaw?_eq_none_iff {s : Settings} : s.flaw? = none ↔ s.IsUsable := by
  unfold flaw?
  constructor
  · intro sound
    split_ifs at sound
    constructor <;> omega
  · rintro ⟨_, _, _, _, _, _, _, _, _⟩
    split_ifs <;> first | rfl | omega

theorem client_builds {s : Settings} (usable : s.IsUsable) (refusal : String → String) :
    ∃ c, Client.build refusal s.client = .ok c ∧ c.settings = s.client := by
  have enough := usable.deliveryTimeout
  have timeout : 0 < s.client.timeout.nanos := by
    show 0 < (Duration.ofNanos (s.deliveryTimeoutMs * 1000000)).nanos
    unfold Duration.ofNanos
    split
    · exact Nat.mul_pos enough (by decide)
    · decide
  have agent : Header.isValue s.client.userAgent = true :=
    show Header.isValue ClientSettings.default.userAgent = true by decide
  unfold Client.build
  rw [dif_pos timeout, dif_pos agent]
  exact ⟨_, rfl, rfl⟩

theorem load_ok_iff {environment : Dict String} {file : Option String} {entries : Toml.Entries}
    {s : Settings} (wellFormed : entries? file = some entries) :
    load environment file = .ok s ↔
      (∀ f : Field, f.kind.Keeps (rawValue environment entries f) (s.entry f)) ∧ s.IsUsable := by
  rw [← ofRaw_ok_iff, ← flaw?_eq_none_iff]
  unfold load
  rw [wellFormed]
  constructor
  · intro loaded
    dsimp only at loaded
    split at loaded
    · cases loaded
    · next t kept =>
      split at loaded
      · cases loaded
      · next sound =>
        cases loaded
        exact ⟨kept, sound⟩
  · rintro ⟨kept, sound⟩
    simp only [kept, sound]

/-! ### Layers -/

section Layers

variable {environment environment' : Dict String} {file file' : Option String}
  {entries entries' : Toml.Entries} {f : Field} {v : RawValue}

/-- The value that the first layer with something to say gives to a setting. -/
inductive Layered (environment : Dict String) (entries : Toml.Entries) (f : Field) :
    RawValue → Prop where
  | environment {name text : String} (set : (name, text) ∈ environment.entries)
      (named : Variable.key name = f.name) : Layered environment entries f (Variable.read text)
  | file {item : Toml.Item} (unset : ∀ e ∈ environment.entries, Variable.key e.1 ≠ f.name)
      (found : entries.get? f.name = some item) : Layered environment entries f (.ofItem item)
  | byDefault (unset : ∀ e ∈ environment.entries, Variable.key e.1 ≠ f.name)
      (absent : entries.get? f.name = none) : Layered environment entries f f.byDefault

theorem name_ne (f : Field) : f.name ≠ "" := by
  cases f <;> decide

theorem rawValue_of_layered (orderly : Variable.IsOrderly environment)
    (layered : Layered environment entries f v) : rawValue environment entries f = v := by
  unfold rawValue
  cases layered with
  | environment set named => rw [orderly.value?_of_mem (name_ne f) set named, Option.getD_some]
  | file unset found =>
    rw [orderly.value?_of_unset (name_ne f) unset, found, Option.getD_none, Option.map_some,
      Option.getD_some]
  | byDefault unset absent =>
    rw [orderly.value?_of_unset (name_ne f) unset, absent, Option.getD_none, Option.map_none,
      Option.getD_none]

theorem exists_layered (environment : Dict String) (entries : Toml.Entries) (f : Field) :
    ∃ v, Layered environment entries f v := by
  by_cases set : ∃ e ∈ environment.entries, Variable.key e.1 = f.name
  · obtain ⟨⟨name, text⟩, member, named⟩ := set
    exact ⟨_, .environment member named⟩
  · have unset : ∀ e ∈ environment.entries, Variable.key e.1 ≠ f.name :=
      fun e member named => set ⟨e, member, named⟩
    cases found : entries.get? f.name with
    | some item => exact ⟨_, .file unset found⟩
    | none => exact ⟨_, .byDefault unset found⟩

theorem layered_iff (orderly : Variable.IsOrderly environment) :
    Layered environment entries f v ↔ rawValue environment entries f = v := by
  refine ⟨rawValue_of_layered orderly, ?_⟩
  rintro rfl
  obtain ⟨v, layered⟩ := exists_layered environment entries f
  exact (rawValue_of_layered orderly layered) ▸ layered

/-- Variables that name no setting say nothing. -/
theorem Layered.of_same_variables
    (same : ∀ (f : Field) e, Variable.key e.1 = f.name →
      (e ∈ environment.entries ↔ e ∈ environment'.entries))
    (layered : Layered environment entries f v) : Layered environment' entries f v := by
  have still (unset : ∀ e ∈ environment.entries, Variable.key e.1 ≠ f.name) :
      ∀ e ∈ environment'.entries, Variable.key e.1 ≠ f.name :=
    fun e member named => unset e ((same f e named).mpr member) named
  cases layered with
  | @environment name text set named =>
    exact .environment ((same f (name, text) named).mp set) named
  | file unset found => exact .file (still unset) found
  | byDefault unset absent => exact .byDefault (still unset) absent

/-- The settings file says nothing about what the environment sets. -/
theorem Layered.of_same_rest
    (same : ∀ f : Field, (∀ e ∈ environment.entries, Variable.key e.1 ≠ f.name) →
      entries'.get? f.name = entries.get? f.name)
    (layered : Layered environment entries f v) : Layered environment entries' f v := by
  cases layered with
  | environment set named => exact .environment set named
  | file unset found => exact .file unset ((same f unset).trans found)
  | byDefault unset absent => exact .byDefault unset ((same f unset).trans absent)

theorem load_congr (wellFormed : entries? file = some entries)
    (wellFormed' : entries? file' = some entries')
    (same : ∀ f, rawValue environment' entries' f = rawValue environment entries f) :
    load environment' file' = load environment file := by
  have same : rawValue environment' entries' = rawValue environment entries := funext same
  unfold load
  rw [wellFormed, wellFormed']
  dsimp only
  rw [same]

/-- In an orderly environment and with a settings file that is absent or well-formed, each setting
has the value of its first layer. They can be loaded exactly if each value is of the kind of its
setting and they can be used together; then these values are loaded, and a client can be built from
them. Variables that name no setting do not matter, nor does the file where the environment
counts. -/
theorem load_layers (orderly : Variable.IsOrderly environment)
    (wellFormed : entries? file = some entries) :
    ∃ raw : Field → RawValue, (∀ f v, Layered environment entries f v ↔ raw f = v) ∧
      ((∃ s, load environment file = .ok s) ↔ (∀ f : Field, f.kind.Admits (raw f)) ∧
        ∀ s : Settings, (∀ f : Field, f.kind.Keeps (raw f) (s.entry f)) → s.IsUsable) ∧
      (∀ s, load environment file = .ok s →
        (∀ f : Field, f.kind.Keeps (raw f) (s.entry f)) ∧ s.IsUsable ∧
          ∀ refusal, ∃ c, Client.build refusal s.client = .ok c ∧ c.settings = s.client) ∧
      (∀ environment', Variable.IsOrderly environment' →
        (∀ (f : Field) e, Variable.key e.1 = f.name →
          (e ∈ environment.entries ↔ e ∈ environment'.entries)) →
        load environment' file = load environment file) ∧
      ∀ file' entries', entries? file' = some entries' →
        (∀ f : Field, (∀ e ∈ environment.entries, Variable.key e.1 ≠ f.name) →
          entries'.get? f.name = entries.get? f.name) →
        load environment file' = load environment file := by
  refine ⟨rawValue environment entries, fun f v => layered_iff orderly, ?_, fun s loaded => ?_,
    fun environment' orderly' same => ?_, fun file' entries' wellFormed' same => ?_⟩
  · constructor
    · rintro ⟨s, loaded⟩
      obtain ⟨keeps, usable⟩ := (load_ok_iff wellFormed).mp loaded
      refine ⟨fun f => FieldKind.admits_iff.mpr ⟨_, keeps f⟩, fun t keeps' => ?_⟩
      have same : s = t := Except.ok.inj
        ((ofRaw_ok_iff.mpr keeps).symm.trans (ofRaw_ok_iff.mpr keeps'))
      exact same ▸ usable
    · rintro ⟨admits, usable⟩
      obtain ⟨s, keeps⟩ := exists_keeps admits
      exact ⟨s, (load_ok_iff wellFormed).mpr ⟨keeps, usable s keeps⟩⟩
  · obtain ⟨keeps, usable⟩ := (load_ok_iff wellFormed).mp loaded
    exact ⟨keeps, usable, client_builds usable⟩
  · refine load_congr wellFormed wellFormed fun f => rawValue_of_layered orderly' ?_
    exact ((layered_iff orderly).mpr rfl).of_same_variables same
  · refine load_congr wellFormed wellFormed' fun f => rawValue_of_layered orderly ?_
    exact ((layered_iff orderly).mpr rfl).of_same_rest same

/-- An environment that sets one setting in mixed case and holds another variable. -/
def mixed : Dict String := .ofList [("Main_Batch_Size", " 50 "), ("PATH", "/bin")]

def twoBatches : String := "main_batch_size = 7\nretry_batch_size = 9"

theorem load_layers_mixed :
    Variable.IsOrderly mixed ∧ ∃ entries, ∃ raw : Field → RawValue,
      entries? (some twoBatches) = some entries ∧
      (∀ f v, Layered mixed entries f v ↔ raw f = v) ∧ raw .mainBatchSize = .unsigned 50 ∧
      raw .retryBatchSize = .signed 9 ∧ raw .shutdownTimeoutSeconds = .unsigned 30 := by
  have orderly : Variable.IsOrderly mixed := ⟨by decide +kernel, by decide +kernel⟩
  have set : ("Main_Batch_Size", " 50 ") ∈ mixed.entries := by decide +kernel
  have named : Variable.key "Main_Batch_Size" = Field.name .mainBatchSize := by decide +kernel
  have value : Variable.read " 50 " = .unsigned 50 := by decide +kernel
  have others : ∀ f ∈ [Field.retryBatchSize, .shutdownTimeoutSeconds], ∀ e ∈ mixed.entries,
      Variable.key e.1 ≠ f.name := by decide +kernel
  have read : (entries? (some twoBatches)).map (fun t =>
      ((t.get? (Field.name .retryBatchSize)).map RawValue.ofItem,
        (t.get? (Field.name .shutdownTimeoutSeconds)).map RawValue.ofItem)) =
      some (some (.signed 9), none) := by decide +kernel
  cases wellFormed : entries? (some twoBatches) with
  | none => rw [wellFormed] at read; cases read
  | some entries =>
    rw [wellFormed] at read
    obtain ⟨found, absent⟩ := Prod.mk.inj (Option.some.inj read)
    obtain ⟨item, found, nine⟩ := Option.map_eq_some_iff.mp found
    obtain ⟨raw, layers, _⟩ := load_layers orderly wellFormed
    refine ⟨orderly, entries, raw, rfl, layers, ?_, ?_, ?_⟩
    · exact value ▸ (layers _ _).mp (.environment set named)
    · exact nine ▸ (layers _ _).mp (.file (others _ (by simp)) found)
    · exact (layers _ _).mp (.byDefault (others _ (by simp)) (Option.map_eq_none_iff.mp absent))

/-- A variable whose name only goes by that of a setting once the space before it is left out. -/
def padded : Dict String := .ofList [(" MAIN_BATCH_SIZE", "5")]

theorem padded_name_counts :
    (∀ e ∈ padded.entries, String.ofList (e.1.toList.map Char.toLower) ≠ Field.mainBatchSize.name) ∧
      (load padded none).map (·.mainBatchSize) = .ok 5 ∧
      Field.byDefault .mainBatchSize = .signed 200 := by
  decide +kernel

end Layers

end Settings

end Courier
