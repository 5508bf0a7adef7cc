import ProxyGate.Proofs.SideBySide
import ProxyGate.Proofs.Toml.Table

/-!
# Schemas: which key sets which field, and to what

A `Schema` says which keys a structure of the configuration has, which field of a record each of them
sets, and what a value means there.  That is laid down apart from the readers: a text, a truth value
and a number that is not negative mean themselves, `MeansFormat` is for log formats, `Schema.Means`
for the structures and `MeansListeners` for the list of listeners.  Each reader has a lemma that ends
in `_eq_some_iff` and says that it reads just what a value means.

`Reads` is what it means that a table is read as a record, key by key; what an added key or one taken
out does to the record follows from the laws of the schema alone.  `Idle` is a change of a table that
the record does not show.

Four kinds of tables make up a document: its top level, the settings for headers, those for
self-reports, and one table for each listener.  Each has its schema here.
-/

namespace ProxyGate.Config

open Toml (Value Table)

/-! ## What a value means -/

theorem text?_eq_some_iff {value : Value} {text : String} :
    text? value = some text ↔ value = .text text := by
  cases value <;> simp [text?]

theorem bool?_eq_some_iff {value : Value} {truth : Bool} :
    bool? value = some truth ↔ value = .bool truth := by
  cases value <;> simp [bool?]

theorem nat?_eq_some_iff {value : Value} {number : Nat} :
    nat? value = some number ↔ value = .integer number := by
  cases value with
  | integer value =>
    cases value with
    | ofNat value =>
      rw [nat?, Option.some.injEq, Value.integer.injEq]
      exact Int.ofNat_inj.symm
    | negSucc value => simp [nat?]
  | text _ | float _ | bool _ | moment _ | list _ | tables _ _ | table _ _ => simp [nat?]

/-- The words for the log formats. -/
inductive LogFormat.Named : LogFormat → String → Prop where
  | pretty : Named .pretty "pretty"
  | compact : Named .compact "compact"

theorem LogFormat.ofWord?_eq_some_iff {word : String} {format : LogFormat} :
    LogFormat.ofWord? word = some format ↔ format.Named word := by
  constructor
  · intro h
    unfold ofWord? at h
    split at h
    · cases h
      simp only [*]
      exact .pretty
    · split at h
      · cases h
        simp only [*]
        exact .compact
      · cases h
  · intro h
    cases h <;> rfl

/-- A list or a table with nothing in it. -/
inductive Hollow : Value → Prop where
  | list : Hollow (.list [])
  | table (form : Toml.Form) : Hollow (.table form [])

theorem isEmpty_iff {value : Value} : isEmpty value = true ↔ Hollow value := by
  constructor
  · intro h
    cases value with
    | list items =>
      cases List.isEmpty_iff.mp h
      exact .list
    | table form entries =>
      cases List.isEmpty_iff.mp h
      exact .table form
    | text _ | integer _ | float _ | bool _ | moment _ | tables _ _ => cases h
  · intro h
    cases h <;> rfl

/-- A value means a log format: as its word, or as a table whose one key is the word and has nothing
for a value. -/
inductive MeansFormat : Value → LogFormat → Prop where
  | word {word : String} {format : LogFormat} (h : format.Named word) :
      MeansFormat (.text word) format
  | key {form : Toml.Form} {word : String} {value : Value} {format : LogFormat}
      (h : format.Named word) (hhollow : Hollow value) :
      MeansFormat (.table form [(word, value)]) format

theorem logFormat?_eq_some_iff {value : Value} {format : LogFormat} :
    logFormat? value = some format ↔ MeansFormat value format := by
  constructor
  · intro h
    unfold logFormat? at h
    split at h
    · exact .word (LogFormat.ofWord?_eq_some_iff.mp h)
    · obtain ⟨hempty, hword⟩ := Option.ite_none_right_eq_some.mp h
      exact .key (LogFormat.ofWord?_eq_some_iff.mp hword) (isEmpty_iff.mp hempty)
    · cases h
  · intro h
    cases h with
    | word h => exact LogFormat.ofWord?_eq_some_iff.mpr h
    | key h hhollow =>
      exact (if_pos (isEmpty_iff.mpr hhollow)).trans (LogFormat.ofWord?_eq_some_iff.mpr h)

/-! ## Schemas -/

/-- Which keys a structure may have, which field of a record each key sets, and to what. -/
structure Schema (Record : Type) where
  Key : Type
  /-- What the field of a key holds. -/
  Kind : Key → Type
  name : Key → String
  /-- The place of a key where the structure is written as a list. -/
  place : Key → Nat
  /-- What a value means for the field of a key. -/
  means : (key : Key) → Value → Kind key → Prop
  decode? : (key : Key) → Value → Option (Kind key)
  /-- The record of a table without keys. -/
  default : Record
  get : (key : Key) → Record → Kind key
  set : (key : Key) → Kind key → Record → Record
  decode?_eq_some_iff : ∀ {key value given},
    decode? key value = some given ↔ means key value given
  name_ne : ∀ {key other}, other ≠ key → name other ≠ name key
  get_set : ∀ key value record, get key (set key value record) = value
  get_set_of_ne : ∀ {key other}, other ≠ key → ∀ value record,
    get other (set key value record) = get other record
  ext : ∀ {first second}, (∀ key, get key first = get key second) → first = second

namespace Schema

variable {Record : Type} {schema : Schema Record} {table other : Table} {record : Record}

/-- The default of a field. -/
def defaultOf (schema : Schema Record) (key : schema.Key) : schema.Kind key :=
  schema.get key schema.default

/-- What a field holds: its default where nothing is given for it, and otherwise what the value
means. -/
inductive Fills (schema : Schema Record) (key : schema.Key) :
    Option Value → schema.Kind key → Prop where
  | absent : Fills schema key none (schema.defaultOf key)
  | given {value : Value} {given : schema.Kind key} (means : schema.means key value given) :
      Fills schema key (some value) given

/-- A table is read as a record, field by field. -/
def Reads (schema : Schema Record) (table : Table) (record : Record) : Prop :=
  ∀ key, schema.Fills key (table.get? (schema.name key)) (schema.get key record)

/-- A value means a record: as a table of its fields by their names, or as a list of them by their
places.  A moment is a structure of its own, in which no field has a name. -/
inductive Means (schema : Schema Record) : Value → Record → Prop where
  | named {form : Toml.Form} {table : Table} {record : Record} (h : schema.Reads table record) :
      Means schema (.table form table) record
  | moment {spelling : String} {record : Record} (h : schema.Reads [] record) :
      Means schema (.moment spelling) record
  | placed {value : Value} {items : List Value} {record : Record} (hitems : value.HasItems items)
      (h : ∀ key, schema.Fills key items[schema.place key]? (schema.get key record)) :
      Means schema value record

theorem means_table_iff {form : Toml.Form} :
    schema.Means (.table form table) record ↔ schema.Reads table record := by
  constructor
  · intro h
    cases h with
    | named h => exact h
    | placed hitems => cases hitems
  · exact .named

/-- A value means one thing for a field. -/
theorem means_unique {key : schema.Key} {value : Value} {first second : schema.Kind key}
    (hfirst : schema.means key value first) (hsecond : schema.means key value second) :
    first = second := by
  have hread : schema.decode? key value = some first := schema.decode?_eq_some_iff.mpr hfirst
  rw [schema.decode?_eq_some_iff.mpr hsecond] at hread
  exact (Option.some.inj hread).symm

/-! ### Its reader -/

/-- A setting is read as what fills its field. -/
theorem read?_eq_some_iff {settings : Settings} {key : schema.Key} {given : schema.Kind key} :
    settings.read? (schema.name key) (schema.place key) (schema.decode? key)
        (schema.defaultOf key) = some given ↔
      schema.Fills key (settings.get? (schema.name key) (schema.place key)) given := by
  rw [Settings.read?]
  cases settings.get? (schema.name key) (schema.place key) with
  | none =>
    constructor
    · intro h
      cases h
      exact .absent
    · intro h
      cases h
      rfl
  | some value =>
    rw [schema.decode?_eq_some_iff]
    constructor
    · exact .given
    · intro h
      cases h with
      | given means => exact means

/-- A value means a record just where its settings fill the fields. -/
theorem means_iff_settings {value : Value} :
    schema.Means value record ↔ ∃ settings, Settings.ofValue? value = some settings ∧
      ∀ key, schema.Fills key (settings.get? (schema.name key) (schema.place key))
        (schema.get key record) := by
  constructor
  · intro h
    cases h with
    | named h | moment h => exact ⟨_, rfl, h⟩
    | placed hitems h => cases hitems <;> exact ⟨_, rfl, h⟩
  · rintro ⟨settings, hsettings, h⟩
    cases value with
    | table form entries =>
      cases hsettings
      exact .named h
    | moment spelling =>
      cases hsettings
      exact .moment h
    | list items =>
      cases hsettings
      exact .placed (.list items) h
    | tables earlier last =>
      cases hsettings
      exact .placed (.tables earlier last) h
    | text _ | integer _ | float _ | bool _ => cases hsettings

/-! ### Changes of a table -/

theorem set_get (schema : Schema Record) (key : schema.Key) (record : Record) :
    schema.set key (schema.get key record) record = record := by
  refine schema.ext fun other => ?_
  by_cases h : other = key
  · rw [h, schema.get_set]
  · rw [schema.get_set_of_ne h]

theorem set_set (schema : Schema Record) (key : schema.Key) (first second : schema.Kind key)
    (record : Record) :
    schema.set key first (schema.set key second record) = schema.set key first record := by
  refine schema.ext fun other => ?_
  by_cases h : other = key
  · rw [h, schema.get_set, schema.get_set]
  · rw [schema.get_set_of_ne h, schema.get_set_of_ne h, schema.get_set_of_ne h]

namespace Reads

/-- Only the keys of the schema count. -/
theorem congr (h : schema.Reads table record)
    (hsame : ∀ key, other.get? (schema.name key) = table.get? (schema.name key)) :
    schema.Reads other record := by
  intro key
  rw [hsame key]
  exact h key

theorem get_of_none (h : schema.Reads table record) (key : schema.Key)
    (hnone : table.get? (schema.name key) = none) :
    schema.get key record = schema.defaultOf key := by
  have hfills := h key
  rw [hnone] at hfills
  generalize schema.get key record = field at hfills ⊢
  cases hfills
  rfl

theorem means_of_some (h : schema.Reads table record) (key : schema.Key) {value : Value}
    (hsome : table.get? (schema.name key) = some value) :
    schema.means key value (schema.get key record) := by
  have hfills := h key
  rw [hsome] at hfills
  cases hfills with
  | given means => exact means

/-- A key that is set sets its field. -/
theorem set (h : schema.Reads table record) (key : schema.Key) {value : Value}
    {given : schema.Kind key} (hmeans : schema.means key value given) :
    schema.Reads (table.set (schema.name key) value) (schema.set key given record) := by
  intro other
  by_cases hkey : other = key
  · subst hkey
    rw [Table.get?_set_self, schema.get_set]
    exact .given hmeans
  · rw [Table.get?_set_of_ne (schema.name_ne hkey), schema.get_set_of_ne hkey]
    exact h other

/-- A key that is taken out leaves the default in its field. -/
theorem erase (h : schema.Reads table record) (key : schema.Key) :
    schema.Reads (table.erase (schema.name key))
      (schema.set key (schema.defaultOf key) record) := by
  intro other
  by_cases hkey : other = key
  · rw [hkey, Table.get?_erase_self, schema.get_set]
    exact .absent
  · rw [Table.get?_erase_of_ne (schema.name_ne hkey), schema.get_set_of_ne hkey]
    exact h other

end Reads

/-- A change of a table that says nothing new. -/
inductive Idle (schema : Schema Record) (table : Table) : Table → Prop
  /-- A key with the default is taken out. -/
  | dropped (key : schema.Key) (value : Value) :
    table.get? (schema.name key) = some value →
    schema.means key value (schema.defaultOf key) →
    Idle schema table (table.erase (schema.name key))
  /-- Keys that the schema does not know come and go. -/
  | unknown (other : Table) :
    (∀ key, other.get? (schema.name key) = table.get? (schema.name key)) →
    Idle schema table other

theorem Idle.reads (hidle : schema.Idle table other) (h : schema.Reads table record) :
    schema.Reads other record := by
  cases hidle with
  | dropped key value hsome hdefault =>
    have hsame : schema.get key record = schema.defaultOf key :=
      means_unique (h.means_of_some key hsome) hdefault
    have herased := h.erase key
    rw [← hsame, schema.set_get] at herased
    exact herased
  | unknown _ hsame => exact h.congr hsame

section Unknown

variable (schema) (table) {name : String} (h : ∀ key, schema.name key ≠ name)

include h

/-- An unknown key may be added. -/
theorem idle_set (value : Value) : schema.Idle table (table.set name value) :=
  .unknown _ fun key => Table.get?_set_of_ne (h key) table value

/-- An unknown key may be taken out. -/
theorem idle_erase : schema.Idle table (table.erase name) :=
  .unknown _ fun key => Table.get?_erase_of_ne (h key) table

end Unknown

end Schema

/-! ## The schemas of a configuration -/

/-- The keys of a listener. -/
inductive ListenerKey where
  | bindAddress
  | proxyProtocol
  | maxConnections
deriving DecidableEq

/-- The schema of a listener. -/
def listenerSchema : Schema Listener where
  Key := ListenerKey
  Kind
    | .bindAddress => String
    | .proxyProtocol => Bool
    | .maxConnections => Nat
  name
    | .bindAddress => "bind_address"
    | .proxyProtocol => "proxy_protocol"
    | .maxConnections => "max_connections"
  place
    | .bindAddress => 0
    | .proxyProtocol => 1
    | .maxConnections => 2
  means
    | .bindAddress => fun value text => value = .text text
    | .proxyProtocol => fun value truth => value = .bool truth
    | .maxConnections => fun value number => value = .integer (number : Nat)
  decode?
    | .bindAddress => text?
    | .proxyProtocol => bool?
    | .maxConnections => nat?
  default := { bindAddress := "0.0.0.0:8080", proxyProtocol := false, maxConnections := 10000 }
  get
    | .bindAddress => Listener.bindAddress
    | .proxyProtocol => Listener.proxyProtocol
    | .maxConnections => Listener.maxConnections
  set
    | .bindAddress => fun bindAddress listener => { listener with bindAddress }
    | .proxyProtocol => fun proxyProtocol listener => { listener with proxyProtocol }
    | .maxConnections => fun maxConnections listener => { listener with maxConnections }
  decode?_eq_some_iff {key} := by
    cases key
    · exact text?_eq_some_iff
    · exact bool?_eq_some_iff
    · exact nat?_eq_some_iff
  name_ne := by
    intro key other
    cases key <;> cases other <;> decide
  get_set key := by cases key <;> exact fun _ _ => rfl
  get_set_of_ne := by
    intro key other h
    cases key <;> cases other <;> first | exact absurd rfl h | exact fun _ _ => rfl
  ext := by
    rintro ⟨_, _, _⟩ ⟨_, _, _⟩ h
    exact Listener.mk.injEq .. ▸ ⟨h .bindAddress, h .proxyProtocol, h .maxConnections⟩

theorem Listener.ofValue?_eq_some_iff {value : Value} {listener : Listener} :
    Listener.ofValue? value = some listener ↔ listenerSchema.Means value listener := by
  rw [Schema.means_iff_settings]
  constructor
  · intro h
    obtain ⟨settings, hsettings, h⟩ := Option.bind_eq_some_iff.mp h
    obtain ⟨bindAddress, haddress, h⟩ := Option.bind_eq_some_iff.mp h
    obtain ⟨proxyProtocol, hprotocol, h⟩ := Option.bind_eq_some_iff.mp h
    obtain ⟨maxConnections, hlimit, h⟩ := Option.bind_eq_some_iff.mp h
    cases h
    refine ⟨settings, hsettings, fun key => listenerSchema.read?_eq_some_iff.mp ?_⟩
    cases key
    · exact haddress
    · exact hprotocol
    · exact hlimit
  · rintro ⟨settings, hsettings, h⟩
    have hread := fun key => listenerSchema.read?_eq_some_iff.mpr (h key)
    refine Option.bind_eq_some_iff.mpr ⟨settings, hsettings, ?_⟩
    refine Option.bind_eq_some_iff.mpr ⟨_, hread .bindAddress, ?_⟩
    refine Option.bind_eq_some_iff.mpr ⟨_, hread .proxyProtocol, ?_⟩
    exact Option.bind_eq_some_iff.mpr ⟨_, hread .maxConnections, rfl⟩

/-- A value means a list of listeners: each of its items means the listener at its place. -/
def MeansListeners (value : Value) (listeners : List Listener) : Prop :=
  ∃ items, value.HasItems items ∧ List.Forall₂ listenerSchema.Means items listeners

theorem listeners?_eq_some_iff {value : Value} {listeners : List Listener} :
    listeners? value = some listeners ↔ MeansListeners value listeners := by
  rw [listeners?]
  refine Option.bind_eq_some_iff.trans (exists_congr fun items => ?_)
  rw [Value.items?_eq_some_iff, mapM_eq_some_iff_forall₂ fun _ _ => Listener.ofValue?_eq_some_iff]

/-- The schema of the settings for headers, which have one key. -/
def headersSchema : Schema Nat where
  Key := Unit
  Kind _ := Nat
  name _ := "header_timeout_ms"
  place _ := 0
  means _ value number := value = .integer (number : Nat)
  decode? _ := nat?
  default := 5000
  get _ headerTimeout := headerTimeout
  set _ headerTimeout _ := headerTimeout
  decode?_eq_some_iff := nat?_eq_some_iff
  name_ne h := absurd rfl h
  get_set _ _ _ := rfl
  get_set_of_ne h := absurd rfl h
  ext h := h ()

theorem headerTimeout?_eq_some_iff {value : Value} {headerTimeout : Nat} :
    headerTimeout? value = some headerTimeout ↔ headersSchema.Means value headerTimeout := by
  rw [Schema.means_iff_settings]
  refine Option.bind_eq_some_iff.trans (exists_congr fun settings => and_congr_right fun _ => ?_)
  exact ⟨fun h _ => headersSchema.read?_eq_some_iff.mp h,
    fun h => headersSchema.read?_eq_some_iff.mpr (h ())⟩

/-- The keys of the settings for self-reports. -/
inductive ReportsKey where
  | logLevel
  | logFormat
  | metricsEnabled
  | metricsAddress
deriving DecidableEq

/-- The schema of the settings for self-reports. -/
def reportsSchema : Schema Observability where
  Key := ReportsKey
  Kind
    | .logLevel => String
    | .logFormat => LogFormat
    | .metricsEnabled => Bool
    | .metricsAddress => String
  name
    | .logLevel => "log_level"
    | .logFormat => "log_format"
    | .metricsEnabled => "metrics_enabled"
    | .metricsAddress => "metrics_address"
  place
    | .logLevel => 0
    | .logFormat => 1
    | .metricsEnabled => 2
    | .metricsAddress => 3
  means
    | .logLevel => fun value text => value = .text text
    | .logFormat => MeansFormat
    | .metricsEnabled => fun value truth => value = .bool truth
    | .metricsAddress => fun value text => value = .text text
  decode?
    | .logLevel => text?
    | .logFormat => logFormat?
    | .metricsEnabled => bool?
    | .metricsAddress => text?
  default := {
    logLevel := "info"
    logFormat := .pretty
    metricsEnabled := false
    metricsAddress := "127.0.0.1:9090" }
  get
    | .logLevel => Observability.logLevel
    | .logFormat => Observability.logFormat
    | .metricsEnabled => Observability.metricsEnabled
    | .metricsAddress => Observability.metricsAddress
  set
    | .logLevel => fun logLevel reports => { reports with logLevel }
    | .logFormat => fun logFormat reports => { reports with logFormat }
    | .metricsEnabled => fun metricsEnabled reports => { reports with metricsEnabled }
    | .metricsAddress => fun metricsAddress reports => { reports with metricsAddress }
  decode?_eq_some_iff {key} := by
    cases key
    · exact text?_eq_some_iff
    · exact logFormat?_eq_some_iff
    · exact bool?_eq_some_iff
    · exact text?_eq_some_iff
  name_ne := by
    intro key other
    cases key <;> cases other <;> decide
  get_set key := by cases key <;> exact fun _ _ => rfl
  get_set_of_ne := by
    intro key other h
    cases key <;> cases other <;> first | exact absurd rfl h | exact fun _ _ => rfl
  ext := by
    rintro ⟨_, _, _, _⟩ ⟨_, _, _, _⟩ h
    exact Observability.mk.injEq .. ▸
      ⟨h .logLevel, h .logFormat, h .metricsEnabled, h .metricsAddress⟩

theorem Observability.ofValue?_eq_some_iff {value : Value} {reports : Observability} :
    Observability.ofValue? value = some reports ↔ reportsSchema.Means value reports := by
  rw [Schema.means_iff_settings]
  constructor
  · intro h
    obtain ⟨settings, hsettings, h⟩ := Option.bind_eq_some_iff.mp h
    obtain ⟨logLevel, hlevel, h⟩ := Option.bind_eq_some_iff.mp h
    obtain ⟨logFormat, hformat, h⟩ := Option.bind_eq_some_iff.mp h
    obtain ⟨metricsEnabled, henabled, h⟩ := Option.bind_eq_some_iff.mp h
    obtain ⟨metricsAddress, haddress, h⟩ := Option.bind_eq_some_iff.mp h
    cases h
    refine ⟨settings, hsettings, fun key => reportsSchema.read?_eq_some_iff.mp ?_⟩
    cases key
    · exact hlevel
    · exact hformat
    · exact henabled
    · exact haddress
  · rintro ⟨settings, hsettings, h⟩
    have hread := fun key => reportsSchema.read?_eq_some_iff.mpr (h key)
    refine Option.bind_eq_some_iff.mpr ⟨settings, hsettings, ?_⟩
    refine Option.bind_eq_some_iff.mpr ⟨_, hread .logLevel, ?_⟩
    refine Option.bind_eq_some_iff.mpr ⟨_, hread .logFormat, ?_⟩
    refine Option.bind_eq_some_iff.mpr ⟨_, hread .metricsEnabled, ?_⟩
    exact Option.bind_eq_some_iff.mpr ⟨_, hread .metricsAddress, rfl⟩

/-- The keys at the top level. -/
inductive TopKey where
  | listeners
  | headers
  | reports
deriving DecidableEq

/-- The schema of the top level. -/
def topSchema : Schema Config where
  Key := TopKey
  Kind
    | .listeners => List Listener
    | .headers => Nat
    | .reports => Observability
  name
    | .listeners => "listeners"
    | .headers => "proxy_protocol"
    | .reports => "observability"
  place
    | .listeners => 0
    | .headers => 1
    | .reports => 2
  means
    | .listeners => MeansListeners
    | .headers => headersSchema.Means
    | .reports => reportsSchema.Means
  decode?
    | .listeners => listeners?
    | .headers => headerTimeout?
    | .reports => Observability.ofValue?
  default := {
    listeners := [listenerSchema.default]
    headerTimeout := headersSchema.default
    observability := reportsSchema.default }
  get
    | .listeners => Config.listeners
    | .headers => Config.headerTimeout
    | .reports => Config.observability
  set
    | .listeners => fun listeners config => { config with listeners }
    | .headers => fun headerTimeout config => { config with headerTimeout }
    | .reports => fun observability config => { config with observability }
  decode?_eq_some_iff {key} := by
    cases key
    · exact listeners?_eq_some_iff
    · exact headerTimeout?_eq_some_iff
    · exact Observability.ofValue?_eq_some_iff
  name_ne := by
    intro key other
    cases key <;> cases other <;> decide
  get_set key := by cases key <;> exact fun _ _ => rfl
  get_set_of_ne := by
    intro key other h
    cases key <;> cases other <;> first | exact absurd rfl h | exact fun _ _ => rfl
  ext := by
    rintro ⟨_, _, _⟩ ⟨_, _, _⟩ h
    exact Config.mk.injEq .. ▸ ⟨h .listeners, h .headers, h .reports⟩

/-- A document is read by the schema of the top level. -/
theorem ofTable?_eq_some_iff {doc : Table} {config : Config} :
    ofTable? doc = some config ↔ topSchema.Reads doc config := by
  have hread : ∀ key given, (Settings.named doc).read? (topSchema.name key) (topSchema.place key)
      (topSchema.decode? key) (topSchema.defaultOf key) = some given ↔
      topSchema.Fills key (doc.get? (topSchema.name key)) given :=
    fun _ _ => topSchema.read?_eq_some_iff
  constructor
  · intro h
    obtain ⟨listeners, hlisteners, h⟩ := Option.bind_eq_some_iff.mp h
    obtain ⟨headerTimeout, hheaders, h⟩ := Option.bind_eq_some_iff.mp h
    obtain ⟨reports, hreports, h⟩ := Option.bind_eq_some_iff.mp h
    cases h
    refine fun key => (hread key _).mp ?_
    cases key
    · exact hlisteners
    · exact hheaders
    · exact hreports
  · intro h
    have hfields := fun key => (hread key _).mpr (h key)
    refine Option.bind_eq_some_iff.mpr ⟨_, hfields .listeners, ?_⟩
    refine Option.bind_eq_some_iff.mpr ⟨_, hfields .headers, ?_⟩
    exact Option.bind_eq_some_iff.mpr ⟨_, hfields .reports, rfl⟩

end ProxyGate.Config
